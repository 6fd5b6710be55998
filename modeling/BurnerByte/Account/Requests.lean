import BurnerByte.Account.SignIn

/-!
# The requests of the authentication service

The requests that renew or end sessions or change how a user signs in, and the
service as a machine that handles one request after the other. A request that revokes
sessions in the database may or may not mark the user's access tokens as revoked.
-/

namespace BurnerByte.Account

section

variable (cfg : Config)

/-! ## Renewing and ending sessions -/

/-- The statements of `Refresh`, one after the other. -/
def refresh (svc : Service) (input : RefreshInput) (issuedAt : Nat) :
    Except String TokenPair × Service :=
  match svc.db.getByTokenHash input.tokenHash with
  | none => (.error "invalid refresh token", svc)
  | some session =>
    if session.revoked then
      (.error "refresh token reused — all sessions revoked",
        svc.revokeWhere fun s => s.tokenFamily = session.tokenFamily)
    else if session.expiresAt < input.now then (.error "refresh token expired", svc)
    else
      let svc := svc.revokeWhere fun s => s.id = session.id
      match svc.accounts.getByID session.userID with
      | none => (.error RepoError.notFound.message, svc)
      | some user =>
        match checkSessionAuthMethodLock user session with
        | .error err => (.error err, svc.revokeWhere fun s => s.id = session.id)
        | .ok () =>
          match svc.insertSession (input.newSession session) with
          | .error err => (.error err, svc)
          | .ok svc =>
            (.ok ⟨cfg.tokens.generateAccessToken issuedAt session.userID user, input.newHash⟩, svc)

/-- Execute so many statements of a call. -/
def Refresh.exec : Nat → Refresh → Sessions → Refresh × Sessions
  | 0, call, db => (call, db)
  | n + 1, call, db => exec n (call.stmt db).1 (call.stmt db).2

/-- A call that is not interrupted is done after four statements at most, with the sessions
that `refresh` leaves and the same success. -/
theorem refresh_exec (svc : Service) (input : RefreshInput) (issuedAt : Nat) :
    ∃ result, Refresh.exec 4 (.lookup input) svc.db =
        (.done result, (refresh cfg svc input issuedAt).2.db) ∧
      (result.toOption.isSome ↔ (refresh cfg svc input issuedAt).1.toOption.isSome) := by
  simp only [Refresh.exec, Refresh.stmt, refresh]
  cases hfind : svc.db.getByTokenHash input.tokenHash with
  | none => exact ⟨_, rfl, Iff.rfl⟩
  | some session =>
    simp only [Refresh.afterLookup]
    by_cases hrevoked : session.revoked
    · simp only [hrevoked, if_true]
      exact ⟨_, rfl, Iff.rfl⟩
    by_cases hexpired : session.expiresAt < input.now
    · simp only [hrevoked, hexpired, if_true, Bool.false_eq_true, if_false]
      exact ⟨_, rfl, Iff.rfl⟩
    simp only [hrevoked, hexpired, Bool.false_eq_true, if_false]
    -- The revocation has not changed the users.
    have husers : (svc.db.revoke session.id).users session.userID =
        svc.accounts.getByID session.userID := rfl
    have haccounts : (svc.revokeWhere fun s => s.id = session.id).accounts = svc.accounts := rfl
    rw [husers, haccounts]
    cases huser : svc.accounts.getByID session.userID with
    | none => exact ⟨_, rfl, Iff.rfl⟩
    | some user =>
      simp only [Refresh.afterGetUser]
      cases hlock : checkSessionAuthMethodLock user session with
      | error err => exact ⟨_, rfl, Iff.rfl⟩
      | ok _ =>
        have hsessions : (svc.revokeWhere fun s => s.id = session.id).sessions =
            (svc.db.revoke session.id).sessions := rfl
        simp only [Service.insertSession, hsessions]
        cases hinsert : (svc.db.revoke session.id).sessions.insert (input.newSession session) with
        | none => exact ⟨_, rfl, Iff.rfl⟩
        | some sessions => exact ⟨_, rfl, Iff.rfl⟩

section

variable (svc : Service)

/-- The answer is the session of the token, if there is one. -/
def logout (tokenHash : String) (now : Nat) : Option Session × Service :=
  match svc.db.getByTokenHash tokenHash with
  | none => (none, svc)
  | some session =>
    (some session, (svc.revokeWhere fun s => s.tokenFamily = session.tokenFamily).markRevoked
      session.userID now)

def revokeSession (userID sessionID : UUID) (now : Nat) : Service :=
  (svc.revokeWhere fun s => s.id = sessionID && s.userID = userID).markRevoked userID now

def revokeAll (userID : UUID) : Service :=
  svc.revokeWhere fun s => s.userID = userID && !s.revoked

/-- Without an unrevoked session there is nothing to mark. -/
def revokeAllSessions (userID : UUID) (now : Nat) : Service :=
  if 0 < svc.db.revokeAllCount userID then (revokeAll svc userID).markRevoked userID now
  else revokeAll svc userID

def adminRevokeSessions (userID : UUID) (now : Nat) : Service :=
  (revokeAll svc userID).markRevoked userID now

/-! ## Changing how a user signs in -/

/-- Compute a new row, write it, and revoke sessions. -/
def changeUser (userID : UUID) (missing : String)
    (change : User → Except String User) (p : Session → Bool) : Except String Unit × Service :=
  match svc.accounts.getByID userID with
  | none => (.error missing, svc)
  | some user =>
    match change user with
    | .error err => (.error err, svc)
    | .ok user => (.ok (), (svc.updateUser userID user).revokeWhere p)

/-- The sessions of a user that `RevokeAll` revokes. -/
def ofUser (userID : UUID) (s : Session) : Bool := s.userID = userID && !s.revoked

def Service.changePassword (userID currentSessionID : UUID)
    (currentPassword newPassword : String) (now : Nat) : Except String Unit × Service :=
  changeUser svc userID RepoError.notFound.message
    (Account.changePassword cfg.env now currentPassword newPassword)
    fun s => ofUser userID s && s.id ≠ currentSessionID

/-- The user of the reset token, if the token is valid. -/
def Service.resetPassword (token : String) (tokenUser : Option UUID)
    (newPassword : String) (now : Nat) : Except String Unit × Service :=
  if token = "" ∨ newPassword = "" then (.error "token and new_password are required", svc)
  else
    match cfg.env.validatePassword newPassword, tokenUser with
    | .error err, _ => (.error err, svc)
    | .ok (), none => (.error "invalid or expired reset token", svc)
    | .ok (), some userID =>
      changeUser svc userID "user not found"
        (Account.resetPassword cfg.env now token true newPassword) (ofUser userID)

def Service.migrateToSSO (userID : UUID) : Except String Unit × Service :=
  changeUser svc userID "user not found"
    (Account.migrateToSSO (svc.identities.countP fun i => i.userID = userID)) (ofUser userID)

def Service.migrateToPassword (userID : UUID) (newPassword : String)
    (now : Nat) : Except String Unit × Service :=
  changeUser svc userID "user not found" (Account.migrateToPassword cfg.env now newPassword)
    (ofUser userID)

/-! ## Requests -/

inductive Request where
  | register (input : RegisterInput)
  | complete (input : SetupInput)
  | login (input : PasswordInput)
  | ssoLogin (input : SSOLoginInput)
  | resolveLogin (input : ResolveInput)
  | refresh (input : RefreshInput) (issuedAt : Nat)
  | logout (tokenHash : String) (now : Nat)
  | revokeSession (userID sessionID : UUID) (now : Nat)
  | revokeAllSessions (userID : UUID) (now : Nat)
  | adminRevokeSessions (userID : UUID) (now : Nat)
  | changePassword (userID currentSessionID : UUID) (currentPassword newPassword : String)
    (now : Nat)
  | resetPassword (token : String) (tokenUser : Option UUID) (newPassword : String) (now : Nat)
  | migrateToSSO (userID : UUID)
  | migrateToPassword (userID : UUID) (newPassword : String) (now : Nat)
  | deleteExpired (now : Nat)

/-- A request that signs someone in answers with tokens. -/
def withTokens (result : Except String TokenPair × Service) :
    Except String (Option TokenPair) × Service := (result.1.map some, result.2)

def withoutTokens (result : Except String Unit × Service) :
    Except String (Option TokenPair) × Service := (result.1.map fun _ => none, result.2)

def handle : Request → Except String (Option TokenPair) × Service
  | .register input => withTokens (register cfg svc input)
  | .complete input => withTokens (complete cfg svc input)
  | .login input => withTokens (passwordLogin cfg svc input)
  | .ssoLogin input => withTokens (ssoLogin cfg svc input)
  | .resolveLogin input => withTokens (resolveLogin cfg svc input)
  | .refresh input issuedAt => withTokens (refresh cfg svc input issuedAt)
  | .logout tokenHash now => (.ok none, (logout svc tokenHash now).2)
  | .revokeSession userID sessionID now => (.ok none, revokeSession svc userID sessionID now)
  | .revokeAllSessions userID now => (.ok none, revokeAllSessions svc userID now)
  | .adminRevokeSessions userID now => (.ok none, adminRevokeSessions svc userID now)
  | .changePassword userID sessionID current new now =>
    withoutTokens (svc.changePassword cfg userID sessionID current new now)
  | .resetPassword token tokenUser new now =>
    withoutTokens (svc.resetPassword cfg token tokenUser new now)
  | .migrateToSSO userID => withoutTokens (svc.migrateToSSO userID)
  | .migrateToPassword userID new now => withoutTokens (svc.migrateToPassword cfg userID new now)
  | .deleteExpired now => (.ok none, svc.deleteExpired now)

/-- The service after a request. -/
def serve (req : Request) : Service := (handle cfg svc req).2

end

end

section

variable {pair : TokenPair}

theorem withTokens_eq_ok {result : Except String TokenPair × Service}
    (h : (withTokens result).1 = .ok (some pair)) : result = (.ok pair, (withTokens result).2) := by
  obtain ⟨answer, state⟩ := result
  obtain ⟨pair', rfl, heq⟩ := Outcome.map_eq_ok h
  cases heq
  rfl

/-- The answer is tested without a look at the tokens. -/
theorem exists_pair {answer : Except String (Option TokenPair)}
    (h : answer.toOption.join.isSome = true) : ∃ pair, answer = .ok (some pair) := by
  cases answer with
  | error err => cases h
  | ok tokens =>
    obtain ⟨pair, rfl⟩ := Option.isSome_iff_exists.mp h
    exact ⟨pair, rfl⟩

end

end BurnerByte.Account
