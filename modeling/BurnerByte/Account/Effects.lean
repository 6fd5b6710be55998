import BurnerByte.Account.Requests

/-!
# What a request may do

Each request is a sequence of effects within limits: the sessions it may create, the
rows it may add or rewrite, the times with which it may mark a user. An invariant of
the service is checked against these limits and not against the requests.
-/

namespace BurnerByte.Account

open Go Outcome

structure Limits where
  session : Session → Prop
  newUser : UUID → User → Prop
  rewrite : User → User → Prop
  mark : Nat → Prop
  purge : Nat → Prop

/-- Any session may be revoked, and a row is rewritten from the row that is there. -/
def Limits.Allows (limits : Limits) (svc : Service) : Effect → Prop
  | .revoke _ => True
  | .insertSession session => limits.session session
  | .deleteExpired now => limits.purge now
  | .insertUser id user => limits.newUser id user
  | .updateUser id user => ∃ old, svc.accounts.getByID id = some old ∧ limits.rewrite old user
  | .markRevoked _ now => limits.mark now
  | .link _ => True
  | .completeSetup => True

/-- The new state is reached by effects that are allowed where they happen. -/
abbrev Service.DoesWithin (limits : Limits) (svc svc' : Service) : Prop :=
  Trace.Reaches Service.apply limits.Allows svc svc'

namespace Service

variable {limits : Limits} {svc svc' : Service}

theorem doesWithin_effect {e : Effect} (h : limits.Allows svc e) (heq : svc.apply e = svc') :
    svc.DoesWithin limits svc' := heq ▸ .single h

theorem doesWithin_revokeWhere (svc : Service) (p : Session → Bool) :
    svc.DoesWithin limits (svc.revokeWhere p) := doesWithin_effect (e := .revoke p) trivial rfl

theorem doesWithin_revokeAndMark (svc : Service) (p : Session → Bool) (userID : UUID) {now : Nat}
    (h : limits.mark now) : svc.DoesWithin limits ((svc.revokeWhere p).markRevoked userID now) :=
  (svc.doesWithin_revokeWhere p).trans (doesWithin_effect (e := .markRevoked userID now) h rfl)

theorem doesWithin_link (svc : Service) (identity : Identity) :
    svc.DoesWithin limits (svc.link identity) :=
  doesWithin_effect (e := .link identity) trivial rfl

theorem doesWithin_insertSession {session : Session} (h : limits.session session)
    (hok : svc.insertSession session = .ok svc') : svc.DoesWithin limits svc' := by
  refine doesWithin_effect (e := .insertSession session) h ?_
  simp only [apply, hok]
  rfl

theorem doesWithin_insertUser {id : UUID} {user : User} (h : limits.newUser id user)
    (hok : svc.insertUser id user = .ok svc') : svc.DoesWithin limits svc' := by
  refine doesWithin_effect (e := .insertUser id user) h ?_
  simp only [apply, hok]
  rfl

theorem doesWithin_updateUser {id : UUID} {old user : User}
    (hold : svc.accounts.getByID id = some old) (h : limits.rewrite old user) :
    svc.DoesWithin limits (svc.updateUser id user) :=
  doesWithin_effect (e := .updateUser id user) ⟨old, hold, h⟩ rfl

end Service

/-! ## What an effect may do to a user -/

section

variable {limits : Limits} {svc : Service}

/-- Users and identities are left alone. -/
structure KeepsUsers (svc svc' : Service) : Prop where
  accounts : svc'.accounts = svc.accounts
  identities : svc'.identities = svc.identities

namespace KeepsUsers

theorem refl (svc : Service) : KeepsUsers svc svc := ⟨rfl, rfl⟩

theorem trans {svc' svc'' : Service} (h : KeepsUsers svc svc') (h' : KeepsUsers svc' svc'') :
    KeepsUsers svc svc'' :=
  ⟨h'.accounts.trans h.accounts, h'.identities.trans h.identities⟩

end KeepsUsers

theorem insertSession_keepsUsers {svc' : Service} {session : Session}
    (h : svc.insertSession session = .ok svc') : KeepsUsers svc svc' := by
  obtain ⟨sessions, _, rfl⟩ := insertSession_eq_ok h
  exact ⟨rfl, rfl⟩

theorem link_accounts (identity : Identity) : (svc.link identity).accounts = svc.accounts := by
  unfold Service.link
  split <;> rfl

/-- A row stays as it is, or is new, or is rewritten within the limits. -/
inductive Limits.Moves (limits : Limits) (id : UUID) : Option User → Option User → Prop
  | same (found : Option User) : Moves limits id found found
  | created (user : User) (h : limits.newUser id user) : Moves limits id none (some user.stored)
  | rewritten (old user : User) (h : limits.rewrite old user) :
    Moves limits id (some old) (some { user.stored with email := old.email })

theorem Limits.Allows.moves {e : Effect} (he : limits.Allows svc e) (id : UUID) :
    limits.Moves id (svc.accounts.getByID id) ((svc.apply e).accounts.getByID id) := by
  cases e with
  | insertUser newID user =>
    refine getD_of_ok (P := fun s : Service =>
      limits.Moves id (svc.accounts.getByID id) (s.accounts.getByID id)) (.same _) ?_
    intro svc' hok
    obtain ⟨accounts, hcreate, rfl⟩ := insertUser_eq_ok hok
    by_cases hid : id = newID
    · subst hid
      rw [Accounts.getByID_create_self hcreate, Accounts.fresh_of_create hcreate]
      exact .created user he
    · rw [Accounts.getByID_create_of_ne hcreate hid]
      exact .same _
  | updateUser oldID user =>
    obtain ⟨old, hold, hrewrite⟩ := he
    simp only [Service.apply, Service.updateUser]
    by_cases hid : id = oldID
    · subst hid
      rw [Accounts.getByID_update_self hold, hold]
      exact .rewritten old user hrewrite
    · rw [Accounts.getByID_update_of_ne hid]
      exact .same _
  | insertSession session =>
    refine getD_of_ok (P := fun s : Service =>
      limits.Moves id (svc.accounts.getByID id) (s.accounts.getByID id)) (.same _) ?_
    intro svc' hok
    rw [(insertSession_keepsUsers hok).accounts]
    exact .same _
  | link identity =>
    simp only [Service.apply, link_accounts]
    exact .same _
  | _ => exact .same _

/-- A mark stays as it is, or is set to a time within the limits. -/
theorem Limits.Allows.marks {e : Effect} (he : limits.Allows svc e) (id : UUID) :
    (svc.apply e).marks id = svc.marks id ∨
      ∃ now, limits.mark now ∧ (svc.apply e).marks id = some now := by
  cases e with
  | markRevoked userID now =>
    by_cases hid : id = userID
    · exact .inr ⟨now, he, if_pos hid⟩
    · exact .inl (if_neg hid)
  | insertUser newID user =>
    refine .inl (getD_of_ok (P := (Service.marks · id = svc.marks id)) rfl fun svc' hok => ?_)
    obtain ⟨accounts, _, rfl⟩ := insertUser_eq_ok hok
    rfl
  | insertSession session =>
    refine .inl (getD_of_ok (P := (Service.marks · id = svc.marks id)) rfl fun svc' hok => ?_)
    obtain ⟨sessions, _, rfl⟩ := insertSession_eq_ok hok
    rfl
  | link identity =>
    refine .inl ?_
    simp only [Service.apply, Service.link]
    split <;> rfl
  | _ => exact .inl rfl

end

/-! ## Sessions -/

section

variable {cfg : Config} {limits : Limits} {svc : Service} {userID : UUID} {user : User}

variable {now : Nat} {provider : Option String} {issue : Issue}

theorem revokeOldestExceeding_does (hmark : limits.mark now) :
    svc.DoesWithin limits (revokeOldestExceeding cfg svc userID user now) := by
  unfold revokeOldestExceeding
  dsimp only
  split
  · exact .refl svc
  · exact svc.doesWithin_revokeAndMark _ userID hmark

theorem revokeOldestExceeding_keepsUsers :
    KeepsUsers svc (revokeOldestExceeding cfg svc userID user now) := by
  unfold revokeOldestExceeding
  dsimp only
  split <;> exact ⟨rfl, rfl⟩

theorem issueTokens_does (hsession : limits.session (issue.session cfg userID provider)) :
    svc.DoesWithin limits (issueTokens cfg svc userID user provider issue).2 := by
  unfold issueTokens
  split
  · exact .refl svc
  rename_i svc' hok
  exact Service.doesWithin_insertSession hsession hok

theorem issueTokens_keepsUsers :
    KeepsUsers svc (issueTokens cfg svc userID user provider issue).2 := by
  unfold issueTokens
  split
  · exact .refl svc
  rename_i svc' hok
  exact insertSession_keepsUsers hok

theorem createSession_does (hsession : limits.session (issue.session cfg userID provider))
    (hmark : limits.mark issue.now) :
    svc.DoesWithin limits (createSession cfg svc userID user provider issue).2 := by
  unfold createSession
  split
  · exact (revokeOldestExceeding_does hmark).trans (issueTokens_does hsession)
  · exact issueTokens_does hsession

theorem createSession_keepsUsers :
    KeepsUsers svc (createSession cfg svc userID user provider issue).2 := by
  unfold createSession
  split
  · exact revokeOldestExceeding_keepsUsers.trans issueTokens_keepsUsers
  · exact issueTokens_keepsUsers

theorem enforceSessionLimit_ok {stored : Bool} {svc' : Service}
    (h : enforceSessionLimit cfg svc userID user stored now = .ok svc') :
    svc' = svc ∨ svc' = revokeOldestExceeding cfg svc userID user now := by
  unfold enforceSessionLimit at h
  split at h
  · exact .inl (Except.ok.inj h).symm
  split at h
  · cases h
  · exact .inr (Except.ok.inj h).symm

/-- The row is written back as it was found, or as the request has just written it. -/
theorem finishLogin_does {stored : Bool} {old : User}
    {create : Service → Except String TokenPair × Service} (hmark : limits.mark now)
    (hcreate : ∀ svc, Service.DoesWithin limits svc (create svc).2)
    (haccounts : ∀ svc, (create svc).2.accounts = svc.accounts)
    (hold : svc.accounts.getByID userID = some old) (hrewrite : limits.rewrite old user) :
    svc.DoesWithin limits (finishLogin cfg svc userID user stored now create).2 := by
  unfold finishLogin
  split
  · exact .refl svc
  rename_i room hroom
  have hdoes : svc.DoesWithin limits room ∧ room.accounts = svc.accounts := by
    cases enforceSessionLimit_ok hroom with
    | inl heq =>
      rw [heq]
      exact ⟨.refl svc, rfl⟩
    | inr heq =>
      rw [heq]
      exact ⟨revokeOldestExceeding_does hmark, revokeOldestExceeding_keepsUsers.accounts⟩
  have hcreated := hdoes.1.trans (hcreate room)
  have hsame := (haccounts room).trans hdoes.2
  split
  · rename_i heq
    rw [heq] at hcreated
    exact hcreated
  rename_i heq
  rw [heq] at hcreated hsame
  refine hcreated.trans (Service.doesWithin_updateUser ?_ hrewrite)
  rw [hsame]
  exact hold

end

/-! ## Requests -/

namespace Request

def ofIssue (issue : Issue) : UUID × String := (issue.sessionID, issue.refreshHash)

/-- The identifier and the token hash of the session that a request may create. -/
def newSession : Request → Option (UUID × String)
  | .register input => some (ofIssue input.issue)
  | .complete input => some (ofIssue input.issue)
  | .login input => some (ofIssue input.issue)
  | .ssoLogin input => some (ofIssue input.issue)
  | .resolveLogin input => some (ofIssue input.issue)
  | .refresh input _ => some (input.newID, input.newHash)
  | _ => none

/-- The address of the user that a request may create. -/
def newEmail (cfg : Config) : Request → Option String
  | .register input => some (normalizeEmail cfg input.email)
  | .complete input => some input.email
  | .ssoLogin input => some (lowerText cfg.casing input.email)
  | _ => none

/-- How a request may rewrite a row: signing in keeps the password and its time. -/
def Rewrites : Request → User → User → Prop
  | .changePassword _ _ _ _ now, _, user => user.passwordChangedAt = some now
  | .resetPassword _ _ _ now, _, user => user.passwordChangedAt = some now
  | .migrateToPassword _ _ now, _, user => user.passwordChangedAt = some now
  | .migrateToSSO _, old, user => user.stored.passwordChangedAt = old.passwordChangedAt
  | _, old, user =>
    user.passwordHash = old.passwordHash ∧ user.stored.passwordChangedAt = old.passwordChangedAt

/-- The clock readings of a request. -/
def readings : Request → List Nat
  | .register input => [input.now, input.changedAt, input.issue.issuedAt, input.issue.now]
  | .complete input => [input.changedAt, input.issue.issuedAt, input.issue.now]
  | .login input => [input.now, input.issue.issuedAt, input.issue.now]
  | .ssoLogin input => [input.changedAt, input.now, input.issue.issuedAt, input.issue.now]
  | .resolveLogin input => [input.now, input.issue.issuedAt, input.issue.now]
  | .refresh input issuedAt => [input.now, issuedAt]
  | .logout _ now | .revokeSession _ _ now | .revokeAllSessions _ now
  | .adminRevokeSessions _ now | .changePassword _ _ _ _ now | .resetPassword _ _ _ now
  | .migrateToPassword _ _ now | .deleteExpired now => [now]
  | .migrateToSSO _ => []

def limits (cfg : Config) (req : Request) : Limits where
  session s := req.newSession = some (s.id, s.refreshTokenHash)
  newUser _ user := req.newEmail cfg = some user.email ∧
    ∀ changedAt ∈ user.passwordChangedAt, changedAt ∈ req.readings
  rewrite := req.Rewrites
  mark now := now ∈ req.readings
  purge now := now ∈ req.readings

end Request

section

variable {cfg : Config} {svc : Service}

variable {limits : Limits} {id userID : UUID}

/-- A transaction does what its body does, or nothing. -/
theorem inTx_does {result : Except String (TokenPair × Service)}
    (h : ∀ pair svc', result = .ok (pair, svc') → svc.DoesWithin limits svc') :
    svc.DoesWithin limits (inTx svc result).2 := by
  cases result with
  | error err => exact .refl svc
  | ok r => exact h r.1 r.2 rfl

theorem register_does (input : RegisterInput) :
    svc.DoesWithin (Request.limits cfg (.register input)) (register cfg svc input).2 := by
  refine inTx_does fun pair svc' h => ?_
  obtain ⟨hash, svc₁, _, hinsert, hcreate⟩ := registerTx_eq_ok h
  have hnew : (Request.limits cfg (.register input)).newUser input.userID (input.user cfg hash) :=
    ⟨rfl, by simp [RegisterInput.user, Account.newUser, Request.readings]⟩
  have huser := Service.doesWithin_insertUser hnew hinsert
  have hsession : svc₁.DoesWithin (Request.limits cfg (.register input))
      (createSession cfg svc₁ input.userID (input.user cfg hash) none input.issue).2 :=
    createSession_does rfl (by simp [Request.limits, Request.readings])
  rw [hcreate] at hsession
  exact huser.trans hsession

theorem complete_does (input : SetupInput) :
    svc.DoesWithin (Request.limits cfg (.complete input)) (complete cfg svc input).2 := by
  refine inTx_does fun pair svc' h => ?_
  obtain ⟨hash, svc₁, _, hinsert, hissue⟩ := completeTx_eq_ok h
  have hnew : (Request.limits cfg (.complete input)).newUser input.userID (input.user hash) :=
    ⟨rfl, by simp [SetupInput.user, Account.newUser, Request.readings]⟩
  have huser := Service.doesWithin_insertUser hnew hinsert
  have hcompleted : svc₁.DoesWithin (Request.limits cfg (.complete input))
      (svc₁.apply .completeSetup) := .single trivial
  have hsession : (svc₁.apply .completeSetup).DoesWithin (Request.limits cfg (.complete input))
      (issueTokens cfg (svc₁.apply .completeSetup) input.userID (input.user hash) none
        input.issue).2 := issueTokens_does rfl
  rw [hissue] at hsession
  exact (huser.trans hcompleted).trans hsession

theorem passwordLogin_does (input : PasswordInput) :
    svc.DoesWithin (Request.limits cfg (.login input)) (passwordLogin cfg svc input).2 := by
  unfold passwordLogin
  split
  · exact .refl svc
  rename_i account hfind
  split
  · exact .refl svc
  have hold := Accounts.getByID_eq_some.mpr (Accounts.getByEmail_eq_some.mp hfind).1
  have hstored := congrArg User.passwordChangedAt (Accounts.stored_of_getByID hold)
  refine finishLogin_does (by simp [Request.limits, Request.readings]) ?_ ?_ hold
    ⟨rfl, hstored⟩
  · intro room
    exact issueTokens_does rfl
  · intro room
    exact issueTokens_keepsUsers.accounts

variable {input : SSOLoginInput} {user old : User} {env : Env} {now : Nat} {new : String}

theorem finishSSO_does (hold : svc.accounts.getByID id = some old)
    (hrewrite : Request.Rewrites (.ssoLogin input) old user) :
    svc.DoesWithin (Request.limits cfg (.ssoLogin input)) (finishSSO cfg svc id user input).2 := by
  refine finishLogin_does (by simp [Request.limits, Request.readings]) ?_ ?_ hold hrewrite
  · intro room
    exact createSession_does rfl (by simp [Request.limits, Request.readings])
  · intro room
    exact createSession_keepsUsers.accounts

theorem ssoExistingLogin_does (hold : svc.accounts.getByID id = some user) :
    svc.DoesWithin (Request.limits cfg (.ssoLogin input))
      (ssoExistingLogin cfg svc input id user).2 := by
  unfold ssoExistingLogin
  split
  · exact .refl svc
  have hstored := congrArg User.passwordChangedAt (Accounts.stored_of_getByID hold)
  have hupdate : svc.DoesWithin (Request.limits cfg (.ssoLogin input))
      (svc.updateUser id (input.linked user)) :=
    Service.doesWithin_updateUser hold ⟨rfl, hstored⟩
  have hrow : ((svc.updateUser id (input.linked user)).link (input.identity id)).accounts.getByID
      id = some { (input.linked user).stored with email := user.email } := by
    rw [link_accounts]
    exact Accounts.getByID_update_self hold
  refine (hupdate.trans (Service.doesWithin_link _ (input.identity id))).trans ?_
  exact finishSSO_does hrow ⟨rfl, rfl⟩

theorem ssoLogin_does (input : SSOLoginInput) :
    svc.DoesWithin (Request.limits cfg (.ssoLogin input)) (ssoLogin cfg svc input).2 := by
  unfold ssoLogin
  dsimp only
  split
  · exact .refl svc
  split
  · exact .refl svc
  split
  · split
    · exact .refl svc
    · rename_i hold
      exact ssoExistingLogin_does hold
  split
  · unfold ssoFirstLogin
    split
    · exact .refl svc
    split
    · exact .refl svc
    rename_i svc₁ hinsert
    obtain ⟨accounts, hcreate, rfl⟩ := insertUser_eq_ok hinsert
    have hnew : (Request.limits cfg (.ssoLogin input)).newUser input.userID
        (input.user (lowerText cfg.casing input.email)) :=
      ⟨rfl, by simp [SSOLoginInput.user, newSSOUser, Request.readings]⟩
    have huser := Service.doesWithin_insertUser hnew hinsert
    have hrow : (({ svc with accounts } : Service).link
        (input.identity input.userID)).accounts.getByID input.userID =
        some (input.user (lowerText cfg.casing input.email)).stored := by
      rw [link_accounts]
      exact Accounts.getByID_create_self hcreate
    refine (huser.trans (Service.doesWithin_link _ (input.identity input.userID))).trans ?_
    exact finishSSO_does hrow ⟨rfl, rfl⟩
  · rename_i hfind
    split
    · exact .refl svc
    exact ssoExistingLogin_does
      (Accounts.getByID_eq_some.mpr (Accounts.getByEmail_eq_some.mp hfind).1)

theorem resolveLogin_does (input : ResolveInput) :
    svc.DoesWithin (Request.limits cfg (.resolveLogin input)) (resolveLogin cfg svc input).2 := by
  unfold resolveLogin
  split
  · exact .refl svc
  rename_i id _
  split
  · exact .refl svc
  have hmark : (Request.limits cfg (.resolveLogin input)).mark input.now := by
    simp [Request.limits, Request.readings]
  have hrevoked := svc.doesWithin_revokeAndMark
    (fun s => s.id = input.revokeSessionID && s.userID = id) id hmark
  dsimp only
  split
  · exact hrevoked
  · exact hrevoked.trans (issueTokens_does rfl)

theorem refresh_does (input : RefreshInput) (issuedAt : Nat) :
    svc.DoesWithin (Request.limits cfg (.refresh input issuedAt))
      (refresh cfg svc input issuedAt).2 := by
  unfold refresh
  split
  · exact .refl svc
  rename_i session _
  split
  · exact svc.doesWithin_revokeWhere _
  split
  · exact .refl svc
  have hrevoked : svc.DoesWithin (Request.limits cfg (.refresh input issuedAt))
      (svc.revokeWhere fun s => s.id = session.id) := svc.doesWithin_revokeWhere _
  dsimp only
  split
  · exact hrevoked
  split
  · exact hrevoked.trans (Service.doesWithin_revokeWhere _ _)
  split
  · exact hrevoked
  rename_i svc' hinsert
  have hnew : (Request.limits cfg (.refresh input issuedAt)).session
      (input.newSession session) := rfl
  exact hrevoked.trans (Service.doesWithin_insertSession hnew hinsert)

theorem changeUser_does {missing : String} {change : User → Except String User} {p : Session → Bool}
    (h : ∀ old user, svc.accounts.getByID userID = some old → change old = .ok user →
      limits.rewrite old user) :
    svc.DoesWithin limits (changeUser svc userID missing change p).2 := by
  unfold changeUser
  split
  · exact .refl svc
  rename_i old hold
  split
  · exact .refl svc
  rename_i user huser
  exact (Service.doesWithin_updateUser hold (h old user hold huser)).trans
    (Service.doesWithin_revokeWhere _ p)

theorem resetPassword_changedAt {token : String}
    (h : resetPassword env now token true new old = .ok user) :
    user.passwordChangedAt = some now := by
  unfold resetPassword at h
  split at h
  · cases h
  obtain ⟨_, _, h⟩ := bind_eq_ok.mp h
  obtain ⟨hash, _, h⟩ := bind_eq_ok.mp h
  cases h
  rfl

theorem migrateToPassword_changedAt (h : migrateToPassword env now new old = .ok user) :
    user.passwordChangedAt = some now := by
  obtain ⟨_, _, h⟩ := bind_eq_ok.mp h
  obtain ⟨hash, _, h⟩ := bind_eq_ok.mp h
  cases h
  rfl

theorem migrateToSSO_changedAt {identities : Option Nat}
    (hold : svc.accounts.getByID userID = some old) (h : migrateToSSO identities old = .ok user) :
    user.stored.passwordChangedAt = old.passwordChangedAt := by
  have hstored := congrArg User.passwordChangedAt (Accounts.stored_of_getByID hold)
  unfold migrateToSSO at h
  split at h
  · cases h
  cases h
  exact hstored

/-- Every request stays within its limits. -/
theorem handle_does (cfg : Config) (svc : Service) (req : Request) :
    svc.DoesWithin (req.limits cfg) (handle cfg svc req).2 := by
  cases req with simp only [handle, withTokens, withoutTokens]
  | register input => exact register_does input
  | complete input => exact complete_does input
  | login input => exact passwordLogin_does input
  | ssoLogin input => exact ssoLogin_does input
  | resolveLogin input => exact resolveLogin_does input
  | refresh input issuedAt => exact refresh_does input issuedAt
  | logout tokenHash now =>
    simp only [logout]
    split
    · exact .refl svc
    · exact svc.doesWithin_revokeAndMark _ _ (List.mem_singleton_self now)
  | revokeAllSessions userID now =>
    simp only [revokeAllSessions]
    split
    · exact svc.doesWithin_revokeAndMark _ _ (List.mem_singleton_self now)
    · exact svc.doesWithin_revokeWhere _
  | revokeSession userID sessionID now | adminRevokeSessions userID now =>
    exact svc.doesWithin_revokeAndMark _ _ (List.mem_singleton_self now)
  | changePassword userID sessionID current new now =>
    refine changeUser_does fun old user _ h => ?_
    unfold changePassword at h
    split at h
    · cases h
    split at h
    · cases h
    obtain ⟨_, _, h⟩ := bind_eq_ok.mp h
    obtain ⟨hash, _, h⟩ := bind_eq_ok.mp h
    cases h
    rfl
  | resetPassword token tokenUser new now =>
    unfold Service.resetPassword
    split
    · exact .refl svc
    split
    · exact .refl svc
    · exact .refl svc
    · refine changeUser_does fun old user _ h => ?_
      exact resetPassword_changedAt h
  | migrateToSSO userID =>
    refine changeUser_does fun old user hold h => ?_
    exact migrateToSSO_changedAt hold h
  | migrateToPassword userID new now =>
    refine changeUser_does fun old user _ h => ?_
    exact migrateToPassword_changedAt h
  | deleteExpired now =>
    exact Service.doesWithin_effect (e := .deleteExpired now) (List.mem_singleton_self now) rfl

end

/-! ## Histories

A history is a list of requests with the times at which they end. -/

structure Timed where
  time : Nat
  request : Request

structure Clocked where
  svc : Service
  clock : Nat

section

variable (cfg : Config)

def Clocked.step (s : Clocked) (e : Timed) : Clocked := ⟨(handle cfg s.svc e.request).2, e.time⟩

end

/-- The request reads the clock between the end of the last request and its own. -/
def Clocked.OnTime (s : Clocked) (e : Timed) : Prop :=
  s.clock ≤ e.time ∧ ∀ reading ∈ e.request.readings, s.clock ≤ reading ∧ reading ≤ e.time
  deriving Decidable

end BurnerByte.Account
