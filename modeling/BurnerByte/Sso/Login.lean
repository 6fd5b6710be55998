import BurnerByte.Sso.Provisioning

/-!
# SSO logins

`SSOLogin` with every statement that it executes and the failures of each. The account is
the one of the linked identity, or the one with the address that the provider reports, or
a new one. A lookup that fails is treated like one that finds nothing, so that every path
to a session has to be guarded on its own.

The repositories are those of `main`, so the branches for a missing repository are left
out.
-/

namespace BurnerByte.Sso

open Go Sql Account

/-- The account of a login, as the code holds it in memory. -/
structure Chosen where
  id : UUID
  user : User
  isNew : Bool

/-- The account that a login finds. -/
inductive Found where
  | linked (id : UUID) (user : User)
  | matched (account : UserRow)
  | absent

/-- A success. -/
structure SignedIn where
  id : UUID
  user : User
  tokens : TokenPair

/-- A user who has signed in with the provider. -/
def SSOCallbackResult.linked (result : SSOCallbackResult) (user : User) : User :=
  { user with emailVerified := true, ssoProvider := some result.provider }

/-- Rewrite the row of a user, if its values fit the columns. -/
def Platform.writeUser (p : Platform) (id : UUID) (user : User) : Option Platform :=
  (columns user).map fun row => { p with svc := p.svc.updateUser id row }

section

variable (cfg : Config) (faults : Faults)

/-! ## The domain of the address -/

section

variable (svc : Service) (dir : Directory) (p : Platform) (result : SSOCallbackResult)

/-- Providers that are not in the database are not restricted, nor is any provider while the
lookup fails. -/
def checkDomain : Except String String :=
  match extractEmailDomain cfg (lowerText cfg.casing result.email) with
  | none => .error "invalid email from SSO provider"
  | some domain =>
    match providerByName faults .providerDomains dir result.provider with
    | .error _ => .ok domain
    | .ok provider =>
      if provider.allowedDomains ≠ "" ∧ isDomainAllowed cfg domain provider.allowedDomains = false
      then .error ("email domain " ++ domain ++ " is not allowed for SSO")
      else .ok domain

/-! ## The account -/

def findAccount : Except String Found :=
  match faults .identity, p.svc.findIdentity result.provider result.subject with
  | none, some identity =>
    match faults .userByID, p.svc.accounts.getByID identity.userID with
    | some err, _ => .error ("load SSO user: " ++ err)
    | none, none => .error ("load SSO user: " ++ RepoError.notFound.message)
    | none, some user => .ok (.linked identity.userID user)
  | _, _ =>
    match faults .userByEmail, p.svc.accounts.getByEmail (lowerText cfg.casing result.email) with
    | none, some account => .ok (.matched account)
    | _, _ => .ok .absent

/-- The row is written up to twice, and failures are ignored. -/
def ssoLinked (id : UUID) (user : User) : Except String Chosen × Platform :=
  match checkAuthMethodLock user "sso" with
  | .error err => (.error err, p)
  | .ok () =>
    let verified := { user with emailVerified := true }
    let p := if user.emailVerified then p
      else faults.attempt .verifyUser p (p.writeUser id verified)
    let p := if user.ssoProvider = some result.provider then p
      else faults.attempt .relabelUser p (p.writeUser id (result.linked user))
    (.ok ⟨id, result.linked user, false⟩, p)

/-- An account with the address is taken over only if the provider says that it has verified
the address. -/
def ssoMatched (account : UserRow) : Except String Chosen × Platform :=
  if !result.emailVerified then
    (.error ("this email address is not verified by " ++ result.provider ++
      ", so it can't be linked to an existing account automatically. " ++
      "Sign in to that account, then link " ++ result.provider ++ " from your profile."), p)
  else
    match checkAuthMethodLock account.user "sso" with
    | .error err => (.error err, p)
    | .ok () =>
      match faults .linkUser, p.writeUser account.id (result.linked account.user) with
      | some err, _ => (.error ("link SSO: " ++ err), p)
      | none, none => (.error "link SSO: update user: value too long for type", p)
      | none, some p => (.ok ⟨account.id, result.linked account.user, false⟩, p)

/-- The rules for the domain, which only count while registration is closed. -/
def matchingRules (domain : String) : List SSODomainMapping :=
  if cfg.allowRegistration then []
  else
    match providerByName faults .providerRules dir result.provider with
    | .error _ => []
    | .ok provider =>
      if (faults .rules).isSome then [] else dir.findMatchingRules cfg provider.id domain

def checkPendingInvite (now : Nat) : Except String Unit :=
  if cfg.allowRegistration then .ok ()
  else
    match faults .invite,
        dir.getPendingInviteByEmail (lowerText cfg.casing result.email) now with
    | none, some invite =>
      if isAuthMethodAllowed invite.allowedAuth ("sso:" ++ result.provider) then .ok ()
      else
        .error ("SSO provider " ++ result.provider ++
          " is not allowed for this invite; allowed methods: " ++ formatList invite.allowedAuth)
    | _, _ => .error "registration requires an invite"

def ssoAbsent (domain : String) (draws : Draws) : Except String Chosen × Platform :=
  let user := result.newUser (lowerText cfg.casing result.email) draws.changedAt
  match matchingRules cfg faults p.dir result domain with
  | rule :: rules =>
    match createAndProvisionFromMappings cfg faults p result draws rule rules with
    | (.error err, p) => (.error ("domain mapping auto-provision failed: " ++ err), p)
    | (.ok user, p) => (.ok ⟨draws.userID, user, true⟩, p)
  | [] =>
    match checkPendingInvite cfg faults p.dir result draws.now with
    | .error err => (.error err, p)
    | .ok () =>
      match faults.run .createUser
          ((createUser p.svc draws.userID user).mapError RepoError.message) with
      | .error err => (.error ("create SSO user: " ++ err), p)
      | .ok svc => (.ok ⟨draws.userID, user, true⟩, { p with svc })

/-- The code means to ignore a conflict, and ignores every error. -/
def recordIdentity (id : UUID) : Platform :=
  faults.attempt .createIdentity p
    ((createIdentity p.svc id (lowerText cfg.casing result.email) result).toOption.map
      fun svc => { p with svc })

/-- Accounts that were not found by their identity get one. -/
def withIdentity : Except String Chosen × Platform → Except String Chosen × Platform
  | (.error err, p) => (.error err, p)
  | (.ok chosen, p) => (.ok chosen, recordIdentity cfg faults p result chosen.id)

def selectAccount (domain : String) (draws : Draws) : Except String Chosen × Platform :=
  match findAccount cfg faults p result with
  | .error err => (.error err, p)
  | .ok (.linked id user) => ssoLinked faults p result id user
  | .ok (.matched account) => withIdentity cfg faults result (ssoMatched faults p result account)
  | .ok .absent => withIdentity cfg faults result (ssoAbsent cfg faults p result domain draws)

/-! ## The session -/

/-- The check of the limit that may ask the user. -/
def makeRoom (id : UUID) (user : User) (draws : Draws) : Except String Service :=
  if (faults .countSessions).isSome then .ok svc
  else if (svc.active id draws.now).length < resolveSessionLimit cfg user then .ok svc
  else
    match faults .listSessions with
    | some err => .error ("failed to list sessions: " ++ err)
    | none =>
      if draws.pendingStored then .error "session limit reached"
      else if (faults .revokeOldest).isSome then .ok svc
      else .ok (revokeOldestExceeding cfg svc id user draws.now)

/-- The check of the limit that only revokes. -/
def makeRoomAgain (id : UUID) (user : User) (now : Nat) : Service :=
  if (faults .countAgain).isSome || (faults .revokeAgain).isSome then svc
  else if resolveSessionLimit cfg user ≤ (svc.active id now).length then
    revokeOldestExceeding cfg svc id user now
  else svc

def startSession (id : UUID) (user : User) (provider : String) (issue : Issue) :
    Except String TokenPair × Service :=
  match faults .signToken, faults .drawToken with
  | some err, _ => (.error err, svc)
  | none, some err => (.error ("generate refresh token: " ++ err), svc)
  | none, none =>
    let svc := makeRoomAgain cfg faults svc id user issue.now
    match faults .insertSession, varchar 50 provider with
    | some err, _ => (.error err, svc)
    | none, none => (.error "create session: value too long for type", svc)
    | none, some name => issueTokens cfg svc id user (some name) issue

def finishSSOLogin (chosen : Chosen) (draws : Draws) : Except String SignedIn × Platform :=
  match makeRoom cfg faults p.svc chosen.id chosen.user draws with
  | .error err => (.error err, p)
  | .ok svc =>
    match startSession cfg faults svc chosen.id chosen.user result.provider draws.issue with
    | (.error err, svc) => (.error err, { p with svc })
    | (.ok tokens, svc) =>
      let p := { p with svc }
      (.ok ⟨chosen.id, chosen.user, tokens⟩,
        faults.attempt .lastLogin p (p.writeUser chosen.id chosen.user))

def ssoLogin (draws : Draws) : Except String SignedIn × Platform :=
  match checkDomain cfg faults p.dir result with
  | .error err => (.error err, p)
  | .ok domain =>
    match selectAccount cfg faults p result domain draws with
    | (.error err, p) => (.error err, p)
    | (.ok chosen, p) =>
      let p := if chosen.isNew then provisionDefaults faults chosen.id result p else p
      finishSSOLogin cfg faults p result chosen draws

end

end

/-! ## How a login comes to its account -/

section

variable {cfg : Config} {faults : Faults} {p p' : Platform} {result : SSOCallbackResult}
  {domain : String} {draws : Draws} {chosen : Chosen}

variable {user : User} {svc : Service} {id : UUID}

theorem checkAuthMethodLock_sso (h : checkAuthMethodLock user "sso" = .ok ()) :
    user.authMethodLock ≠ some "password" := by
  intro hlock
  simp [checkAuthMethodLock, hlock] at h

variable {provider : String} {account : UserRow} {signedIn : SignedIn} {svc' : Service}
  {issue : Issue} {tokens : TokenPair}

/-- What is found is in the database. -/
theorem findAccount_linked (h : findAccount cfg faults p result = .ok (.linked id user)) :
    ∃ identity, p.svc.findIdentity result.provider result.subject = some identity ∧
      identity.userID = id ∧ p.svc.accounts.getByID id = some user := by
  unfold findAccount at h
  split at h
  · rename_i identity _ hfind
    split at h
    · cases h
    · cases h
    rename_i user' _ huser
    cases h
    exact ⟨identity, hfind, rfl, huser⟩
  · split at h <;> cases h

theorem findAccount_matched (h : findAccount cfg faults p result = .ok (.matched account)) :
    p.svc.accounts.getByEmail (lowerText cfg.casing result.email) = some account := by
  unfold findAccount at h
  split at h
  · split at h <;> cases h
  split at h
  · rename_i account' _ hmail
    cases h
    exact hmail
  · cases h

/-- The ways in which a login selects its account, with the state that it leaves. -/
inductive Selects (cfg : Config) (faults : Faults) (p : Platform) (result : SSOCallbackResult)
    (draws : Draws) : Chosen → Platform → Prop
  | linked {identity : Identity} {user : User} {p' : Platform}
      (hfind : p.svc.findIdentity result.provider result.subject = some identity)
      (huser : p.svc.accounts.getByID identity.userID = some user)
      (hlock : checkAuthMethodLock user "sso" = .ok ())
      (hwrites : (ssoLinked faults p result identity.userID user).2 = p') :
      Selects cfg faults p result draws ⟨identity.userID, result.linked user, false⟩ p'
  | matched {account : UserRow} {p' : Platform}
      (hmail : p.svc.accounts.getByEmail (lowerText cfg.casing result.email) = some account)
      (hverified : result.emailVerified = true)
      (hlock : checkAuthMethodLock account.user "sso" = .ok ())
      (hwrite : p.writeUser account.id (result.linked account.user) = some p') :
      Selects cfg faults p result draws ⟨account.id, result.linked account.user, false⟩
        (recordIdentity cfg faults p' result account.id)
  | created {tx : Service} (hfound : findAccount cfg faults p result = .ok .absent)
      (hcreate : createUser p.svc draws.userID
        (result.newUser (lowerText cfg.casing result.email) draws.changedAt) = .ok tx) :
      Selects cfg faults p result draws
        ⟨draws.userID, result.newUser (lowerText cfg.casing result.email) draws.changedAt, true⟩
        (recordIdentity cfg faults { p with svc := tx } result draws.userID)

theorem ssoLinked_eq_ok (h : ssoLinked faults p result id user = (.ok chosen, p')) :
    checkAuthMethodLock user "sso" = .ok () ∧ chosen = ⟨id, result.linked user, false⟩ := by
  unfold ssoLinked at h
  split at h
  · cases h
  rename_i hlock
  exact ⟨hlock, (Except.ok.inj (congrArg Prod.fst h)).symm⟩

theorem exists_ssoLinked (faults : Faults) (p : Platform) (result : SSOCallbackResult) (id : UUID)
    (hlock : checkAuthMethodLock user "sso" = .ok ()) :
    ∃ p', ssoLinked faults p result id user = (.ok ⟨id, result.linked user, false⟩, p') := by
  unfold ssoLinked
  rw [hlock]
  exact ⟨_, rfl⟩

theorem ssoMatched_eq_ok (h : ssoMatched faults p result account = (.ok chosen, p')) :
    result.emailVerified = true ∧ checkAuthMethodLock account.user "sso" = .ok () ∧
      p.writeUser account.id (result.linked account.user) = some p' ∧
      chosen = ⟨account.id, result.linked account.user, false⟩ := by
  unfold ssoMatched at h
  split at h
  · cases h
  rename_i hverified
  split at h
  · cases h
  rename_i hlock
  split at h
  · cases h
  · cases h
  rename_i hwrite
  cases h
  exact ⟨by simpa using hverified, hlock, hwrite, rfl⟩

/-- A new account is inserted, by the rules or without them. -/
theorem ssoAbsent_eq_ok (h : ssoAbsent cfg faults p result domain draws = (.ok chosen, p')) :
    ∃ tx, createUser p.svc draws.userID
        (result.newUser (lowerText cfg.casing result.email) draws.changedAt) = .ok tx ∧
      chosen = ⟨draws.userID,
        result.newUser (lowerText cfg.casing result.email) draws.changedAt, true⟩ ∧
      p' = { p with svc := tx } := by
  unfold ssoAbsent at h
  dsimp only at h
  split at h
  · rename_i rule rules _
    cases createAndProvisionFromMappings_cases cfg faults p result draws rule rules with
    | inl hprevented =>
      obtain ⟨_, err, heq⟩ := hprevented
      rw [heq] at h
      cases h
    | inr hinserted =>
      obtain ⟨_, tx, hcreate, heq⟩ := hinserted
      rw [heq] at h
      cases h
      exact ⟨tx, hcreate, rfl, rfl⟩
  · split at h
    · cases h
    split at h
    · cases h
    rename_i svc hrun
    cases h
    exact ⟨svc, Outcome.mapError_eq_ok.mp (Faults.run_eq_ok.mp hrun).2, rfl, rfl⟩

theorem withIdentity_eq_ok {r : Except String Chosen × Platform}
    (h : withIdentity cfg faults result r = (.ok chosen, p')) :
    ∃ p₁, r = (.ok chosen, p₁) ∧ p' = recordIdentity cfg faults p₁ result chosen.id := by
  unfold withIdentity at h
  split at h
  · cases h
  cases h
  exact ⟨_, rfl, rfl⟩

theorem selectAccount_eq_ok
    (h : selectAccount cfg faults p result domain draws = (.ok chosen, p')) :
    Selects cfg faults p result draws chosen p' := by
  unfold selectAccount at h
  split at h
  · cases h
  · rename_i id user hfound
    obtain ⟨identity, hfind, rfl, huser⟩ := findAccount_linked hfound
    obtain ⟨hlock, rfl⟩ := ssoLinked_eq_ok h
    exact .linked hfind huser hlock (congrArg Prod.snd h)
  · rename_i account hfound
    obtain ⟨p₁, hmatched, rfl⟩ := withIdentity_eq_ok h
    obtain ⟨hverified, hlock, hwrite, rfl⟩ := ssoMatched_eq_ok hmatched
    exact .matched (findAccount_matched hfound) hverified hlock hwrite
  rename_i hfound
  obtain ⟨p₁, habsent, rfl⟩ := withIdentity_eq_ok h
  obtain ⟨tx, hcreate, rfl, rfl⟩ := ssoAbsent_eq_ok habsent
  exact .created hfound hcreate

/-- Where no rule applies, a new account needs the check of the invitation. -/
theorem checkPendingInvite_of_selectAccount
    (h : selectAccount cfg faults p result domain draws = (.ok chosen, p'))
    (hnew : chosen.isNew = true) (hrules : matchingRules cfg faults p.dir result domain = []) :
    checkPendingInvite cfg faults p.dir result draws.now = .ok () := by
  unfold selectAccount at h
  split at h
  · cases h
  · obtain ⟨-, rfl⟩ := ssoLinked_eq_ok h
    cases hnew
  · obtain ⟨_, hmatched, -⟩ := withIdentity_eq_ok h
    obtain ⟨-, -, -, rfl⟩ := ssoMatched_eq_ok hmatched
    cases hnew
  obtain ⟨_, habsent, -⟩ := withIdentity_eq_ok h
  simp only [ssoAbsent, hrules] at habsent
  split at habsent
  · cases habsent
  rename_i hcheck
  exact hcheck

theorem exists_invite_of_checkPendingInvite {dir : Directory} {now : Nat}
    (h : checkPendingInvite cfg faults dir result now = .ok ())
    (hclosed : cfg.allowRegistration = false) :
    ∃ invite, dir.getPendingInviteByEmail (lowerText cfg.casing result.email) now = some invite ∧
      isAuthMethodAllowed invite.allowedAuth ("sso:" ++ result.provider) = true := by
  simp only [checkPendingInvite, hclosed, Bool.false_eq_true, if_false] at h
  split at h
  · rename_i invite _ hinvite
    split at h
    · rename_i hallowed
      exact ⟨invite, hinvite, hallowed⟩
    · cases h
  · cases h

/-! ## Whose session it is -/

theorem ssoLogin_eq_ok (h : ssoLogin cfg faults p result draws = (.ok signedIn, p')) :
    ∃ domain chosen p₁ p₂, checkDomain cfg faults p.dir result = .ok domain ∧
      selectAccount cfg faults p result domain draws = (.ok chosen, p₁) ∧
      finishSSOLogin cfg faults p₂ result chosen draws = (.ok signedIn, p') := by
  unfold ssoLogin at h
  split at h
  · cases h
  rename_i domain hdomain
  split at h
  · cases h
  rename_i chosen p₁ hselect
  exact ⟨domain, chosen, p₁, _, hdomain, hselect, h⟩

theorem Faults.attempt_cases {σ : Type} (faults : Faults) (call : Call) (s : σ) (next : Option σ) :
    faults.attempt call s next = s ∨ next = some (faults.attempt call s next) := by
  unfold Faults.attempt
  split
  · exact .inl rfl
  cases next with
  | none => exact .inl rfl
  | some s' => exact .inr rfl

theorem writeUser_eq_some (h : p.writeUser id user = some p') :
    ∃ row, columns user = some row ∧ p' = { p with svc := p.svc.updateUser id row } := by
  obtain ⟨row, hrow, rfl⟩ := Option.map_eq_some_iff.mp h
  exact ⟨row, hrow, rfl⟩

/-- Writing a user changes nothing but the users. -/
theorem attempt_writeUser_eq (faults : Faults) (call : Call) (p : Platform) (id : UUID)
    (user : User) : ∃ accounts, faults.attempt call p (p.writeUser id user) =
      { p with svc := { p.svc with accounts } } := by
  cases faults.attempt_cases call p (p.writeUser id user) with
  | inl heq => exact ⟨p.svc.accounts, heq⟩
  | inr hwrite =>
    obtain ⟨row, _, heq⟩ := writeUser_eq_some hwrite
    exact ⟨p.svc.accounts.update id row, heq⟩

theorem ssoLinked_eq (faults : Faults) (p : Platform) (result : SSOCallbackResult) (id : UUID)
    (user : User) : ∃ accounts, (ssoLinked faults p result id user).2 =
      { p with svc := { p.svc with accounts } } := by
  unfold ssoLinked
  split
  · exact ⟨p.svc.accounts, rfl⟩
  obtain ⟨verified, hverified⟩ : ∃ accounts, (if user.emailVerified then p
      else faults.attempt .verifyUser p (p.writeUser id { user with emailVerified := true })) =
        { p with svc := { p.svc with accounts } } := by
    split
    · exact ⟨p.svc.accounts, rfl⟩
    · exact attempt_writeUser_eq faults .verifyUser p id _
  dsimp only
  rw [hverified]
  split
  · exact ⟨verified, rfl⟩
  · exact attempt_writeUser_eq faults .relabelUser _ id (result.linked user)

theorem issueTokens_session {provider : Option String}
    (h : issueTokens cfg svc id user provider issue = (.ok tokens, svc')) :
    issue.session cfg id provider ∈ svc'.sessions ∧
      tokens = ⟨cfg.tokens.generateAccessToken issue.issuedAt id user, issue.refreshHash⟩ := by
  unfold issueTokens at h
  split at h
  · cases h
  rename_i svc₁ hinsert
  obtain ⟨sessions, htable, rfl⟩ := insertSession_eq_ok hinsert
  cases h
  exact ⟨((Table.insert_eq_some htable).2 _).mpr (.inl rfl), rfl⟩

/-- The answer of a login: a session, and an access token for the user of the session. -/
structure Opens (cfg : Config) (draws : Draws) (signedIn : SignedIn) (p : Platform)
    (s : Session) : Prop where
  mem : s ∈ p.svc.sessions
  session : s.id = draws.issue.sessionID
  user : s.userID = signedIn.id
  tokens : signedIn.tokens = ⟨cfg.tokens.generateAccessToken draws.issue.issuedAt s.userID
    signedIn.user, s.refreshTokenHash⟩

theorem startSession_eq_ok
    (h : startSession cfg faults svc id user provider issue = (.ok tokens, svc')) :
    ∃ name, issue.session cfg id (some name) ∈ svc'.sessions ∧
      tokens = ⟨cfg.tokens.generateAccessToken issue.issuedAt id user, issue.refreshHash⟩ := by
  unfold startSession at h
  split at h
  · cases h
  · cases h
  split at h
  · cases h
  · cases h
  · exact ⟨_, issueTokens_session h⟩

theorem finishSSOLogin_eq_ok
    (h : finishSSOLogin cfg faults p result chosen draws = (.ok signedIn, p')) :
    signedIn.id = chosen.id ∧ ∃ s, Opens cfg draws signedIn p' s := by
  unfold finishSSOLogin at h
  split at h
  · cases h
  split at h
  · cases h
  rename_i hstart
  obtain ⟨name, hmem, rfl⟩ := startSession_eq_ok hstart
  cases h
  refine ⟨rfl, draws.issue.session cfg chosen.id (some name), ?_, rfl, rfl, rfl⟩
  obtain ⟨accounts, heq⟩ := attempt_writeUser_eq faults .lastLogin { p with svc := _ }
    chosen.id chosen.user
  rw [heq]
  exact hmem

/-! ## What an account must have -/

/-- The account was linked to the identity, or has the address that the provider has
verified. -/
def Entitled (cfg : Config) (p : Platform) (result : SSOCallbackResult) (id : UUID)
    (user : User) : Prop :=
  (⟨result.provider, result.subject, id⟩ : Identity) ∈ p.svc.identities ∨
    result.emailVerified = true ∧ user.email = lowerText cfg.casing result.email

/-- An account that existed is entitled to the login, whichever way it was selected. -/
theorem Selects.entitled (h : Selects cfg faults p result draws chosen p')
    (huser : p.svc.accounts.getByID chosen.id = some user) :
    Entitled cfg p result chosen.id user ∧ user.authMethodLock ≠ some "password" := by
  cases h with
  | linked hfind hlinked hlock _ =>
    cases hlinked.symm.trans huser
    have hcolumns := List.find?_some hfind
    simp only [Bool.and_eq_true, decide_eq_true_eq] at hcolumns
    refine ⟨.inl ?_, checkAuthMethodLock_sso hlock⟩
    rw [← hcolumns.1, ← hcolumns.2]
    exact List.mem_of_find?_eq_some hfind
  | matched hmail hverified hlock _ =>
    obtain ⟨hmem, hemail⟩ := Accounts.getByEmail_eq_some.mp hmail
    obtain rfl := Option.some.inj ((Accounts.getByID_eq_some.mpr hmem).symm.trans huser)
    exact ⟨.inr ⟨hverified, hemail⟩, checkAuthMethodLock_sso hlock⟩
  | created _ hcreate =>
    rw [createUser_fresh hcreate] at huser
    cases huser

/-- An SSO login is answered with a session of an account that existed before only if the
account was linked to the identity, or has the address and the provider has verified it; and
only if the account is not locked to passwords. -/
theorem session_of_existing_account_entitled
    (h : ssoLogin cfg faults p result draws = (.ok signedIn, p')) :
    ∃ s, Opens cfg draws signedIn p' s ∧ ∀ user, p.svc.accounts.getByID s.userID = some user →
      Entitled cfg p result s.userID user ∧ user.authMethodLock ≠ some "password" := by
  obtain ⟨domain, chosen, p₁, p₂, _, hselect, hfinish⟩ := ssoLogin_eq_ok h
  obtain ⟨hid, s, hopens⟩ := finishSSOLogin_eq_ok hfinish
  refine ⟨s, hopens, fun user huser => ?_⟩
  have hsame : s.userID = chosen.id := hopens.user.trans hid
  rw [hsame] at huser ⊢
  exact (selectAccount_eq_ok hselect).entitled huser

end

/-- The user 1 is linked to Ann's identity. -/
def linkedPlatform : Platform :=
  { samplePlatform [1] false with
    svc := { sampleService with identities := [⟨"google", "g2", 1⟩] } }

abbrev linkedLogin : Except String SignedIn × Platform :=
  ssoLogin sampleConfig noFaults linkedPlatform sampleResult sampleDraws

theorem linked_login_entitled :
    ∃ signedIn s, linkedLogin.1 = .ok signedIn ∧ Opens sampleConfig sampleDraws signedIn
      linkedLogin.2 s ∧ ∀ user, linkedPlatform.svc.accounts.getByID s.userID = some user →
        Entitled sampleConfig linkedPlatform sampleResult s.userID user ∧
          user.authMethodLock ≠ some "password" := by
  obtain ⟨signedIn, hok⟩ : ∃ signedIn, linkedLogin.1 = .ok signedIn := ⟨_, rfl⟩
  obtain ⟨s, hs⟩ := session_of_existing_account_entitled (Prod.ext hok rfl)
  exact ⟨signedIn, s, hok, hs⟩

end BurnerByte.Sso
