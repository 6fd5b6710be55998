import BurnerByte.Sso.Writes

/-!
# Accounts that can be signed in to

A user signs in with a password or with a linked identity, and a lock may rule one of them
out. No sequence of requests should leave a user without a way to sign in. Each request
has its guard: one links before it locks, one refuses to unlink without a password, and a
migration sets what it locks to. The weak point is the first SSO login of a user, which
ignores every error of recording the identity: a subject that is too long for its column,
or a claim that the database cannot store, leaves a user with neither password nor
identity.
-/

namespace BurnerByte.Sso

open Go Account Outcome

/-! ## Linking and unlinking -/

section

variable (cfg : Config)

def linkSSOIdentity (svc : Service) (userID : UUID) (result : SSOCallbackResult) :
    Except String Unit × Service :=
  if (svc.findIdentity result.provider result.subject).any fun i => i.userID ≠ userID then
    (.error "this SSO identity is already linked to another account", svc)
  else if svc.identities.any fun i => i.userID = userID && i.provider = result.provider then
    (.error ("you already have a " ++ result.provider ++ " account linked"), svc)
  else
    match createIdentity svc userID (lowerText cfg.casing result.email) result with
    | .error .conflict => (.error "this SSO identity is already linked to another account", svc)
    | .error err => (.error ("link SSO identity: " ++ err.message), svc)
    | .ok svc => (.ok (), svc)

/-- The value `enforced` is the answer to whether an organization of the user enforces SSO. -/
def unlinkSSOIdentity (svc : Service) (userID : UUID) (provider : String)
    (enforced : Except String Bool) : Except String Unit × Service :=
  match svc.accounts.getByID userID with
  | none => (.error "user not found", svc)
  | some user =>
    if user.passwordHash.isNone then
      (.error "you must set a password before unlinking SSO", svc)
    else if user.authMethodLock = some "sso" then
      (.error "cannot unlink SSO: account is locked to SSO login only", svc)
    else if enforced.toOption = some true then
      (.error "SSO is required by your organization", svc)
    else
      (.ok (), { svc with
        identities := svc.identities.filter fun i =>
          !(i.userID = userID && i.provider = provider) })

/-- An unknown value is refused before the user is looked up. -/
def setAuthMethodLock (svc : Service) (userID : UUID) (lock : Option String) :
    Except String Unit × Service :=
  if lock.any fun l => l ≠ "sso" && l ≠ "password" then
    (.error "invalid auth_method_lock value: must be null, \"sso\", or \"password\"", svc)
  else
    changeUser svc userID "user not found"
      (Account.setAuthMethodLock lock (some (svc.identities.countP fun i => i.userID = userID)))
      fun _ => false

/-! ## Requests -/

/-- The requests that concern how a user signs in. -/
inductive Request where
  | register (input : RegisterInput)
  | ssoLogin (result : SSOCallbackResult) (draws : Draws)
  | link (userID : UUID) (result : SSOCallbackResult)
  | unlink (userID : UUID) (provider : String) (enforced : Except String Bool)
  | changePassword (userID currentSessionID : UUID) (currentPassword newPassword : String)
    (now : Nat)
  | resetPassword (token : String) (tokenUser : Option UUID) (newPassword : String) (now : Nat)
  | migrateToSSO (userID : UUID)
  | migrateToPassword (userID : UUID) (newPassword : String) (now : Nat)
  | setAuthMethodLock (userID : UUID) (lock : Option String)

/-- The database after a request, none of whose statements fails for want of a connection. -/
def serve (p : Platform) : Request → Platform
  | .register input => { p with svc := (register cfg p.svc input).2 }
  | .ssoLogin result draws => (ssoLogin cfg noFaults p result draws).2
  | .link userID result => { p with svc := (linkSSOIdentity cfg p.svc userID result).2 }
  | .unlink userID provider enforced =>
    { p with svc := (unlinkSSOIdentity p.svc userID provider enforced).2 }
  | .changePassword userID sessionID current new now =>
    { p with svc := (p.svc.changePassword cfg userID sessionID current new now).2 }
  | .resetPassword token tokenUser new now =>
    { p with svc := (p.svc.resetPassword cfg token tokenUser new now).2 }
  | .migrateToSSO userID => { p with svc := (p.svc.migrateToSSO userID).2 }
  | .migrateToPassword userID new now =>
    { p with svc := (p.svc.migrateToPassword cfg userID new now).2 }
  | .setAuthMethodLock userID lock => { p with svc := (setAuthMethodLock p.svc userID lock).2 }

end

/-! ## Ways to sign in -/

def Linked (svc : Service) (id : UUID) : Prop := ∃ i ∈ svc.identities, i.userID = id

/-- A user has what the lock requires, and at least one way to sign in. -/
structure CanSignIn (linked : Prop) (user : User) : Prop where
  sso : user.authMethodLock = some "sso" → linked
  password : user.authMethodLock = some "password" → user.passwordHash.isSome = true
  either : user.passwordHash.isSome = true ∨ linked

theorem CanSignIn.congr {linked linked' : Prop} {old new : User} (h : CanSignIn linked old)
    (hsame : SameCredentials old new) (hlinked : linked → linked') : CanSignIn linked' new := by
  refine ⟨fun hlock => ?_, fun hlock => ?_, ?_⟩
  · rw [hsame.authMethodLock] at hlock
    exact hlinked (h.sso hlock)
  · rw [hsame.authMethodLock] at hlock
    rw [hsame.passwordHash]
    exact h.password hlock
  · rw [hsame.passwordHash]
    exact h.either.imp_right hlinked

/-- No account is stranded. -/
def NoneStranded (svc : Service) : Prop :=
  ∀ id user, svc.accounts.getByID id = some user → CanSignIn (Linked svc id) user

section

variable {cfg : Config} {svc svc' : Service}

/-- More identities are no harm. -/
theorem NoneStranded.grow (h : NoneStranded svc) (haccounts : svc'.accounts = svc.accounts)
    (hidentities : svc.identities ⊆ svc'.identities) : NoneStranded svc' := by
  intro id user huser
  rw [haccounts] at huser
  refine (h id user huser).congr (.refl user) ?_
  rintro ⟨i, hi, rfl⟩
  exact ⟨i, hidentities hi, rfl⟩

/-- A user who may unlink has a password and is not locked to SSO. -/
theorem NoneStranded.unlinkSSOIdentity (h : NoneStranded svc) (userID : UUID) (provider : String)
    (enforced : Except String Bool) :
    NoneStranded (unlinkSSOIdentity svc userID provider enforced).2 := by
  unfold Sso.unlinkSSOIdentity
  split
  · exact h
  rename_i user huser
  split
  · exact h
  rename_i hhash
  split
  · exact h
  rename_i hlock
  split
  · exact h
  intro id row hrow
  by_cases hid : id = userID
  · subst hid
    cases huser.symm.trans hrow
    have hsome : user.passwordHash.isSome = true := by
      simpa [Option.isSome_iff_ne_none] using hhash
    exact ⟨fun hsso => absurd hsso hlock, fun _ => hsome, .inl hsome⟩
  · refine (h id row hrow).congr (.refl row) ?_
    rintro ⟨i, hi, rfl⟩
    exact ⟨i, List.mem_filter.mpr ⟨hi, by simp [hid]⟩, rfl⟩

/-- Writing a row whose user can sign in. -/
theorem NoneStranded.changeUser (h : NoneStranded svc) (userID : UUID) (missing : String)
    {change : User → Except String User} (revoked : Session → Bool)
    (hchange : ∀ user user', svc.accounts.getByID userID = some user → change user = .ok user' →
      CanSignIn (Linked svc userID) user') :
    NoneStranded (changeUser svc userID missing change revoked).2 := by
  unfold Account.changeUser
  split
  · exact h
  rename_i user huser
  split
  · exact h
  rename_i user' hok
  intro id row hrow
  change (svc.accounts.update userID user').getByID id = some row at hrow
  by_cases hid : id = userID
  · subst hid
    rw [Accounts.getByID_update_self huser] at hrow
    cases hrow
    have hnew := hchange user user' huser hok
    exact ⟨hnew.sso, hnew.password, hnew.either⟩
  · rw [Accounts.getByID_update_of_ne hid] at hrow
    exact h id row hrow

theorem CanSignIn.setPassword {linked : Prop} {user : User} (h : CanSignIn linked user) (now : Nat)
    (hash : String) : CanSignIn linked (setPassword now user hash) :=
  ⟨h.sso, fun _ => rfl, .inl rfl⟩

theorem linked_of_count {id : UUID}
    (h : (some (svc.identities.countP fun i => i.userID = id)).getD 0 ≠ 0) : Linked svc id := by
  obtain ⟨i, hi, hid⟩ := List.countP_pos_iff.mp (Nat.pos_of_ne_zero h)
  exact ⟨i, hi, of_decide_eq_true hid⟩

section

variable (h : NoneStranded svc)

include h

theorem NoneStranded.changePassword (userID sessionID : UUID) (current new : String) (now : Nat) :
    NoneStranded (svc.changePassword cfg userID sessionID current new now).2 := by
  refine h.changeUser userID _ _ fun user user' huser hok => ?_
  unfold Account.changePassword at hok
  split at hok
  · cases hok
  simp only [guard_eq_ok, bind_eq_ok] at hok
  obtain ⟨_, _, _, hash, _, hok⟩ := hok
  cases hok
  exact (h userID user huser).setPassword now hash

theorem NoneStranded.resetPassword (token : String)
    (tokenUser : Option UUID) (new : String) (now : Nat) :
    NoneStranded (svc.resetPassword cfg token tokenUser new now).2 := by
  unfold Service.resetPassword
  split
  · exact h
  split
  · exact h
  · exact h
  rename_i userID _
  refine h.changeUser userID _ _ fun user user' huser hok => ?_
  unfold Account.resetPassword at hok
  simp only [guard_eq_ok, bind_eq_ok] at hok
  obtain ⟨_, _, _, _, hash, _, hok⟩ := hok
  cases hok
  exact (h userID user huser).setPassword now hash

theorem NoneStranded.migrateToSSO (userID : UUID) : NoneStranded (svc.migrateToSSO userID).2 := by
  refine h.changeUser userID _ _ fun user user' _ hok => ?_
  obtain ⟨hcount, hok⟩ := guard_eq_ok.mp hok
  cases hok
  have hlinked := linked_of_count hcount
  exact ⟨fun _ => hlinked, fun hlock => absurd hlock (by simp), .inr hlinked⟩

theorem NoneStranded.migrateToPassword (userID : UUID) (new : String)
    (now : Nat) : NoneStranded (svc.migrateToPassword cfg userID new now).2 := by
  refine h.changeUser userID _ _ fun user user' _ hok => ?_
  obtain ⟨_, _, hok⟩ := bind_eq_ok.mp hok
  obtain ⟨hash, _, hok⟩ := bind_eq_ok.mp hok
  cases hok
  exact ⟨fun hlock => absurd hlock (by simp), fun _ => rfl, .inl rfl⟩

theorem NoneStranded.setAuthMethodLock (userID : UUID)
    (lock : Option String) : NoneStranded (setAuthMethodLock svc userID lock).2 := by
  unfold Sso.setAuthMethodLock
  split
  · exact h
  refine h.changeUser userID _ _ fun user user' huser hok => ?_
  have hold := h userID user huser
  unfold Account.setAuthMethodLock at hok
  split at hok
  · cases hok
    exact ⟨fun hlock => absurd hlock (by simp), fun hlock => absurd hlock (by simp), hold.either⟩
  · obtain ⟨hcount, hok⟩ := guard_eq_ok.mp hok
    cases hok
    exact ⟨fun _ => linked_of_count hcount, fun hlock => absurd hlock (by simp), hold.either⟩
  · obtain ⟨hhash, hok⟩ := guard_eq_ok.mp hok
    cases hok
    have hsome : user.passwordHash.isSome = true := by
      simpa [Option.isSome_iff_ne_none] using hhash
    exact ⟨fun hlock => absurd hlock (by simp), fun _ => hsome, .inl hsome⟩
  · cases hok

/-- A new user has a password. -/
theorem NoneStranded.register (input : RegisterInput) :
    NoneStranded (register cfg svc input).2 := by
  unfold Account.register
  cases htx : registerTx cfg svc input with
  | error err => exact h
  | ok r =>
    obtain ⟨hash, svc₁, _, hinsert, hsession⟩ := registerTx_eq_ok (show
      registerTx cfg svc input = .ok (r.1, r.2) from htx)
    have hkeeps : KeepsUsers svc₁ r.2 := by
      rw [← (Prod.mk.inj hsession).2]
      exact createSession_keepsUsers
    obtain ⟨accounts, hcreate, rfl⟩ := insertUser_eq_ok hinsert
    refine .grow ?_ hkeeps.accounts (hkeeps.identities ▸ List.Subset.refl _)
    intro id row hrow
    by_cases hid : id = input.userID
    · subst hid
      rw [Accounts.getByID_create_self hcreate] at hrow
      obtain rfl := Option.some.inj hrow
      exact ⟨fun hlock => absurd hlock (by simp [RegisterInput.user, newUser, User.stored]),
        fun _ => rfl, .inl rfl⟩
    · rw [Accounts.getByID_create_of_ne hcreate hid] at hrow
      exact h id row hrow

end

/-! ## First logins -/

/-- What the table of identities has to store of a result fits its columns. -/
structure Recordable (result : SSOCallbackResult) : Prop where
  provider : varchar 50 result.provider = some result.provider
  subject : varchar 255 result.subject = some result.subject
  claims : result.claims.storable = true

variable {p p' : Platform} {result : SSOCallbackResult} {draws : Draws} {chosen : Chosen}

theorem findAccount_absent (h : findAccount cfg noFaults p result = .ok .absent) :
    p.svc.findIdentity result.provider result.subject = none := by
  unfold findAccount at h
  cases hfind : p.svc.findIdentity result.provider result.subject with
  | none => rfl
  | some identity =>
    rw [hfind] at h
    dsimp only [noFaults] at h
    split at h
    · cases h
    · cases h
    · cases h

/-- The identity of a user who was created is recorded, if it can be. -/
theorem createIdentity_of_created {tx : Service} (hrecordable : Recordable result)
    (hfind : p.svc.findIdentity result.provider result.subject = none)
    (hcreate : createUser p.svc draws.userID
      (result.newUser (lowerText cfg.casing result.email) draws.changedAt) = .ok tx) :
    createIdentity tx draws.userID (lowerText cfg.casing result.email) result =
      .ok { tx with identities :=
        ⟨result.provider, result.subject, draws.userID⟩ :: tx.identities } := by
  obtain ⟨row, accounts, hrow, hinsert, rfl⟩ := createUser_eq_ok hcreate
  obtain ⟨displayName, ssoProvider, hname, hzero, rfl⟩ := columns_eq_some hrow
  have hemail : varchar 255 (lowerText cfg.casing result.email) =
      some (lowerText cfg.casing result.email) := by
    have hlength := Accounts.email_length_of_create hinsert
    simp only [SSOCallbackResult.newUser, newSSOUser] at hzero hlength
    simp [varchar, hzero, hlength]
  have hname : varchar 255 result.displayName = some displayName := hname
  have huser : (accounts.getByID draws.userID).isNone = false := by
    rw [Accounts.getByID_create_self hinsert]
    rfl
  have hfree : (Service.findIdentity { p.svc with accounts } result.provider
      result.subject).isSome = false := by
    rw [show Service.findIdentity { p.svc with accounts } result.provider result.subject = none
      from hfind]
    rfl
  simp only [createIdentity, hrecordable.provider, hrecordable.subject, hemail, hname,
    hrecordable.claims, hfree, huser]
  rfl

theorem Selects.linked_of_created (h : Selects cfg noFaults p result draws chosen p')
    (hrecordable : findAccount cfg noFaults p result = .ok .absent → Recordable result)
    (hnew : chosen.isNew = true) : Linked p'.svc chosen.id := by
  cases h with
  | @created tx hfound hcreate =>
    unfold recordIdentity
    rw [createIdentity_of_created (hrecordable hfound) (findAccount_absent hfound) hcreate]
    exact ⟨_, List.mem_cons_self, rfl⟩
  | _ => cases hnew

/-- An account that existed keeps its credentials. -/
theorem Selects.sameCredentials (h : Selects cfg faults p result draws chosen p')
    (hnew : chosen.isNew = false) :
    ∃ old, p.svc.accounts.getByID chosen.id = some old ∧ SameCredentials old chosen.user := by
  cases h with
  | @linked identity user p' hfind huser hlock hwrites => exact ⟨user, huser, rfl, rfl, rfl⟩
  | @matched account p₁ hmail hverified hlock hwrite =>
    exact ⟨account.user, Accounts.getByID_eq_some.mpr (Accounts.getByEmail_eq_some.mp hmail).1,
      rfl, rfl, rfl⟩
  | created _ _ => cases hnew

theorem NoneStranded.ssoLogin (h : NoneStranded p.svc) (draws : Draws)
    (hrecordable : findAccount cfg noFaults p result = .ok .absent → Recordable result) :
    NoneStranded (ssoLogin cfg noFaults p result draws).2.svc := by
  cases ssoLogin_cases cfg noFaults p result draws with
  | inl heq =>
    rw [heq]
    exact h
  | inr hselected =>
    obtain ⟨domain, chosen, p', hdomain, hselect⟩ := hselected
    obtain ⟨hrows, hidentities⟩ := ssoLogin_of_selected hdomain hselect
    have hselects := selectAccount_eq_ok hselect
    generalize (Sso.ssoLogin cfg noFaults p result draws).2 = q at hrows hidentities ⊢
    have hgrow : ∀ id, Linked p.svc id → Linked q.svc id := by
      rintro id ⟨i, hi, rfl⟩
      exact ⟨i, hidentities ▸ hselects.writes.1 hi, rfl⟩
    intro id row hrow
    cases hrows.cases hrow with
    | inl hmine =>
      obtain ⟨rfl, hsame⟩ := hmine
      cases hnew : chosen.isNew with
      | true =>
        obtain ⟨i, hi, hid⟩ := hselects.linked_of_created hrecordable hnew
        have hlinked : Linked q.svc chosen.id := ⟨i, hidentities ▸ hi, hid⟩
        refine ⟨fun _ => hlinked, fun hpassword => ?_, .inr hlinked⟩
        rw [hsame.authMethodLock, (hselects.of_isNew hnew).2.2.2] at hpassword
        cases hpassword
      | false =>
        obtain ⟨old, hold, hcredentials⟩ := hselects.sameCredentials hnew
        exact (h chosen.id old hold).congr (hcredentials.trans hsame) (hgrow chosen.id)
    | inr hother => exact (h id row hother).congr (.refl row) (hgrow id)

/-- A new account whose identity is not recorded is stranded. -/
theorem stranded_of_unlinked {domain : String}
    (hdomain : checkDomain cfg noFaults p.dir result = .ok domain)
    (hselect : selectAccount cfg noFaults p result domain draws = (.ok chosen, p'))
    (hnew : chosen.isNew = true) (hunlinked : ¬ Linked p'.svc chosen.id) :
    ¬ NoneStranded (ssoLogin cfg noFaults p result draws).2.svc := by
  intro h
  obtain ⟨hrows, hidentities⟩ := ssoLogin_of_selected hdomain hselect
  obtain ⟨row, hrow, hsame⟩ := hrows.own
  cases (h chosen.id row hrow).either with
  | inl hpassword =>
    rw [hsame.passwordHash, ((selectAccount_eq_ok hselect).of_isNew hnew).2.2.1] at hpassword
    cases hpassword
  | inr hlinked =>
    obtain ⟨i, hi, hid⟩ := hlinked
    rw [hidentities] at hi
    exact hunlinked ⟨i, hi, hid⟩

/-! ## Runs -/

/-- A login without an account reports an identity that can be recorded. -/
def Request.Records (cfg : Config) (p : Platform) : Request → Prop
  | .ssoLogin result _ => findAccount cfg noFaults p result = .ok .absent → Recordable result
  | _ => True

theorem NoneStranded.serve (h : NoneStranded p.svc) {req : Request} (hreq : req.Records cfg p) :
    NoneStranded (serve cfg p req).svc := by
  cases req with
  | register input =>
    simp only [Sso.serve]
    exact h.register input
  | ssoLogin result draws =>
    simp only [Sso.serve]
    exact h.ssoLogin draws hreq
  | link userID result =>
    simp only [Sso.serve]
    unfold Sso.linkSSOIdentity
    iterate 3
      split
      · exact h
    · exact h
    · rename_i svc' hcreate
      obtain ⟨provider, subject, _, _, rfl⟩ := createIdentity_eq_ok hcreate
      exact h.grow rfl (List.subset_cons_self _ _)
  | unlink userID provider enforced =>
    simp only [Sso.serve]
    exact h.unlinkSSOIdentity userID provider enforced
  | changePassword userID sessionID current new now =>
    simp only [Sso.serve]
    exact h.changePassword userID sessionID current new now
  | resetPassword token tokenUser new now =>
    simp only [Sso.serve]
    exact h.resetPassword token tokenUser new now
  | migrateToSSO userID =>
    simp only [Sso.serve]
    exact h.migrateToSSO userID
  | migrateToPassword userID new now =>
    simp only [Sso.serve]
    exact h.migrateToPassword userID new now
  | setAuthMethodLock userID lock =>
    simp only [Sso.serve]
    exact h.setAuthMethodLock userID lock

/-- As long as the identities of new accounts can be recorded, no sequence of requests strands
an account. -/
theorem run_strands_none {reqs : List Request} (h : NoneStranded p.svc)
    (hreqs : Trace.Guarded (serve cfg) (fun p req => req.Records cfg p) p reqs) :
    NoneStranded (Trace.run (serve cfg) p reqs).svc := by
  have hstep : ∀ p req, NoneStranded (Platform.svc p) → Request.Records cfg p req →
      NoneStranded (Platform.svc (serve cfg p req)) := fun _ _ hp hreq => hp.serve hreq
  exact hreqs.invariant h hstep

end

/-! ## A subject that is too long -/

/-- A platform without users. -/
def freshPlatform : Platform :=
  { samplePlatform [1] false with
    svc := { sampleService with accounts := .empty, sessions := .empty } }

theorem recordable_login_strands_none :
    NoneStranded (Trace.run (serve sampleConfig) freshPlatform
      [.ssoLogin sampleResult sampleDraws, .migrateToSSO 2]).svc := by
  have hrecordable : Recordable sampleResult := ⟨by decide +kernel, by decide +kernel, rfl⟩
  exact run_strands_none (fun _ _ huser => nomatch huser) ⟨fun _ => hrecordable, trivial, trivial⟩

/-- What the provider reports of Ann, with the given subject. -/
def annSubject (subject : String) : SSOCallbackResult := { sampleResult with subject }

theorem recordIdentity_annSubject {subject : String} (h : varchar 255 subject = none)
    (p : Platform) (id : UUID) :
    recordIdentity sampleConfig noFaults p (annSubject subject) id = p := by
  have hrefused : (createIdentity p.svc id
      (lowerText sampleConfig.casing (annSubject subject).email) (annSubject subject)).toOption =
      none := by
    rw [createIdentity, show (annSubject subject).subject = subject from rfl, h]
    split
    · rename_i hsubject _ _
      cases hsubject
    · rfl
  rw [recordIdentity, hrefused]
  exact Faults.attempt_none _ _ _

/-- A first login whose subject cannot be recorded. -/
theorem annSubject_strands {subject : String} (h : varchar 255 subject = none) :
    ¬ NoneStranded (Trace.run (serve sampleConfig) freshPlatform
      [.ssoLogin (annSubject subject) sampleDraws]).svc := by
  have hemail : (annSubject subject).email = sampleResult.email := rfl
  have hprovider : (annSubject subject).provider = sampleResult.provider := rfl
  have hdomain : checkDomain sampleConfig noFaults freshPlatform.dir (annSubject subject) =
      .ok "corp.example" := by
    have hsample : checkDomain sampleConfig noFaults freshPlatform.dir sampleResult =
        .ok "corp.example" := by decide +kernel
    simp only [checkDomain, hemail, hprovider] at hsample ⊢
    exact hsample
  obtain ⟨tx, hcreate⟩ : ∃ tx, createUser freshPlatform.svc sampleDraws.userID
      (sampleResult.newUser (lowerText sampleConfig.casing sampleResult.email)
        sampleDraws.changedAt) = .ok tx := exists_ok (by decide +kernel)
  have habsent : ssoAbsent sampleConfig noFaults freshPlatform (annSubject subject) "corp.example"
      sampleDraws = (.ok ⟨2, sampleResult.newUser (lowerText sampleConfig.casing
        sampleResult.email) sampleDraws.changedAt, true⟩, { freshPlatform with svc := tx }) := by
    have hrules : matchingRules sampleConfig noFaults freshPlatform.dir (annSubject subject)
        "corp.example" = [] := rfl
    have hinvite : checkPendingInvite sampleConfig noFaults freshPlatform.dir
        (annSubject subject) sampleDraws.now = .ok () := rfl
    have huser : (annSubject subject).newUser = sampleResult.newUser := rfl
    simp only [ssoAbsent, hrules, hinvite, hemail, huser, Faults.run, noFaults, hcreate,
      Except.mapError]
    rfl
  have hselect : selectAccount sampleConfig noFaults freshPlatform (annSubject subject)
      "corp.example" sampleDraws = (.ok ⟨2, sampleResult.newUser (lowerText sampleConfig.casing
        sampleResult.email) sampleDraws.changedAt, true⟩, { freshPlatform with svc := tx }) := by
    rw [selectAccount, show findAccount sampleConfig noFaults freshPlatform (annSubject subject) =
      .ok .absent from rfl]
    dsimp only
    rw [habsent, withIdentity, recordIdentity_annSubject h]
  obtain ⟨row, accounts, _, _, rfl⟩ := createUser_eq_ok hcreate
  simp only [Trace.run_cons, Trace.run_nil, serve]
  refine stranded_of_unlinked hdomain hselect rfl ?_
  rintro ⟨i, hi, _⟩
  exact List.not_mem_nil hi

theorem varchar_replicate {n m : Nat} (h : n < m) :
    varchar n (String.ofList (List.replicate m 'x')) = none := by
  have hlength : ¬ (String.ofList (List.replicate m 'x')).length ≤ n := by
    rw [String.length_ofList, List.length_replicate]
    omega
  have hspaces : ((String.ofList (List.replicate m 'x')).toList.drop n).all (· = ' ') = false := by
    rw [String.toList_ofList, List.drop_replicate, List.all_replicate, if_neg (by omega)]
    rfl
  unfold varchar
  rw [if_neg hlength, hspaces]
  split
  · rfl
  · rfl

/-- A subject of 256 characters is one too long for the table of identities. The user is
created, but can never sign in again. -/
theorem long_subject_strands :
    ¬ NoneStranded (Trace.run (serve sampleConfig) freshPlatform
      [.ssoLogin (annSubject (String.ofList (List.replicate 256 'x'))) sampleDraws]).svc :=
  annSubject_strands (varchar_replicate (by decide))

end BurnerByte.Sso
