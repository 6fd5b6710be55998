import BurnerByte.Account.Effects
import BurnerByte.Sso.Memberships

/-!
# What an SSO login writes

A login that fails before it has an account leaves the database as it was. Any other one
writes no row but that of its account, and never the address, the password or the lock.
Checking the session limit and creating the session leave users and identities alone.
-/

namespace BurnerByte.Sso

open Go Account Outcome

/-- Two versions of a row with the same address and credentials. -/
structure SameCredentials (old new : User) : Prop where
  email : new.email = old.email
  passwordHash : new.passwordHash = old.passwordHash
  authMethodLock : new.authMethodLock = old.authMethodLock

namespace SameCredentials

theorem refl (user : User) : SameCredentials user user := ⟨rfl, rfl, rfl⟩

theorem trans {a b c : User} (h : SameCredentials a b) (h' : SameCredentials b c) :
    SameCredentials a c :=
  ⟨h'.email.trans h.email, h'.passwordHash.trans h.passwordHash,
    h'.authMethodLock.trans h.authMethodLock⟩

theorem stored (user : User) : SameCredentials user user.stored := ⟨rfl, rfl, rfl⟩

theorem columns {user row : User} (h : columns user = some row) : SameCredentials user row := by
  obtain ⟨displayName, ssoProvider, _, _, rfl⟩ := columns_eq_some h
  exact ⟨rfl, rfl, rfl⟩

end SameCredentials

/-! ## The row of the account -/

/-- The account has a row with the credentials of the user in memory, and the other rows are
those of before. -/
structure Rows (before : Accounts) (chosen : Chosen) (accounts : Accounts) : Prop where
  own : ∃ row, accounts.getByID chosen.id = some row ∧ SameCredentials chosen.user row
  others : ∀ id, id ≠ chosen.id → accounts.getByID id = before.getByID id

section

variable {cfg : Config} {faults : Faults} {p p' : Platform} {result : SSOCallbackResult}
  {domain : String} {draws : Draws} {chosen : Chosen} {before accounts : Accounts}

variable {user row : User} {id userID : UUID} {err role : String}

theorem Rows.of_getByID (h : before.getByID chosen.id = some user)
    (hsame : SameCredentials chosen.user user) : Rows before chosen before :=
  ⟨⟨user, h, hsame⟩, fun _ _ => rfl⟩

theorem Rows.create (h : before.create chosen.id row = .ok accounts)
    (hsame : SameCredentials chosen.user row) : Rows before chosen accounts where
  own := ⟨row.stored, Accounts.getByID_create_self h, hsame.trans (.stored row)⟩
  others _ hid := Accounts.getByID_create_of_ne h hid

theorem Rows.update (h : Rows before chosen accounts) (hsame : SameCredentials chosen.user row) :
    Rows before chosen (accounts.update chosen.id row) where
  own := by
    obtain ⟨old, hold, hcredentials⟩ := h.own
    exact ⟨_, Accounts.getByID_update_self hold, hcredentials.email, hsame.passwordHash,
      hsame.authMethodLock⟩
  others id hid := (Accounts.getByID_update_of_ne hid).trans (h.others id hid)

/-- A row is the one of the account, or was there before. -/
theorem Rows.cases (h : Rows before chosen accounts) (hrow : accounts.getByID id = some row) :
    id = chosen.id ∧ SameCredentials chosen.user row ∨ before.getByID id = some row := by
  by_cases hid : id = chosen.id
  · subst hid
    obtain ⟨own, hown, hsame⟩ := h.own
    cases hown.symm.trans hrow
    exact .inl ⟨rfl, hsame⟩
  · exact .inr ((h.others id hid).symm.trans hrow)

/-- Writing the user in memory, or an earlier version of it. -/
theorem Rows.attempt (h : Rows before chosen p.svc.accounts) (call : Call)
    (hsame : SameCredentials chosen.user user) :
    Rows before chosen (faults.attempt call p (p.writeUser chosen.id user)).svc.accounts := by
  cases faults.attempt_cases call p (p.writeUser chosen.id user) with
  | inl heq =>
    rw [heq]
    exact h
  | inr hwrite =>
    obtain ⟨row, hcolumns, heq⟩ := writeUser_eq_some hwrite
    rw [heq]
    exact h.update (hsame.trans (.columns hcolumns))

/-! ## Selecting the account -/

theorem createIdentity_eq_ok {svc svc' : Service} {email : String}
    (h : createIdentity svc userID email result = .ok svc') :
    ∃ provider subject, varchar 50 result.provider = some provider ∧
      varchar 255 result.subject = some subject ∧
      svc' = { svc with identities := ⟨provider, subject, userID⟩ :: svc.identities } := by
  unfold createIdentity at h
  split at h
  · rename_i provider subject _ _ hprovider hsubject _ _
    simp only [guard_eq_ok] at h
    obtain ⟨_, _, _, h⟩ := h
    exact ⟨provider, subject, hprovider, hsubject, (Except.ok.inj h).symm⟩
  · cases h

/-- Recording the identity changes nothing but the identities, and none is lost. -/
theorem recordIdentity_eq (cfg : Config) (faults : Faults) (p : Platform)
    (result : SSOCallbackResult) (id : UUID) :
    ∃ identities, p.svc.identities ⊆ identities ∧
      recordIdentity cfg faults p result id = { p with svc := { p.svc with identities } } := by
  cases faults.attempt_cases .createIdentity p
      ((createIdentity p.svc id (lowerText cfg.casing result.email) result).toOption.map
        fun svc => { p with svc }) with
  | inl heq => exact ⟨p.svc.identities, List.Subset.refl _, heq⟩
  | inr hnext =>
    obtain ⟨svc, hcreate, heq⟩ := Option.map_eq_some_iff.mp hnext
    obtain ⟨provider, subject, _, _, rfl⟩ := createIdentity_eq_ok (toOption_eq_some.mp hcreate)
    exact ⟨_, List.subset_cons_self _ _, heq.symm⟩

theorem SSOCallbackResult.linked_sameCredentials (result : SSOCallbackResult) (user : User) :
    SameCredentials (result.linked user) user := ⟨rfl, rfl, rfl⟩

theorem ssoLinked_rows (huser : p.svc.accounts.getByID id = some user) :
    Rows p.svc.accounts ⟨id, result.linked user, false⟩
      (ssoLinked faults p result id user).2.svc.accounts := by
  have hstart : Rows p.svc.accounts ⟨id, result.linked user, false⟩ p.svc.accounts :=
    .of_getByID huser (result.linked_sameCredentials user)
  unfold ssoLinked
  split
  · exact hstart
  have hverified : Rows p.svc.accounts ⟨id, result.linked user, false⟩
      (if user.emailVerified then p else faults.attempt .verifyUser p
        (p.writeUser id { user with emailVerified := true })).svc.accounts := by
    split
    · exact hstart
    · exact hstart.attempt .verifyUser ⟨rfl, rfl, rfl⟩
  dsimp only
  generalize (if user.emailVerified then p else faults.attempt .verifyUser p
    (p.writeUser id { user with emailVerified := true })) = q at hverified ⊢
  split
  · exact hverified
  · exact hverified.attempt .relabelUser (.refl _)

theorem Selects.rows (h : Selects cfg faults p result draws chosen p') :
    Rows p.svc.accounts chosen p'.svc.accounts := by
  cases h with
  | linked hfind huser hlock hwrites =>
    rw [← hwrites]
    exact ssoLinked_rows huser
  | @matched account p₁ hmail hverified hlock hwrite =>
    have hrow : p.svc.accounts.getByID account.id = some account.user :=
      Accounts.getByID_eq_some.mpr (Accounts.getByEmail_eq_some.mp hmail).1
    have hstart : Rows p.svc.accounts ⟨account.id, result.linked account.user, false⟩
        p.svc.accounts := .of_getByID hrow (result.linked_sameCredentials account.user)
    obtain ⟨row, hcolumns, rfl⟩ := writeUser_eq_some hwrite
    obtain ⟨_, _, heq⟩ := recordIdentity_eq cfg faults _ result account.id
    rw [heq]
    exact hstart.update (.columns hcolumns)
  | created _ hcreate =>
    obtain ⟨row, accounts, hcolumns, hinsert, rfl⟩ := createUser_eq_ok hcreate
    obtain ⟨_, _, heq⟩ := recordIdentity_eq cfg faults _ result draws.userID
    rw [heq]
    exact .create hinsert (.columns hcolumns)

theorem withIdentity_eq_error {r : Except String Chosen × Platform}
    (h : withIdentity cfg faults result r = (.error err, p')) : r = (.error err, p') := by
  unfold withIdentity at h
  split at h
  · exact h
  · cases h

/-- No identity is lost, and no membership is written. -/
theorem Selects.writes (h : Selects cfg faults p result draws chosen p') :
    p.svc.identities ⊆ p'.svc.identities ∧ p'.dir = p.dir := by
  cases h with
  | @linked identity user p' hfind huser hlock hwrites =>
    obtain ⟨accounts, heq⟩ := ssoLinked_eq faults p result identity.userID user
    rw [← hwrites, heq]
    exact ⟨List.Subset.refl _, rfl⟩
  | @matched account p₁ hmail hverified hlock hwrite =>
    obtain ⟨row, _, rfl⟩ := writeUser_eq_some hwrite
    obtain ⟨_, hsubset, heq⟩ := recordIdentity_eq cfg faults _ result account.id
    rw [heq]
    exact ⟨hsubset, rfl⟩
  | created hfound hcreate =>
    obtain ⟨row, accounts, _, _, rfl⟩ := createUser_eq_ok hcreate
    obtain ⟨_, hsubset, heq⟩ := recordIdentity_eq cfg faults _ result draws.userID
    rw [heq]
    exact ⟨hsubset, rfl⟩

/-- A login that comes to no account has written nothing. -/
theorem selectAccount_eq_error
    (h : selectAccount cfg faults p result domain draws = (.error err, p')) : p' = p := by
  unfold selectAccount at h
  split at h
  · cases h
    rfl
  · unfold ssoLinked at h
    split at h
    · cases h
      rfl
    · cases h
  · have h := withIdentity_eq_error h
    unfold ssoMatched at h
    split at h
    · cases h
      rfl
    split at h
    · cases h
      rfl
    split at h
    · cases h
      rfl
    · cases h
      rfl
    · cases h
  · have h := withIdentity_eq_error h
    unfold ssoAbsent at h
    dsimp only at h
    split at h
    · rename_i rule rules _
      cases createAndProvisionFromMappings_cases cfg faults p result draws rule rules with
      | inl hprevented =>
        obtain ⟨_, err', heq⟩ := hprevented
        rw [heq] at h
        cases h
        rfl
      | inr hinserted =>
        obtain ⟨_, tx, _, heq⟩ := hinserted
        rw [heq] at h
        cases h
    · split at h
      · cases h
        rfl
      split at h
      · cases h
        rfl
      · cases h

/-! ## Finishing the login -/

section

variable {svc svc' : Service} {id : UUID} {user : User}

theorem makeRoom_keepsUsers (h : makeRoom cfg faults svc id user draws = .ok svc') :
    KeepsUsers svc svc' := by
  unfold makeRoom at h
  split at h
  · cases h
    exact .refl svc
  split at h
  · cases h
    exact .refl svc
  split at h
  · cases h
  obtain ⟨_, h⟩ := guard_eq_ok.mp h
  split at h
  · cases h
    exact .refl svc
  · cases h
    exact revokeOldestExceeding_keepsUsers

theorem makeRoomAgain_keepsUsers {now : Nat} :
    KeepsUsers svc (makeRoomAgain cfg faults svc id user now) := by
  unfold makeRoomAgain
  split
  · exact .refl svc
  split
  · exact revokeOldestExceeding_keepsUsers
  · exact .refl svc

theorem startSession_keepsUsers {provider : String} {issue : Issue} :
    KeepsUsers svc (startSession cfg faults svc id user provider issue).2 := by
  unfold startSession
  split
  · exact .refl svc
  · exact .refl svc
  split
  · exact makeRoomAgain_keepsUsers
  · exact makeRoomAgain_keepsUsers
  · exact makeRoomAgain_keepsUsers.trans issueTokens_keepsUsers

end

/-! ## The whole login -/

theorem finishSSOLogin_rows (h : Rows before chosen p.svc.accounts) :
    Rows before chosen (finishSSOLogin cfg faults p result chosen draws).2.svc.accounts ∧
      (finishSSOLogin cfg faults p result chosen draws).2.svc.identities = p.svc.identities := by
  unfold finishSSOLogin
  split
  · exact ⟨h, rfl⟩
  rename_i svc hroom
  have hstart : KeepsUsers p.svc (startSession cfg faults svc chosen.id chosen.user
      result.provider draws.issue).2 := (makeRoom_keepsUsers hroom).trans startSession_keepsUsers
  split
  · rename_i svc' heq
    rw [heq] at hstart
    refine ⟨?_, hstart.identities⟩
    rw [hstart.accounts]
    exact h
  rename_i tokens svc' heq
  rw [heq] at hstart
  have hrows : Rows before chosen svc'.accounts := by
    rw [hstart.accounts]
    exact h
  have hwrite : Rows before chosen (faults.attempt .lastLogin { p with svc := svc' }
      (Platform.writeUser { p with svc := svc' } chosen.id chosen.user)).svc.accounts :=
    Rows.attempt (p := { p with svc := svc' }) hrows .lastLogin (.refl _)
  obtain ⟨accounts, heq⟩ := attempt_writeUser_eq faults .lastLogin { p with svc := svc' }
    chosen.id chosen.user
  exact ⟨hwrite, (congrArg (fun p : Platform => p.svc.identities) heq).trans hstart.identities⟩

/-- Once the account is selected, no row but its own is written. -/
theorem ssoLogin_of_selected (hdomain : checkDomain cfg faults p.dir result = .ok domain)
    (hselect : selectAccount cfg faults p result domain draws = (.ok chosen, p')) :
    Rows p.svc.accounts chosen (ssoLogin cfg faults p result draws).2.svc.accounts ∧
      (ssoLogin cfg faults p result draws).2.svc.identities = p'.svc.identities := by
  have hdefaults : (if chosen.isNew then provisionDefaults faults chosen.id result p'
      else p').svc = p'.svc := by
    split
    · exact provisionDefaults_svc
    · rfl
  have hrows := (selectAccount_eq_ok hselect).rows
  rw [← hdefaults] at hrows
  obtain ⟨haccounts, hidentities⟩ := finishSSOLogin_rows hrows
  rw [hdefaults] at hidentities
  unfold ssoLogin
  rw [hdomain]
  dsimp only
  rw [hselect]
  exact ⟨haccounts, hidentities⟩

/-- A login that selects no account leaves the database as it was. -/
theorem ssoLogin_cases (cfg : Config) (faults : Faults) (p : Platform)
    (result : SSOCallbackResult) (draws : Draws) :
    (ssoLogin cfg faults p result draws).2 = p ∨
    ∃ domain chosen p', checkDomain cfg faults p.dir result = .ok domain ∧
      selectAccount cfg faults p result domain draws = (.ok chosen, p') := by
  unfold ssoLogin
  split
  · exact .inl rfl
  rename_i domain hdomain
  split
  · rename_i err p' hselect
    exact .inl (selectAccount_eq_error hselect)
  · rename_i chosen p' hselect
    exact .inr ⟨domain, chosen, p', hdomain, hselect⟩

/-- A row after a login is one from before, or the one of the account that was selected. -/
theorem ssoLogin_row
    (hrow : (ssoLogin cfg faults p result draws).2.svc.accounts.getByID id = some row) :
    p.svc.accounts.getByID id = some row ∨
    ∃ domain chosen p', checkDomain cfg faults p.dir result = .ok domain ∧
      selectAccount cfg faults p result domain draws = (.ok chosen, p') ∧
      id = chosen.id ∧ SameCredentials chosen.user row := by
  cases ssoLogin_cases cfg faults p result draws with
  | inl heq =>
    rw [heq] at hrow
    exact .inl hrow
  | inr hselected =>
    obtain ⟨domain, chosen, p', hdomain, hselect⟩ := hselected
    cases (ssoLogin_of_selected hdomain hselect).1.cases hrow with
    | inl hmine => exact .inr ⟨domain, chosen, p', hdomain, hselect, hmine⟩
    | inr hother => exact .inl hother

/-! ## Memberships -/

/-- A new account has no password, and is not locked. -/
theorem Selects.of_isNew (h : Selects cfg faults p result draws chosen p')
    (hnew : chosen.isNew = true) :
    chosen.id = draws.userID ∧ p.svc.accounts.getByID draws.userID = none ∧
      chosen.user.passwordHash = none ∧ chosen.user.authMethodLock = none := by
  cases h with
  | created _ hcreate => exact ⟨rfl, createUser_fresh hcreate, rfl, rfl⟩
  | _ => cases hnew

theorem finishSSOLogin_dir : (finishSSOLogin cfg faults p result chosen draws).2.dir = p.dir := by
  unfold finishSSOLogin
  split
  · rfl
  split
  · rfl
  rename_i tokens svc' _
  obtain ⟨accounts, heq⟩ := attempt_writeUser_eq faults .lastLogin { p with svc := svc' }
    chosen.id chosen.user
  exact (congrArg Platform.dir heq :)

/-- A login writes no membership, or creates a user and then those that the provider gives. -/
theorem ssoLogin_dir (cfg : Config) (faults : Faults) (p : Platform) (result : SSOCallbackResult)
    (draws : Draws) :
    (ssoLogin cfg faults p result draws).2.dir = p.dir ∨
    p.svc.accounts.getByID draws.userID = none ∧
      ((ssoLogin cfg faults p result draws).2.svc.accounts.getByID draws.userID).isSome ∧
      ∃ q : Platform, q.dir = p.dir ∧ (q.svc.accounts.getByID draws.userID).isSome ∧
        (ssoLogin cfg faults p result draws).2.dir =
          (provisionDefaults faults draws.userID result q).dir := by
  cases ssoLogin_cases cfg faults p result draws with
  | inl heq => exact .inl (congrArg Platform.dir heq)
  | inr hselected =>
    obtain ⟨domain, chosen, q, hdomain, hselect⟩ := hselected
    have hselects := selectAccount_eq_ok hselect
    have hdir : (ssoLogin cfg faults p result draws).2.dir =
        (if chosen.isNew then provisionDefaults faults chosen.id result q else q).dir := by
      unfold ssoLogin
      rw [hdomain]
      dsimp only
      rw [hselect]
      exact finishSSOLogin_dir
    cases hnew : chosen.isNew with
    | false =>
      rw [hnew] at hdir
      exact .inl (hdir.trans hselects.writes.2)
    | true =>
      obtain ⟨hid, hfresh, _⟩ := hselects.of_isNew hnew
      obtain ⟨row, hrow, _⟩ := (ssoLogin_of_selected hdomain hselect).1.own
      obtain ⟨row', hrow', _⟩ := hselects.rows.own
      rw [hid] at hrow hrow'
      rw [hnew, hid] at hdir
      exact .inr ⟨hfresh, by rw [hrow]; rfl, q, hselects.writes.2, by rw [hrow']; rfl, hdir⟩

/-- A login deletes no user. -/
theorem ssoLogin_keeps_user (h : (p.svc.accounts.getByID id).isSome) :
    ((ssoLogin cfg faults p result draws).2.svc.accounts.getByID id).isSome := by
  cases ssoLogin_cases cfg faults p result draws with
  | inl heq =>
    rw [heq]
    exact h
  | inr hselected =>
    obtain ⟨domain, chosen, q, hdomain, hselect⟩ := hselected
    have hrows := (ssoLogin_of_selected hdomain hselect).1
    by_cases hid : id = chosen.id
    · obtain ⟨row, hrow, _⟩ := hrows.own
      rw [hid, hrow]
      rfl
    · rw [hrows.others id hid]
      exact h

end

end BurnerByte.Sso
