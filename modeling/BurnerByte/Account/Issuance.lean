import BurnerByte.Account.Rejection

/-!
# Access tokens that were just issued

A request that creates a user writes the time of the password and then issues an access
token. The token keeps the whole second of its issue, and the row the microsecond of
the password. Within one second the token therefore looks older than the password, and
the middleware refuses it.
-/

namespace BurnerByte.Account

open Go

/-- The foreign key of the sessions. -/
def Service.Owned (svc : Service) : Prop :=
  ∀ session ∈ svc.sessions, (svc.accounts.getByID session.userID).isSome
  deriving Decidable

/-- When a request issues its access token, and the time of the password in the row of
the token's user. An SSO login counts only if it is the user's first. -/
def Request.issues (cfg : Config) (svc : Service) : Request → Option (Nat × Option Nat)
  | .register input => some (input.issue.issuedAt, some (timestamptz input.changedAt))
  | .complete input => some (input.issue.issuedAt, some (timestamptz input.changedAt))
  | .ssoLogin input =>
    match svc.findIdentity input.provider input.subject,
      svc.accounts.getByEmail (lowerText cfg.casing input.email) with
    | none, none => some (input.issue.issuedAt, some (timestamptz input.changedAt))
    | _, _ => none
  | .login input =>
    (svc.accounts.getByEmail (normalizeEmail cfg input.email)).map fun account =>
      (input.issue.issuedAt, account.user.passwordChangedAt)
  | .refresh input issuedAt =>
    (svc.db.getByTokenHash input.tokenHash).bind fun session =>
      (svc.accounts.getByID session.userID).map fun user => (issuedAt, user.passwordChangedAt)
  | _ => none

/-- What a request that issues an access token leaves for the middleware. -/
structure Service.Issued (cfg : Config) (svc svc' : Service) (pair : TokenPair) (issuedAt : Nat)
    (changedAt : Option Nat) (id : UUID) : Prop where
  token : ∃ holder, pair.accessToken = cfg.tokens.generateAccessToken issuedAt id holder
  user : ∃ user, svc'.accounts.getByID id = some user ∧ user.passwordChangedAt = changedAt
  marks : svc'.marks id = svc.marks id ∨ ∃ time ≤ issuedAt, svc'.marks id = some time

section

variable {cfg : Config} {svc svc' : Service} {pair : TokenPair} {id : UUID} {user : User}

variable {provider : Option String} {issue : Issue} {issuedAt : Nat} {changedAt : Option Nat}

theorem issueTokens_eq_ok (h : issueTokens cfg svc id user provider issue = (.ok pair, svc')) :
    pair.accessToken = cfg.tokens.generateAccessToken issue.issuedAt id user ∧
      svc'.accounts = svc.accounts ∧ svc'.marks = svc.marks := by
  have haccounts : (issueTokens cfg svc id user provider issue).2.accounts = svc.accounts :=
    issueTokens_keepsUsers.accounts
  have hmarks : (issueTokens cfg svc id user provider issue).2.marks = svc.marks :=
    issueTokens_marks
  rw [h] at haccounts hmarks
  refine ⟨?_, haccounts, hmarks⟩
  unfold issueTokens at h
  split at h
  · cases h
  obtain rfl := Except.ok.inj (Prod.mk.inj h).1
  rfl

/-- A user without sessions has room for one. -/
theorem createSession_of_active (h : svc.active id issue.now = []) :
    createSession cfg svc id user provider issue = issueTokens cfg svc id user provider issue := by
  have hroom : ¬ resolveSessionLimit cfg user ≤ (svc.active id issue.now).length := by
    have hpos := resolveSessionLimit_pos cfg user
    rw [h, List.length_nil]
    omega
  unfold createSession
  rw [if_neg hroom]

theorem active_of_fresh (howned : svc.Owned) (hfresh : svc.accounts.getByID id = none) (now : Nat) :
    svc.active id now = [] := by
  unfold Service.active
  rw [List.filter_eq_nil_iff]
  intro session hsession hactive
  simp only [Bool.and_eq_true, decide_eq_true_eq] at hactive
  have hsome := howned session hsession
  rw [hactive.1.1, hfresh] at hsome
  cases hsome

/-- A session for a user who was just created. -/
theorem issued_of_create {accounts : Accounts} {changedAt : Nat}
    (hchanged : user.passwordChangedAt = some changedAt)
    (hcreate : svc.accounts.create id user = .ok accounts) {svc₁ : Service}
    (h : issueTokens cfg svc₁ id user provider issue = (.ok pair, svc'))
    (haccounts : svc₁.accounts = accounts) (hmarks : svc₁.marks = svc.marks) :
    svc.Issued cfg svc' pair issue.issuedAt (some (timestamptz changedAt)) id := by
  obtain ⟨htoken, haccounts', hmarks'⟩ := issueTokens_eq_ok h
  refine ⟨⟨user, htoken⟩, ⟨user.stored, ?_, ?_⟩, .inl ?_⟩
  · rw [haccounts', haccounts]
    exact Accounts.getByID_create_self hcreate
  · simp only [User.stored, hchanged, Option.map_some]
  · rw [hmarks', hmarks]

theorem register_issued {input : RegisterInput} (howned : svc.Owned)
    (h : register cfg svc input = (.ok pair, svc')) :
    svc.Issued cfg svc' pair input.issue.issuedAt (some (timestamptz input.changedAt))
      input.userID := by
  obtain ⟨hash, svc₁, _, hinsert, hcreate⟩ := registerTx_eq_ok (inTx_eq_ok h)
  obtain ⟨accounts, hnew, rfl⟩ := insertUser_eq_ok hinsert
  have hactive : ({ svc with accounts } : Service).active input.userID input.issue.now = [] :=
    active_of_fresh howned (Accounts.fresh_of_create hnew) input.issue.now
  rw [createSession_of_active hactive] at hcreate
  exact issued_of_create rfl hnew hcreate rfl rfl

/-- The last statement of a login writes the row that it was given. -/
theorem Service.Issued.updateUser (h : svc.Issued cfg svc' pair issuedAt changedAt id)
    (hsame : user.stored.passwordChangedAt = changedAt) :
    svc.Issued cfg (svc'.updateUser id user) pair issuedAt changedAt id := by
  obtain ⟨old, hold, _⟩ := h.user
  exact ⟨h.token, ⟨_, Accounts.getByID_update_self hold, hsame⟩, h.marks⟩

variable {input : SSOLoginInput} {req : Request}

theorem ssoFirstLogin_issued {email : String} (howned : svc.Owned)
    (h : ssoFirstLogin cfg svc input email = (.ok pair, svc')) :
    svc.Issued cfg svc' pair input.issue.issuedAt (some (timestamptz input.changedAt))
      input.userID := by
  obtain ⟨accounts, hnew, h⟩ := ssoFirstLogin_eq_ok h
  obtain ⟨room, svc₂, hroom, hcreate, rfl⟩ := finishLogin_eq_ok h
  -- The new user has no session, so that none is given up.
  have hactive : ∀ now, (({ svc with accounts } : Service).link
      (input.identity input.userID)).active input.userID now = [] := by
    intro now
    unfold Service.active
    rw [link_sessions]
    exact active_of_fresh howned (Accounts.fresh_of_create hnew) now
  unfold enforceSessionLimit at hroom
  rw [hactive, List.length_nil, if_pos (resolveSessionLimit_pos cfg _)] at hroom
  cases hroom
  rw [createSession_of_active (hactive _)] at hcreate
  exact (issued_of_create rfl hnew hcreate (link_accounts _) (by
    unfold Service.link
    split <;> rfl)).updateUser rfl

theorem ssoLogin_first (hidentity : svc.findIdentity input.provider input.subject = none)
    (hemail : svc.accounts.getByEmail (lowerText cfg.casing input.email) = none)
    (h : ssoLogin cfg svc input = (.ok pair, svc')) :
    ssoFirstLogin cfg svc input (lowerText cfg.casing input.email) = (.ok pair, svc') := by
  obtain ⟨_, _, hsome, _⟩ | ⟨_, _, hsome, _⟩ | ⟨_, _, h⟩ := ssoLogin_eq_ok h
  · cases hidentity.symm.trans hsome
  · cases hemail.symm.trans hsome
  · exact h

theorem revokeOldestExceeding_marks {now : Nat} :
    (revokeOldestExceeding cfg svc id user now).marks id = svc.marks id ∨
      (revokeOldestExceeding cfg svc id user now).marks id = some now := by
  unfold revokeOldestExceeding
  dsimp only
  split
  · exact .inl rfl
  · exact .inr (if_pos rfl)

/-- A login may give up old sessions and mark the user before it issues the token. -/
theorem passwordLogin_issued {input : PasswordInput} {account : UserRow}
    (hfind : svc.accounts.getByEmail (normalizeEmail cfg input.email) = some account)
    (horder : input.now ≤ input.issue.issuedAt)
    (h : passwordLogin cfg svc input = (.ok pair, svc')) :
    svc.Issued cfg svc' pair input.issue.issuedAt account.user.passwordChangedAt account.id := by
  have hrow := Accounts.getByID_eq_some.mpr (Accounts.getByEmail_eq_some.mp hfind).1
  have hstored := congrArg User.passwordChangedAt (Accounts.stored_of_getByID hrow)
  unfold passwordLogin at h
  rw [hfind] at h
  dsimp only at h
  split at h
  · cases h
  obtain ⟨room, svc₁, hroom, hcreate, rfl⟩ := finishLogin_eq_ok h
  obtain ⟨htoken, haccounts, hmarks⟩ := issueTokens_eq_ok hcreate
  have hroom' : room.accounts = svc.accounts ∧
      (room.marks account.id = svc.marks account.id ∨
        room.marks account.id = some input.now) := by
    cases enforceSessionLimit_ok hroom with
    | inl heq =>
      rw [heq]
      exact ⟨rfl, .inl rfl⟩
    | inr heq =>
      rw [heq]
      exact ⟨revokeOldestExceeding_keepsUsers.accounts, revokeOldestExceeding_marks⟩
  have hissued : svc.Issued cfg svc₁ pair input.issue.issuedAt account.user.passwordChangedAt
      account.id := by
    refine ⟨⟨account.user, htoken⟩, ⟨account.user, ?_, rfl⟩, ?_⟩
    · rw [haccounts, hroom'.1]
      exact hrow
    · rw [hmarks]
      cases hroom'.2 with
      | inl hsame => exact .inl hsame
      | inr hmark => exact .inr ⟨input.now, horder, hmark⟩
  exact hissued.updateUser hstored

theorem refresh_issued {input : RefreshInput} {session : Session}
    (hfind : svc.db.getByTokenHash input.tokenHash = some session)
    (huser : svc.accounts.getByID session.userID = some user)
    (h : refresh cfg svc input issuedAt = (.ok pair, svc')) :
    svc.Issued cfg svc' pair issuedAt user.passwordChangedAt session.userID := by
  unfold refresh at h
  rw [hfind] at h
  dsimp only at h
  split at h
  · cases h
  split at h
  · cases h
  have haccounts : (svc.revokeWhere fun s => s.id = session.id).accounts = svc.accounts := rfl
  rw [haccounts, huser] at h
  dsimp only at h
  split at h
  · cases h
  split at h
  · cases h
  rename_i svc₁ hinsert
  obtain ⟨hpair, rfl⟩ := Prod.mk.inj h
  cases hpair
  obtain ⟨sessions, _, rfl⟩ := insertSession_eq_ok hinsert
  exact ⟨⟨user, rfl⟩, ⟨user, huser, rfl⟩, .inl rfl⟩

/-- What a successful request leaves for the token that it returns. -/
theorem handle_issued (howned : svc.Owned) (horder : req.readings.Pairwise (· ≤ ·))
    (hissues : req.issues cfg svc = some (issuedAt, changedAt))
    (hok : (handle cfg svc req).1 = .ok (some pair)) :
    ∃ id, svc.Issued cfg (handle cfg svc req).2 pair issuedAt changedAt id := by
  cases req with simp only [Request.issues, handle] at hissues hok ⊢
  | register input =>
    cases hissues
    exact ⟨_, register_issued howned (withTokens_eq_ok hok)⟩
  | complete input =>
    cases hissues
    have htx := inTx_eq_ok (withTokens_eq_ok hok)
    obtain ⟨hash, svc₁, _, hinsert, hissue⟩ := completeTx_eq_ok htx
    obtain ⟨accounts, hnew, rfl⟩ := insertUser_eq_ok hinsert
    exact ⟨_, issued_of_create rfl hnew hissue rfl rfl⟩
  | ssoLogin input =>
    split at hissues
    · rename_i hidentity hemail
      cases hissues
      exact ⟨_, ssoFirstLogin_issued howned
        (ssoLogin_first hidentity hemail (withTokens_eq_ok hok))⟩
    · cases hissues
  | login input =>
    obtain ⟨account, hfind, heq⟩ := Option.map_eq_some_iff.mp hissues
    cases heq
    have hle : input.now ≤ input.issue.issuedAt :=
      List.rel_of_pairwise_cons horder (List.mem_cons_self ..)
    exact ⟨_, passwordLogin_issued hfind hle (withTokens_eq_ok hok)⟩
  | refresh input time =>
    obtain ⟨session, hfind, hissues⟩ := Option.bind_eq_some_iff.mp hissues
    obtain ⟨user, huser, heq⟩ := Option.map_eq_some_iff.mp hissues
    cases heq
    exact ⟨_, refresh_issued hfind huser (withTokens_eq_ok hok)⟩
  | _ => cases hissues

theorem Request.issues_mem_readings (h : req.issues cfg svc = some (issuedAt, changedAt)) :
    issuedAt ∈ req.readings := by
  cases req with simp only [Request.issues] at h
  | ssoLogin input =>
    split at h
    · cases h
      simp [Request.readings]
    · cases h
  | login input =>
    obtain ⟨account, _, heq⟩ := Option.map_eq_some_iff.mp h
    obtain ⟨rfl, _⟩ := Prod.mk.inj heq
    simp [Request.readings]
  | refresh input time =>
    obtain ⟨session, _, h⟩ := Option.bind_eq_some_iff.mp h
    obtain ⟨user, _, heq⟩ := Option.map_eq_some_iff.mp h
    obtain ⟨rfl, _⟩ := Prod.mk.inj heq
    simp [Request.readings]
  | register input | complete input =>
    cases h
    simp [Request.readings]
  | _ => cases h

variable {env : Auth.Env} {others : Others}

/-- The middleware accepts a token that was just issued if and only if it has not expired
and its whole second does not lie before the time of the password. -/
theorem issued_token_accepted_iff {s : Clocked} {e : Timed}
    (hverifies : Verifies env cfg.tokens) (hpast : s.Past)
    (howned : s.svc.Owned) (he : s.OnTime e) (horder : e.request.readings.Pairwise (· ≤ ·))
    (hissues : e.request.issues cfg s.svc = some (issuedAt, changedAt))
    (hok : (handle cfg s.svc e.request).1 = .ok (some pair)) (now : Nat) :
    (s.step cfg e).svc.Accepts cfg env others now pair.accessToken ↔
      now < numericDate (issuedAt + cfg.tokens.accessTTL) ∧
        ∀ time ∈ changedAt, time ≤ numericDate issuedAt := by
  obtain ⟨id, hissued⟩ := handle_issued howned horder hissues hok
  obtain ⟨holder, htoken⟩ := hissued.token
  obtain ⟨user, huser, hchanged⟩ := hissued.user
  rw [htoken, accepts_generateAccessToken hverifies]
  have hmark : (s.step cfg e).svc.revokedAt cfg.tokens.accessTTL now id ≤ Auth.unix issuedAt := by
    refine revokedAt_le fun time htime => unix_mono ?_
    cases hissued.marks with
    | inl hsame =>
      have hclock := (he.2 issuedAt (Request.issues_mem_readings hissues)).1
      exact (hpast.marks id time (hsame.symm.trans htime)).trans hclock
    | inr hnew =>
      obtain ⟨time', hle, heq⟩ := hnew
      cases heq.symm.trans htime
      exact hle
  refine and_congr_right fun _ => ?_
  constructor
  · rintro ⟨user', huser', hsame, _⟩
    cases huser.symm.trans huser'
    rw [← hchanged]
    exact hsame
  · intro hsame
    exact ⟨user, huser, by rwa [hchanged], hmark⟩

end

/-! ## A registration -/

/-- Bob registers with a password that is set at one time, and gets a token at another. -/
def bobRegisters (changedAt issuedAt : Nat) : Timed where
  time := issuedAt
  request := .register
    { email := "bob@example.com"
      displayName := "Bob"
      password := "correct horse"
      invite := none
      now := changedAt
      userID := 2
      changedAt := changedAt
      issue := ⟨issuedAt, issuedAt, 9, "h9", 9⟩ }

def bobsAnswer (changedAt issuedAt : Nat) : Except String (Option TokenPair) :=
  (handle sampleConfig sampleService (bobRegisters changedAt issuedAt).request).1

/-- The service after Bob's request. -/
def afterBob (changedAt issuedAt : Nat) : Service :=
  (Clocked.step sampleConfig ⟨sampleService, 0⟩ (bobRegisters changedAt issuedAt)).svc

/-- The password is set on a whole second. -/
theorem whole_second_token_accepted :
    ∃ pair, bobsAnswer (milliseconds 2000) (milliseconds 2300) = .ok (some pair) ∧
      (afterBob (milliseconds 2000) (milliseconds 2300)).Accepts sampleConfig sampleLibrary
        sampleOthers (milliseconds 2400) pair.accessToken := by
  have hsome :
      (bobsAnswer (milliseconds 2000) (milliseconds 2300)).toOption.join.isSome = true := by
    decide +kernel
  obtain ⟨pair, hpair⟩ := exists_pair hsome
  refine ⟨pair, hpair, ?_⟩
  exact (issued_token_accepted_iff sampleLibrary_verifies (sampleService_past 0) (by decide)
    (by decide) (by decide) rfl hpair (milliseconds 2400)).mpr ⟨by decide, by decide⟩

/-- The password is set at 1.5 s and the token issued at 1.7 s. -/
theorem registered_token_refused :
    ∃ pair, bobsAnswer (milliseconds 1500) (milliseconds 1700) = .ok (some pair) ∧
      ¬ (afterBob (milliseconds 1500) (milliseconds 1700)).Accepts sampleConfig sampleLibrary
        sampleOthers (milliseconds 1800) pair.accessToken := by
  have hsome :
      (bobsAnswer (milliseconds 1500) (milliseconds 1700)).toOption.join.isSome = true := by
    decide +kernel
  obtain ⟨pair, hpair⟩ := exists_pair hsome
  refine ⟨pair, hpair, ?_⟩
  have howned : sampleService.Owned := by decide
  obtain ⟨id, hissued⟩ := handle_issued howned (by decide) rfl hpair
  obtain ⟨holder, htoken⟩ := hissued.token
  obtain ⟨user, huser, hchanged⟩ := hissued.user
  rw [htoken, accepts_generateAccessToken sampleLibrary_verifies]
  rintro ⟨_, user', huser', hsame, _⟩
  cases huser.symm.trans huser'
  have hle := hsame _ hchanged
  revert hle
  decide

end BurnerByte.Account
