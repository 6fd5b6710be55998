import BurnerByte.Account.Effects

/-!
# The addresses of users

`Login` looks a user up by the trimmed address in lower case. `Register` stores the
address in that form, and the setup stores it as it was typed: an administrator who types
a capital letter cannot sign in.

The requests that store an address accept what the mail parser accepts, which includes a
display name in front of an address in angle brackets. The column keeps the whole text, so
that one mailbox may belong to several users.
-/

namespace BurnerByte.Account

open Go Sql

/-! ## Signing in to a new account -/

/-- The address, the password and the identifier of the user that a request signs up. -/
def Request.signsUp : Request → Option (String × String × UUID)
  | .register input => some (input.email, input.password, input.userID)
  | .complete input => some (input.email, input.password, input.userID)
  | _ => none

/-- The requests that change nobody's password. -/
def Request.KeepsPasswords : Request → Prop
  | .changePassword _ _ _ _ _ | .resetPassword _ _ _ _ | .migrateToSSO _
  | .migrateToPassword _ _ _ => False
  | _ => True

/-- A login with the address finds the user, and the password is right. -/
def Service.SignsIn (cfg : Config) (email password : String) (id : UUID) (svc : Service) : Prop :=
  ∃ account, svc.accounts.getByEmail (normalizeEmail cfg email) = some account ∧
    account.id = id ∧
    ∃ hash ∈ account.user.passwordHash, cfg.env.checkPassword hash password = true

/-- A user has an address and a password. -/
def Service.Has (id : UUID) (email hash : String) (svc : Service) : Prop :=
  ∃ user, svc.accounts.getByID id = some user ∧ user.email = email ∧
    user.passwordHash = some hash

variable {cfg : Config} {svc : Service} {id : UUID} {email hash password : String}

variable {req : Request} {svc' : Service} {pair : TokenPair}

theorem Request.KeepsPasswords.rewrites {old user : User} (hkeeps : req.KeepsPasswords)
    (h : req.Rewrites old user) : user.passwordHash = old.passwordHash := by
  cases req with
  | changePassword userID sessionID current new now | resetPassword token tokenUser new now
  | migrateToSSO userID | migrateToPassword userID new now =>
    cases hkeeps
  | _ => exact h.1

section

variable (h : svc.Has id email hash)

include h

theorem Service.Has.apply {e : Effect} (hkeeps : req.KeepsPasswords)
    (he : (req.limits cfg).Allows svc e) : (svc.apply e).Has id email hash := by
  obtain ⟨user, huser, hemail, hhash⟩ := h
  have hmoves := he.moves id
  unfold Service.Has
  rw [huser] at hmoves
  generalize (svc.apply e).accounts.getByID id = found at hmoves
  cases hmoves with
  | same => exact ⟨user, rfl, hemail, hhash⟩
  | rewritten old new hrewrite =>
    exact ⟨_, rfl, hemail, (hkeeps.rewrites hrewrite).trans hhash⟩

theorem Service.Has.run {later : List Request} (hkeeps : ∀ req ∈ later, req.KeepsPasswords) :
    (Trace.run (serve cfg) svc later).Has id email hash :=
  Trace.run_induct_of_mem (fun svc req hsvc hreq =>
    (handle_does cfg svc req).invariant hsvc fun _ _ h he => h.apply hreq he) h hkeeps

/-- A login with an address finds a user exactly if the column holds its normal form. -/
theorem Service.Has.signsIn_iff
    (hcheck : cfg.env.checkPassword hash password = true) (given : String) :
    svc.SignsIn cfg given password id ↔ email = normalizeEmail cfg given := by
  obtain ⟨user, huser, hemail, hhash⟩ := h
  have hmem := Accounts.getByID_eq_some.mp huser
  constructor
  · rintro ⟨account, hfind, rfl, _⟩
    obtain ⟨haccount, hnormal⟩ := Accounts.getByEmail_eq_some.mp hfind
    have hsame := Accounts.getByID_eq_some.mpr haccount
    rw [huser] at hsame
    rw [← hemail, Option.some.inj hsame, hnormal]
  · intro hnormal
    refine ⟨⟨id, user⟩, ?_, rfl, hash, hhash, hcheck⟩
    exact Accounts.getByEmail_eq_some.mpr ⟨hmem, hemail.trans hnormal⟩

end

theorem insertUser_has {svc₁ : Service} {user : User} (h : svc.insertUser id user = .ok svc₁)
    (hhash : user.passwordHash = some hash) : svc₁.Has id user.email hash := by
  obtain ⟨accounts, hcreate, rfl⟩ := insertUser_eq_ok h
  exact ⟨user.stored, Accounts.getByID_create_self hcreate, rfl, hhash⟩

theorem Service.Has.congr (h : svc.Has id email hash) (haccounts : svc'.accounts = svc.accounts) :
    svc'.Has id email hash := by
  unfold Service.Has
  rw [haccounts]
  exact h

theorem register_has {input : RegisterInput} (h : register cfg svc input = (.ok pair, svc')) :
    ∃ hash, cfg.env.hashPassword input.password = .ok hash ∧
      svc'.Has input.userID (normalizeEmail cfg input.email) hash := by
  obtain ⟨hash, svc₁, hhash, hinsert, hcreate⟩ := registerTx_eq_ok (inTx_eq_ok h)
  have haccounts := congrArg (fun result => result.2.accounts) hcreate
  simp only [createSession_keepsUsers.accounts] at haccounts
  have hpassword : (input.user cfg hash).passwordHash = some hash := rfl
  have hhas := insertUser_has hinsert hpassword
  exact ⟨hash, hhash, hhas.congr haccounts.symm⟩

theorem complete_has {input : SetupInput} (h : complete cfg svc input = (.ok pair, svc')) :
    ∃ hash, cfg.env.hashPassword input.password = .ok hash ∧
      svc'.Has input.userID input.email hash := by
  obtain ⟨hash, svc₁, hhash, hinsert, hissue⟩ := completeTx_eq_ok (inTx_eq_ok h)
  have haccounts := congrArg (fun result => result.2.accounts) hissue
  simp only [issueTokens_keepsUsers.accounts] at haccounts
  have hpassword : (input.user hash).passwordHash = some hash := rfl
  have hhas := insertUser_has hinsert hpassword
  exact ⟨hash, hhash, hhas.congr haccounts.symm⟩

/-- The user that a request signs up has the address that the request stores. -/
theorem signsUp_has (hsigns : req.signsUp = some (email, password, id))
    (hok : (handle cfg svc req).1 = .ok (some pair)) :
    ∃ stored hash, req.newEmail cfg = some stored ∧ cfg.env.hashPassword password = .ok hash ∧
      (serve cfg svc req).Has id stored hash := by
  cases req with simp only [Request.signsUp, handle] at hsigns hok
  | register input =>
    obtain ⟨hash, hhash, hhas⟩ := register_has (withTokens_eq_ok hok)
    obtain ⟨rfl, rfl, rfl⟩ := by simpa using hsigns
    exact ⟨_, hash, rfl, hhash, hhas⟩
  | complete input =>
    obtain ⟨hash, hhash, hhas⟩ := complete_has (withTokens_eq_ok hok)
    obtain ⟨rfl, rfl, rfl⟩ := by simpa using hsigns
    exact ⟨_, hash, rfl, hhash, hhas⟩
  | _ => cases hsigns

/-- A new account can be signed in to with the address it was created with, at any later
time at which no password has been changed, except that the setup must have been given the
address in its normal form. -/
theorem created_account_signs_in_iff {later : List Request}
    (hbcrypt : ∀ password hash, cfg.env.hashPassword password = .ok hash →
      cfg.env.checkPassword hash password = true)
    (hsigns : req.signsUp = some (email, password, id))
    (hok : (handle cfg svc req).1 = .ok (some pair)) (hkeeps : ∀ r ∈ later, r.KeepsPasswords) :
    (Trace.run (serve cfg) (serve cfg svc req) later).SignsIn cfg email password id ↔
      ∀ input, req = .complete input → normalizeEmail cfg input.email = input.email := by
  obtain ⟨stored, hash, hstored, hhash, hhas⟩ := signsUp_has hsigns hok
  rw [(hhas.run hkeeps).signsIn_iff (hbcrypt password hash hhash)]
  cases req with
  | register input =>
    obtain ⟨rfl, rfl, rfl⟩ := by simpa [Request.signsUp] using hsigns
    have hsame : stored = normalizeEmail cfg input.email := (Option.some.inj hstored).symm
    simp [hsame]
  | complete input =>
    obtain ⟨rfl, rfl, rfl⟩ := by simpa [Request.signsUp] using hsigns
    have hsame : stored = input.email := (Option.some.inj hstored).symm
    rw [hsame]
    constructor
    · intro h input' heq
      obtain rfl := Request.complete.inj heq
      exact h.symm
    · intro h
      exact (h input rfl).symm
  | _ => cases hsigns

/-- Nobody has signed up yet. -/
def emptyService : Service where
  accounts := .empty
  sessions := .empty
  setupCompleted := false

def sampleSetup (email : String) : SetupInput where
  email := email
  displayName := "Admin"
  password := "correct horse"
  orgName := "Example"
  smtpHost := "smtp.example.com"
  smtpPort := 587
  smtpFrom := "noreply@example.com"
  domainName := "example.com"
  stored := .ok ()
  userID := 1
  changedAt := 0
  issue := ⟨0, 0, 1, "h1", 1⟩

def sampleRegistration (email : String) (n : Nat) : RegisterInput where
  email := email
  displayName := "Bob"
  password := "correct horse"
  invite := none
  now := 0
  userID := n
  changedAt := 0
  issue := ⟨0, 0, n, "h" ++ toString n, n⟩

def sampleLogin (email : String) : PasswordInput where
  email := email
  checks := ⟨"correct horse", none, .ok false, some 0, some 0, .ok ()⟩
  pendingStored := true
  now := 0
  issue := ⟨0, 0, 9, "h9", 9⟩

/-- Bob registers in capital letters, and can sign in after the next login. -/
theorem registered_account_signs_in :
    (Trace.run (serve sampleConfig) emptyService
      [.register (sampleRegistration " BOB@example.com" 2),
        .login (sampleLogin "bob@example.com")]).SignsIn sampleConfig " BOB@example.com"
      "correct horse" 2 := by
  have hsome : (handle sampleConfig emptyService
      (.register (sampleRegistration " BOB@example.com" 2))).1.toOption.join.isSome = true := by
    decide +kernel
  obtain ⟨pair, hpair⟩ := exists_pair hsome
  rw [Trace.run_cons]
  have hbcrypt : ∀ password hash, sampleConfig.env.hashPassword password = .ok hash →
      sampleConfig.env.checkPassword hash password = true := by
    intro password hash h
    cases h
    exact decide_eq_true rfl
  refine (created_account_signs_in_iff hbcrypt rfl hpair ?_).mpr ?_
  · intro r hr
    obtain rfl := List.mem_singleton.mp hr
    trivial
  · intro input heq
    cases heq

/-- The service after a setup by an administrator who typed a capital letter. -/
def capitalSetup : Service :=
  serve sampleConfig emptyService (.complete (sampleSetup "Admin@example.com"))

/-- The administrator cannot sign in with the same address. -/
theorem setup_account_locked_out :
    (handle sampleConfig emptyService
        (.complete (sampleSetup "Admin@example.com"))).1.toOption.join.isSome = true ∧
      (handle sampleConfig capitalSetup (.login (sampleLogin "Admin@example.com"))).1 =
        .error "invalid email or password" ∧
      ¬ capitalSetup.SignsIn sampleConfig "Admin@example.com" "correct horse" 1 := by
  refine ⟨by decide +kernel, by decide +kernel, ?_⟩
  rintro ⟨account, hfind, _⟩
  have hnone : capitalSetup.accounts.getByEmail
      (normalizeEmail sampleConfig "Admin@example.com") = none := by decide +kernel
  rw [hnone] at hfind
  cases hfind

/-! ## One user for each mailbox -/

/-- The mailbox that a stored text denotes. -/
def mailbox (cfg : Config) (email : String) : Option String :=
  (Mail.parseAddress email).map (lowerText cfg.casing)

/-- Every row holds a bare address, and no two rows denote the same mailbox. -/
structure Service.MailboxesDistinct (cfg : Config) (svc : Service) : Prop where
  bare : ∀ account ∈ svc.accounts.table,
    Mail.parseAddress account.user.email = some account.user.email
  distinct : ∀ a ∈ svc.accounts.table, ∀ b ∈ svc.accounts.table, a ≠ b →
    mailbox cfg a.user.email ≠ mailbox cfg b.user.email

/-- The parser reads the address that a request stores as it is written, and an address that
is stored as it was typed is in lower case. -/
def Request.PlainAddress (cfg : Config) : Request → Prop
  | .register input =>
    Mail.parseAddress (normalizeEmail cfg input.email) = some (normalizeEmail cfg input.email)
  | .ssoLogin input =>
    Mail.parseAddress (lowerText cfg.casing input.email) = some (lowerText cfg.casing input.email)
  | .complete input =>
    Mail.parseAddress input.email = some input.email ∧
      lowerText cfg.casing input.email = input.email
  | _ => True

/-- Every row holds a bare address in lower case. -/
def Service.PlainAddresses (cfg : Config) (svc : Service) : Prop :=
  ∀ account ∈ svc.accounts.table, Mail.parseAddress account.user.email = some account.user.email ∧
    lowerText cfg.casing account.user.email = account.user.email

theorem Request.PlainAddress.newEmail (h : req.PlainAddress cfg)
    (hemail : req.newEmail cfg = some email) :
    Mail.parseAddress email = some email ∧ lowerText cfg.casing email = email := by
  cases req with
  | register input | ssoLogin input =>
    obtain rfl := Option.some.inj hemail
    exact ⟨h, lowerText_lowerText _ _⟩
  | complete input =>
    obtain rfl := Option.some.inj hemail
    exact h
  | _ => cases hemail

theorem Service.PlainAddresses.apply {e : Effect} (h : svc.PlainAddresses cfg)
    (hplain : req.PlainAddress cfg) (he : (req.limits cfg).Allows svc e) :
    (svc.apply e).PlainAddresses cfg := by
  rintro ⟨id, user⟩ haccount
  have hmoves := he.moves id
  rw [Accounts.getByID_eq_some.mpr haccount] at hmoves
  cases hfound : svc.accounts.getByID id with
  | none =>
    rw [hfound] at hmoves
    cases hmoves with
    | created new hnew => exact hplain.newEmail hnew.1
  | some old =>
    rw [hfound] at hmoves
    have hold := h ⟨id, old⟩ (Accounts.getByID_eq_some.mp hfound)
    cases hmoves with
    | _ => exact hold

/-- Plain addresses denote themselves, and the column is unique. -/
theorem Service.PlainAddresses.mailboxesDistinct (h : svc.PlainAddresses cfg) :
    svc.MailboxesDistinct cfg where
  bare account haccount := (h account haccount).1
  distinct a ha b hb hne hsame := by
    have hmailbox : ∀ account ∈ svc.accounts.table,
        mailbox cfg account.user.email = some account.user.email := by
      intro account haccount
      obtain ⟨hbare, hlower⟩ := h account haccount
      rw [mailbox, hbare, Option.map_some, hlower]
    rw [hmailbox a ha, hmailbox b hb] at hsame
    exact hne (List.inj_on_of_nodup_map svc.accounts.emails ha hb (Option.some.inj hsame))

/-- As long as plain addresses are given, no two users have the same mailbox. -/
theorem mailboxes_stay_distinct {reqs : List Request} (hempty : svc.accounts = .empty)
    (hplain : ∀ req ∈ reqs, req.PlainAddress cfg) :
    (Trace.run (serve cfg) svc reqs).MailboxesDistinct cfg := by
  have hstart : svc.PlainAddresses cfg := by
    intro account haccount
    rw [hempty] at haccount
    exact absurd haccount (Table.not_mem_empty account)
  have hrun : (Trace.run (serve cfg) svc reqs).PlainAddresses cfg :=
    Trace.run_induct_of_mem (fun svc req hsvc hreq =>
      (handle_does cfg svc req).invariant hsvc fun _ _ h he => h.apply hreq he) hstart hplain
  exact hrun.mailboxesDistinct

/-- The administrator and Bob have signed up. -/
theorem two_users_distinct :
    (Trace.run (serve sampleConfig) emptyService
      [.complete (sampleSetup "admin@example.com"),
        .register (sampleRegistration "Bob@Example.com" 2)]).MailboxesDistinct sampleConfig := by
  refine mailboxes_stay_distinct rfl ?_
  intro req hreq
  cases List.mem_pair.mp hreq with
  | inl hsetup =>
    rw [hsetup]
    exact ⟨by decide +kernel, by decide +kernel⟩
  | inr hregister =>
    rw [hregister]
    show Mail.parseAddress _ = _
    decide +kernel

/-- Bob registers a second time, with a name in front of the address. -/
def bobTwice : List Request :=
  [.complete (sampleSetup "admin@example.com"),
    .register (sampleRegistration "bob@example.com" 2),
    .register (sampleRegistration "bob <bob@example.com>" 3)]

theorem mailbox_of_two_users :
    ((Trace.run (serve sampleConfig) emptyService bobTwice).accounts.table.rows.map fun account =>
        (account.user.email, mailbox sampleConfig account.user.email)) =
        [("bob <bob@example.com>", some "bob@example.com"),
          ("bob@example.com", some "bob@example.com"),
          ("admin@example.com", some "admin@example.com")] ∧
      ¬ (Trace.run (serve sampleConfig) emptyService bobTwice).MailboxesDistinct sampleConfig := by
  refine ⟨by decide +kernel, fun hdistinct => ?_⟩
  have hnamed : ¬ ∀ account ∈ (Trace.run (serve sampleConfig) emptyService bobTwice).accounts.table,
      Mail.parseAddress account.user.email = some account.user.email := by decide +kernel
  exact hnamed hdistinct.bare

end BurnerByte.Account
