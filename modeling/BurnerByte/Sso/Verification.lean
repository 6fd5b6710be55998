import BurnerByte.Sso.Writes

/-!
# Which addresses count as verified

The server takes an address as verified if the result of the callback says so, or if the
row of the user does. The two have different grounds. The result goes by the answers of the
provider, except that the address of a GitHub profile is reported as verified although the
answers say nothing about it. The row goes by the login itself: signing in through a provider
verifies the account of a linked identity and a new account, whatever the answers say, and
only accounts that are found by their address wait for the result to report that address.
-/

namespace BurnerByte.Sso

open Go Account

section

variable (cfg : Config) (faults : Faults) (p : Platform) (response : Response)
  (result : SSOCallbackResult) (draws : Draws)

/-- The answers mark the address, up to the lower case in which it is stored. -/
def Response.MarksStored (email : String) : Prop :=
  ∃ a, response.Marks a ∧ (email = a ∨ email = lowerText cfg.casing a)

/-- The account was verified before the login, or the answers mark its address. -/
def Justified (id : UUID) (email : String) : Prop :=
  (∃ old, p.svc.accounts.getByID id = some old ∧ old.emailVerified = true) ∨
    response.MarksStored cfg email

/-- Addresses count as verified only if the answers mark them: the one of the result, the one
of the account that the login holds in memory, and those of the rows after the login. -/
structure OnlyMarked : Prop where
  reported : result.emailVerified = true → response.Marks result.email
  account : ∀ domain chosen p', checkDomain cfg faults p.dir result = .ok domain →
    selectAccount cfg faults p result domain draws = (.ok chosen, p') →
    Justified cfg p response chosen.id chosen.user.email
  rows : ∀ id row, (ssoLogin cfg faults p result draws).2.svc.accounts.getByID id = some row →
    row.emailVerified = true → Justified cfg p response id row.email

/-- What makes a login take an account as verified. -/
inductive Ground (id : UUID) (email : String) : Prop
  | linked {identity : Identity}
      (hfind : p.svc.findIdentity result.provider result.subject = some identity)
      (huser : identity.userID = id)
  | created (hfresh : p.svc.accounts.getByID id = none)
      (hemail : email = lowerText cfg.casing result.email)
  | reported {user : User} (huser : p.svc.accounts.getByID id = some user)
      (hverified : result.emailVerified = true)
      (hemail : email = lowerText cfg.casing result.email)

/-- The account that a login selects is verified, and that on one of the grounds. The row of no
other account becomes verified, and what the callback reports is marked by the answers, unless it
is the address of a GitHub profile. -/
structure SignInVerifies : Prop where
  reported : ¬ response.FromProfile → result.emailVerified = true → response.Marks result.email
  account : ∀ domain chosen p', checkDomain cfg faults p.dir result = .ok domain →
    selectAccount cfg faults p result domain draws = (.ok chosen, p') →
    chosen.user.emailVerified = true ∧ Ground cfg p result chosen.id chosen.user.email
  rows : ∀ id row, (ssoLogin cfg faults p result draws).2.svc.accounts.getByID id = some row →
    row.emailVerified = true →
    (∃ old, p.svc.accounts.getByID id = some old ∧ old.emailVerified = true) ∨
      ∃ domain chosen p', checkDomain cfg faults p.dir result = .ok domain ∧
        selectAccount cfg faults p result domain draws = (.ok chosen, p') ∧ id = chosen.id ∧
        row.email = chosen.user.email

end

section

variable {cfg : Config} {faults : Faults} {p p' : Platform} {response : Response}
  {result : SSOCallbackResult} {domain provider : String} {customClaims : List String}
  {draws : Draws} {chosen : Chosen}

theorem Selects.ground (h : Selects cfg faults p result draws chosen p') :
    chosen.user.emailVerified = true ∧ Ground cfg p result chosen.id chosen.user.email := by
  cases h with
  | linked hfind huser hlock hwrites => exact ⟨rfl, .linked hfind rfl⟩
  | matched hmail hverified hlock hwrite =>
    obtain ⟨hmem, hemail⟩ := Accounts.getByEmail_eq_some.mp hmail
    exact ⟨rfl, .reported (Accounts.getByID_eq_some.mpr hmem) hverified hemail⟩
  | created hfound hcreate => exact ⟨rfl, .created (createUser_fresh hcreate) rfl⟩

/-- Signing in through a provider verifies the account: the account of a linked identity, a new
one, or one with the address that the callback reports as verified. -/
theorem sign_in_verifies (h : handleCallback provider customClaims response = .ok result) :
    SignInVerifies cfg faults p response result draws := by
  refine ⟨(marks_of_emailVerified_iff h).mpr, ?_, ?_⟩
  · intro domain chosen p' _ hselect
    exact (selectAccount_eq_ok hselect).ground
  · intro id row hrow hverified
    cases ssoLogin_row hrow with
    | inl hold => exact .inl ⟨row, hold, hverified⟩
    | inr hmine =>
      obtain ⟨domain, chosen, p', hdomain, hselect, hid, hsame⟩ := hmine
      exact .inr ⟨domain, chosen, p', hdomain, hselect, hid, hsame.email⟩

end

/-! ## An address that the provider denies -/

/-- An ID token of Ann's, with what it says about the address. -/
def annResponse (emailVerified : Bool) : Response :=
  .oidc [("sub", .string "g2"), ("email", .string "ann@corp.example"),
    ("email_verified", .bool emailVerified), ("name", .string "Ann")]

def annResult (emailVerified : Bool) : SSOCallbackResult where
  email := "ann@corp.example"
  emailVerified := emailVerified
  displayName := "Ann"
  provider := "google"
  subject := "g2"
  claims := [("email", .string "ann@corp.example"), ("email_verified", .bool emailVerified),
    ("name", .string "Ann"), ("sub", .string "g2")]

theorem handleCallback_ann (emailVerified : Bool) :
    handleCallback "google" [] (annResponse emailVerified) = .ok (annResult emailVerified) := by
  cases emailVerified <;> rfl

/-- The user 1 has never verified their address, which is not Ann's, and is linked to Ann's
identity. -/
def unverifiedPlatform : Platform :=
  { linkedPlatform with
    svc := { linkedPlatform.svc with
      accounts :=
        ⟨⟨[⟨1, { sampleUser with emailVerified := false }⟩], by decide⟩, by decide, by decide⟩ } }

/-- What a login with an ID token that denies Ann's address leaves in a row. -/
def annRow (p : Platform) (id : UUID) : Option (String × Bool) :=
  ((ssoLogin sampleConfig noFaults p (annResult false) sampleDraws).2.svc.accounts.getByID id).map
    fun row => (row.email, row.emailVerified)

theorem linked_sign_in_verifies :
    annRow unverifiedPlatform 1 = some ("user@example.com", true) ∧
      SignInVerifies sampleConfig noFaults unverifiedPlatform (annResponse false)
        (annResult false) sampleDraws :=
  ⟨by decide +kernel, sign_in_verifies (handleCallback_ann false)⟩

/-- A row that Ann's token verifies was verified before, if only marked addresses count. -/
theorem OnlyMarked.verified_before {p : Platform} {id : UUID} {email : String}
    (h : OnlyMarked sampleConfig noFaults p (annResponse false) (annResult false) sampleDraws)
    (hrow : annRow p id = some (email, true)) :
    ∃ old, p.svc.accounts.getByID id = some old ∧ old.emailVerified = true := by
  obtain ⟨row, hrow, heq⟩ := Option.map_eq_some_iff.mp hrow
  cases h.rows id row hrow (congrArg Prod.snd heq) with
  | inl hold => exact hold
  | inr hmarked =>
    obtain ⟨a, ⟨_, hclaim⟩, _⟩ := hmarked
    cases hclaim

/-- Ann's token denies that her address is verified. A new account with the address counts as
verified nevertheless, and so does the account linked to her identity, which has another one. -/
theorem unmarked_address_verified :
    handleCallback "google" [] (annResponse false) = .ok (annResult false) ∧
      annRow (samplePlatform [1] false) 2 = some ("ann@corp.example", true) ∧
      annRow unverifiedPlatform 1 = some ("user@example.com", true) ∧
      ¬ OnlyMarked sampleConfig noFaults (samplePlatform [1] false) (annResponse false)
        (annResult false) sampleDraws ∧
      ¬ OnlyMarked sampleConfig noFaults unverifiedPlatform (annResponse false)
        (annResult false) sampleDraws := by
  have hnew : annRow (samplePlatform [1] false) 2 = some ("ann@corp.example", true) := by
    decide +kernel
  have hlinked : annRow unverifiedPlatform 1 = some ("user@example.com", true) := by
    decide +kernel
  refine ⟨handleCallback_ann false, hnew, hlinked, fun h => ?_, fun h => ?_⟩
  · obtain ⟨old, hold, _⟩ := h.verified_before hnew
    cases hold
  · obtain ⟨old, hold, hverified⟩ := h.verified_before hlinked
    cases hold
    cases hverified

end BurnerByte.Sso
