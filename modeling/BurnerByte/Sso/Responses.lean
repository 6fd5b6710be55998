import BurnerByte.Go.Strings

/-!
# What a provider says about a user

An SSO callback ends in an answer of the provider: the claims of an ID token, or for
GitHub the profile of the user and, if that shows no e-mail address, the list of their
addresses. Both are reduced to an `SSOCallbackResult`. The exchange of the code for a
token comes before and is left out: where it fails there is no answer.
-/

namespace BurnerByte.Sso

open Go Outcome

/-! ## Claims -/

/-- A JSON value. Numbers are kept as they are written. -/
inductive Claim where
  | null
  | bool (b : Bool)
  | number (text : String)
  | string (s : String)
  | array (items : List Claim)
  | object (fields : List (String × Claim))

abbrev Claims := List (String × Claim)

/-- The string that a type assertion finds, or the empty string. -/
def Claims.text (claims : Claims) (key : String) : String :=
  match claims.lookup key with
  | some (.string s) => s
  | _ => ""

/-- Some providers encode a Boolean claim as a string. -/
def claimBool : Option Claim → Bool
  | some (.bool b) => b
  | some (.string s) => s = "true"
  | _ => false

def standardClaims : List String :=
  ["email", "email_verified", "name", "given_name", "family_name", "picture", "locale", "sub"]

/-- The standard claims and those that the provider is configured to keep. -/
def extractClaims (allClaims : Claims) (customClaims : List String) : Claims :=
  (standardClaims ++ customClaims).filterMap fun key =>
    (allClaims.lookup key).map fun value => (key, value)

/-! ## Callbacks -/

structure SSOCallbackResult where
  email : String
  emailVerified : Bool
  displayName : String
  provider : String
  subject : String
  claims : Claims

structure GitHubUser where
  id : Int
  login : String
  name : String
  email : String

structure GitHubEmail where
  email : String
  primary : Bool
  verified : Bool

/-- The primary address if it is verified, or else any verified one, or else none. -/
def primaryEmail (emails : List GitHubEmail) : String :=
  match emails.find? fun e => e.primary && e.verified with
  | some e => e.email
  | none =>
    match emails.find? fun e => e.verified with
    | some e => e.email
    | none => ""

/-- The answers of a provider. The second one of GitHub is asked for only when the profile has
no address. -/
inductive Response where
  | oidc (allClaims : Claims)
  | github (user : GitHubUser) (emails : Except String (List GitHubEmail))

def handleOIDCCallback (provider : String) (customClaims : List String) (allClaims : Claims) :
    Except String SSOCallbackResult :=
  let claims := extractClaims allClaims customClaims
  let name := claims.text "name"
  let given := claims.text "given_name"
  let family := claims.text "family_name"
  if claims.text "email" = "" then .error "email claim missing from id_token"
  else
    .ok {
      email := claims.text "email"
      emailVerified := claimBool (claims.lookup "email_verified")
      displayName :=
        if name = "" && (given ≠ "" || family ≠ "") then trimText (given ++ " " ++ family) else name
      provider := provider
      subject := claims.text "sub"
      claims := claims }

/-- The address of the profile, or else one of the list. -/
def gitHubEmail (user : GitHubUser) (emails : Except String (List GitHubEmail)) :
    Except String String :=
  if user.email = "" then (emails.map primaryEmail).mapError ("GitHub email fetch failed: " ++ ·)
  else .ok user.email

def handleGitHubCallback (provider : String) (user : GitHubUser)
    (emails : Except String (List GitHubEmail)) : Except String SSOCallbackResult := do
  let email ← gitHubEmail user emails
  if email = "" then .error "no verified email found on GitHub account"
  else
    .ok {
      email := email
      emailVerified := true
      displayName := if user.name = "" then user.login else user.name
      provider := provider
      subject := toString user.id
      claims := [("login", .string user.login)] }

def handleCallback (provider : String) (customClaims : List String) :
    Response → Except String SSOCallbackResult
  | .oidc allClaims => handleOIDCCallback provider customClaims allClaims
  | .github user emails => handleGitHubCallback provider user emails

/-! ## Verified addresses -/

namespace Response

/-- The answers say that the address is verified. -/
def Marks : Response → String → Prop
  | .oidc allClaims, email =>
    allClaims.lookup "email" = some (.string email) ∧
      claimBool (allClaims.lookup "email_verified") = true
  | .github user emails, email =>
    user.email = "" ∧ ∃ list, emails = .ok list ∧ ∃ e ∈ list, e.email = email ∧ e.verified = true

/-- The address is the one of a GitHub profile, about which the answer says nothing more. -/
def FromProfile : Response → Prop
  | .oidc _ => False
  | .github user _ => user.email ≠ ""

end Response

theorem mem_of_primaryEmail {emails : List GitHubEmail} (h : primaryEmail emails ≠ "") :
    ∃ e ∈ emails, e.email = primaryEmail emails ∧ e.verified = true := by
  unfold primaryEmail at h ⊢
  split
  · rename_i e hfind
    have hprimary := List.find?_some hfind
    rw [Bool.and_eq_true] at hprimary
    exact ⟨e, List.mem_of_find?_eq_some hfind, rfl, hprimary.2⟩
  rename_i hnone
  rw [hnone] at h
  split
  · rename_i e hfind
    exact ⟨e, List.mem_of_find?_eq_some hfind, rfl, List.find?_some hfind⟩
  rename_i hnone'
  rw [hnone'] at h
  exact absurd rfl h

/-- What is kept of a map under a list of keys. -/
theorem lookup_filterMap (keys : List String) (allClaims : Claims) (key : String) :
    (keys.filterMap fun k => (allClaims.lookup k).map fun value => (k, value)).lookup key =
      if key ∈ keys then allClaims.lookup key else none := by
  induction keys with
  | nil => rfl
  | cons k keys ih =>
    by_cases hk : key = k
    · subst hk
      cases hfind : allClaims.lookup key with
      | none => simp [hfind, ih]
      | some value => simp [hfind]
    cases hfind : allClaims.lookup k with
    | none => simp [hfind, ih, hk]
    | some value => simp [hfind, ih, hk, List.lookup_cons, beq_false_of_ne hk]

theorem lookup_of_text {claims : Claims} {key : String} (h : claims.text key ≠ "") :
    claims.lookup key = some (.string (claims.text key)) := by
  unfold Claims.text at h ⊢
  split
  · rename_i s hlookup
    exact hlookup
  rename_i hother
  split at h
  · rename_i s hlookup
    exact absurd hlookup (hother s)
  · exact absurd rfl h

/-- The result says that its address is verified only if the answers do, unless the address is
the one of a GitHub profile. -/
theorem marks_of_emailVerified_iff {provider : String} {customClaims : List String}
    {response : Response} {result : SSOCallbackResult}
    (h : handleCallback provider customClaims response = .ok result) :
    (result.emailVerified = true → response.Marks result.email) ↔ ¬ response.FromProfile := by
  cases response with
  | oidc allClaims =>
    obtain ⟨hemail, h⟩ := guard_eq_ok.mp h
    obtain rfl := (Except.ok.inj h).symm
    refine ⟨fun _ hprofile => hprofile, fun _ hverified => ?_⟩
    have hlookup := lookup_of_text hemail
    -- standard claims are kept as they are
    rw [extractClaims, lookup_filterMap, if_pos (List.mem_append_left _ (by decide))]
      at hlookup hverified
    exact ⟨hlookup, hverified⟩
  | github user emails =>
    obtain ⟨email, hfetch, h⟩ := bind_eq_ok.mp h
    obtain ⟨hemail, h⟩ := guard_eq_ok.mp h
    obtain rfl := (Except.ok.inj h).symm
    refine ⟨fun hmarks hprofile => hprofile (hmarks rfl).1, fun hprofile _ => ?_⟩
    have hempty : user.email = "" := not_not.mp hprofile
    rw [gitHubEmail, if_pos hempty] at hfetch
    obtain ⟨list, hlist, rfl⟩ := map_eq_ok (mapError_eq_ok.mp hfetch)
    exact ⟨hempty, list, hlist, mem_of_primaryEmail hemail⟩

end BurnerByte.Sso
