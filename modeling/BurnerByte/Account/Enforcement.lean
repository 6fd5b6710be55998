import BurnerByte.Account.SignIn

/-!
# Enforcing SSO

A user whose org enforces SSO and who has linked an SSO identity may not sign in with a
password. `Login` asks the database three things to find out: whether such an org exists,
whether an identity is linked, and the latter once more for system administrators. Each
answer may be an error. The last lookup refuses the login when it fails. The second one
lets it pass.
-/

namespace BurnerByte.Account

open Outcome

/-- What the database answers. The first query may also report that there is no row. -/
structure Lookups where
  enforced : Except String (Option Bool)
  identities : Except String Nat
  adminIdentities : Except String Nat

namespace Lookups

/-- What `Login` makes of the answers: without a row its variable is still false. -/
def checks (lookups : Lookups) (password : String) (locked : Option String)
    (session : Except String Unit) : LoginInput where
  password := password
  locked := locked
  enforced := lookups.enforced.map fun row => row.getD false
  identities := lookups.identities.toOption
  adminIdentities := lookups.adminIdentities.toOption
  session := session

/-- The answers that come are those for a user whose org enforces SSO and who has linked an
identity. -/
structure Linked (lookups : Lookups) : Prop where
  enforced : ∀ row, lookups.enforced = .ok (some row) → row = true
  identities : ∀ n, lookups.identities = .ok n → 0 < n
  adminIdentities : ∀ n, lookups.adminIdentities = .ok n → 0 < n

/-- The query for the org fails, or both it and the lookup of the identities succeed. -/
def Determined (lookups : Lookups) : Prop :=
  (∃ err, lookups.enforced = .error err) ∨
    (∃ row, lookups.enforced = .ok (some row)) ∧ ∃ n, lookups.identities = .ok n

end Lookups

section

variable {env : Env} {user : User} {lookups : Lookups} {password : String}
  {locked : Option String} {session : Except String Unit}

/-- The checks of `Login` other than those for SSO, and the session. -/
structure PasswordAccepted (env : Env) (user : User) (password : String) (locked : Option String)
    (session : Except String Unit) : Prop where
  unlocked : locked = none
  method : checkAuthMethodLock user "password" = .ok ()
  password : ∃ hash ∈ user.passwordHash, env.checkPassword hash password = true
  verified : (env.requireEmailVerification && !user.emailVerified) = false
  session : session = .ok ()

/-- The rule for system administrators applies. -/
def AdminRule (env : Env) (user : User) : Prop :=
  env.enforceSSOForSystemAdmins = true ∧ user.isSystemAdmin = true

/-- What `Login` answers once the other checks have passed. -/
def ssoChecks (env : Env) (user : User) (lookups : Lookups) : Except String User := do
  let row ← lookups.enforced.mapError ("failed to check SSO enforcement: " ++ ·)
  if row.getD false && decide (0 < lookups.identities.toOption.getD 0) then
    .error "SSO login required for your organization"
  else if env.enforceSSOForSystemAdmins && user.isSystemAdmin &&
      lookups.adminIdentities.toOption.all (0 < ·) then
    .error "SSO login required for system administrators"
  else .ok user

theorem login_of_accepted (h : PasswordAccepted env user password locked session) :
    login env (lookups.checks password locked session) user = ssoChecks env user lookups := by
  obtain ⟨rfl, hmethod, ⟨hash, hhash, hpassword⟩, hverified, rfl⟩ := h
  simp only [login, Lookups.checks, hmethod, Option.mem_def.mp hhash, hpassword, hverified,
    ok_bind, Bool.not_true, Bool.false_eq_true, if_false]
  cases henforced : lookups.enforced with
  | _ =>
    simp only [ssoChecks, henforced]
    rfl

theorem accepted_of_login {row : User}
    (h : login env (lookups.checks password locked session) user = .ok row) :
    PasswordAccepted env user password locked session := by
  simp only [login, Lookups.checks] at h
  cases locked with
  | some retryAfter => cases h
  | none =>
    obtain ⟨_, hmethod, h⟩ := bind_eq_ok.mp h
    split at h
    · cases h
    rename_i hash hhash
    obtain ⟨hpassword, h⟩ := guard_eq_ok.mp h
    obtain ⟨hverified, h⟩ := guard_eq_ok.mp h
    obtain ⟨_, _, h⟩ := bind_eq_ok.mp h
    obtain ⟨_, h⟩ := guard_eq_ok.mp h
    obtain ⟨_, h⟩ := guard_eq_ok.mp h
    obtain ⟨_, hsession, _⟩ := bind_eq_ok.mp h
    exact ⟨rfl, hmethod, ⟨hash, hhash, by simpa using hpassword⟩,
      eq_false_of_ne_true hverified, hsession⟩

/-- The checks refuse a login when the lookups that are made first determine the case, or when the
rule for system administrators applies, which refuses it whatever its lookup answers. -/
theorem ssoChecks_refuse_iff (hlinked : lookups.Linked) :
    (∀ row, ssoChecks env user lookups ≠ .ok row) ↔ lookups.Determined ∨ AdminRule env user := by
  obtain ⟨enforced, identities, adminIdentities⟩ := lookups
  have hadmin : (adminIdentities.toOption.all (0 < ·)) = true := by
    cases adminIdentities with
    | error err => rfl
    | ok n => exact decide_eq_true (hlinked.adminIdentities n rfl)
  cases enforced with
  | error err => simp [ssoChecks, Lookups.Determined, Except.mapError]
  | ok found =>
    cases found with
    | none =>
      simp [ssoChecks, Lookups.Determined, AdminRule, hadmin, Except.mapError, guard_eq_ok]
    | some row =>
      obtain rfl := hlinked.enforced row rfl
      cases identities with
      | error err =>
        have hnone : (Except.error err : Except String Nat).toOption = none := rfl
        simp [ssoChecks, Lookups.Determined, AdminRule, hadmin, Except.mapError, hnone, guard_eq_ok]
      | ok n =>
        have hn := hlinked.identities n rfl
        simp [ssoChecks, Lookups.Determined, Except.mapError, Except.toOption, hn]

/-- For a user whose org enforces SSO and who has linked an identity, a password login is
refused if and only if the lookups determine that, or the rule for system administrators
applies, or the login is refused for another reason. -/
theorem password_login_refused_iff (hlinked : lookups.Linked) :
    (∀ row, login env (lookups.checks password locked session) user ≠ .ok row) ↔
      lookups.Determined ∨ AdminRule env user ∨
        ¬ PasswordAccepted env user password locked session := by
  by_cases haccepted : PasswordAccepted env user password locked session
  · rw [login_of_accepted haccepted]
    simp only [ssoChecks_refuse_iff hlinked, haccepted, not_true_eq_false, or_false]
  constructor
  · intro _
    exact .inr (.inr haccepted)
  · intro _ row hrow
    exact haccepted (accepted_of_login hrow)

end

/-! ## A failed lookup -/

def enforcingEnv : Env := { samplePolicy with enforceSSOForSystemAdmins := true }

/-- A user with the password `correct horse`, an administrator or not. -/
def enforcedUser (isSystemAdmin : Bool) : User :=
  { sampleUser with passwordHash := some "hash:correct horse", isSystemAdmin }

/-- The user's org enforces SSO, and an identity is linked, but the lookups of identities fail. -/
def failedLookups : Lookups := ⟨.ok (some true), .error "timeout", .error "timeout"⟩

theorem failedLookups_linked : failedLookups.Linked where
  enforced row h := by
    cases h
    rfl
  identities n h := nomatch h
  adminIdentities n h := nomatch h

/-- An administrator is refused although no lookup of identities succeeds. -/
theorem administrator_refused :
    ¬ ∃ row, login enforcingEnv (failedLookups.checks "correct horse" none (.ok ()))
      (enforcedUser true) = .ok row := by
  rintro ⟨row, hrow⟩
  exact (password_login_refused_iff failedLookups_linked).mpr (.inr (.inl ⟨rfl, rfl⟩)) row hrow

/-- The user is linked to an identity of a provider. -/
def enforcedService : Service where
  accounts := ⟨⟨[⟨1, enforcedUser false⟩], by decide⟩, by decide, by decide⟩
  sessions := .empty
  identities := [⟨"google", "g1", 1⟩]
  setupCompleted := true

/-- Another user gets tokens for the password when the lookup of the identities fails. -/
theorem linked_user_signs_in_with_password :
    failedLookups.Linked ∧
      (passwordLogin { sampleConfig with env := enforcingEnv } enforcedService {
        email := "user@example.com"
        checks := failedLookups.checks "correct horse" none (.ok ())
        pendingStored := true
        now := 1
        issue := ⟨1, 1, 11, "h11", 11⟩ }).1.toOption.isSome = true :=
  ⟨failedLookups_linked, by decide +kernel⟩

end BurnerByte.Account
