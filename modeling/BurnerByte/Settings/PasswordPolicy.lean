import BurnerByte.Settings.Restart

/-!
# Password policies

A policy asks for a length and for kinds of characters. No password of more than 72 bytes is
accepted, since the hash would not see the rest of it. A policy may ask for up to 128 characters.
-/

namespace BurnerByte.Settings

/-- The classes of Go's package `unicode`. Outside ASCII they are those of some Unicode table. -/
structure CharClasses where
  isUpper : Char → Bool
  isLower : Char → Bool
  isDigit : Char → Bool
  isPunct : Char → Bool
  isSymbol : Char → Bool
  upper_ascii : ∀ c : Char, c.toNat < 128 → isUpper c = c.isUpper
  lower_ascii : ∀ c : Char, c.toNat < 128 → isLower c = c.isLower
  digit_ascii : ∀ c : Char, c.toNat < 128 → isDigit c = c.isDigit
  special_ascii : ∀ c : Char, c.toNat < 128 →
    (isPunct c || isSymbol c) = (32 < c.toNat && c.toNat < 127 && !c.isAlphanum)

/-- The kinds of characters that have been seen. -/
structure Seen where
  upper : Bool
  lower : Bool
  number : Bool
  special : Bool

/-- One turn of the loop over the password. -/
def Seen.next (classes : CharClasses) (seen : Seen) (c : Char) : Seen :=
  if classes.isUpper c then { seen with upper := true }
  else if classes.isLower c then { seen with lower := true }
  else if classes.isDigit c then { seen with number := true }
  else if classes.isPunct c || classes.isSymbol c then { seen with special := true }
  else seen

def Seen.of (classes : CharClasses) (password : String) : Seen :=
  password.toList.foldl (Seen.next classes) ⟨false, false, false, false⟩

def validatePassword (classes : CharClasses) (password : String) (cfg : PasswordConfig) :
    Except String Unit :=
  if (password.utf8ByteSize : Int) < cfg.minLength then
    .error ("password must be at least " ++ toString cfg.minLength ++ " characters")
  else if 72 < password.utf8ByteSize then .error "password must not exceed 72 bytes"
  else
    let seen := Seen.of classes password
    if cfg.requireUppercase && !seen.upper then
      .error "password must contain at least 1 uppercase letter"
    else if cfg.requireLowercase && !seen.lower then
      .error "password must contain at least 1 lowercase letter"
    else if cfg.requireNumber && !seen.number then
      .error "password must contain at least 1 number"
    else if cfg.requireSpecial && !seen.special then
      .error "password must contain at least 1 special character"
    else .ok ()

variable {classes : CharClasses} {policy : PasswordConfig}

theorem minLength_le_of_validatePassword {password : String}
    (h : validatePassword classes password policy = .ok ()) : policy.minLength ≤ 72 := by
  obtain ⟨hmin, h⟩ := Outcome.guard_eq_ok.mp h
  obtain ⟨hmax, _⟩ := Outcome.guard_eq_ok.mp h
  omega

/-- A password as long as possible with characters of every kind. -/
def strongPassword : String := String.ofList (['A', 'a', '1', '!'] ++ List.replicate 68 'a')

theorem seen_strongPassword : Seen.of classes strongPassword = ⟨true, true, true, true⟩ := by
  have hA : Seen.next classes ⟨false, false, false, false⟩ 'A' = ⟨true, false, false, false⟩ := by
    simp only [Seen.next, classes.upper_ascii 'A' (by decide)]
    rfl
  have ha : ∀ upper lower number special, Seen.next classes ⟨upper, lower, number, special⟩ 'a' =
      ⟨upper, true, number, special⟩ := by
    intro upper lower number special
    simp only [Seen.next, classes.upper_ascii 'a' (by decide), classes.lower_ascii 'a' (by decide)]
    rfl
  have h1 : Seen.next classes ⟨true, true, false, false⟩ '1' = ⟨true, true, true, false⟩ := by
    simp only [Seen.next, classes.upper_ascii '1' (by decide), classes.lower_ascii '1' (by decide),
      classes.digit_ascii '1' (by decide)]
    rfl
  have hspecial : (classes.isPunct '!' || classes.isSymbol '!') = true :=
    (classes.special_ascii '!' (by decide)).trans (by decide)
  have hbang : Seen.next classes ⟨true, true, true, false⟩ '!' = ⟨true, true, true, true⟩ := by
    simp only [Seen.next, classes.upper_ascii '!' (by decide), classes.lower_ascii '!' (by decide),
      classes.digit_ascii '!' (by decide), hspecial]
    rfl
  have hrest : ∀ n, (List.replicate n 'a').foldl (Seen.next classes) ⟨true, true, true, true⟩ =
      ⟨true, true, true, true⟩ := by
    intro n
    induction n with
    | zero => rfl
    | succ n ih => rw [List.replicate_succ, List.foldl_cons, ha, ih]
  unfold Seen.of strongPassword
  rw [String.toList_ofList, List.foldl_append]
  simp only [List.foldl_cons, List.foldl_nil, hA, ha, h1, hbang, hrest]

theorem validatePassword_strongPassword (h : policy.minLength ≤ 72) :
    validatePassword classes strongPassword policy = .ok () := by
  have hsize : strongPassword.utf8ByteSize = 72 := by decide +kernel
  have hmin : ¬ ((72 : Nat) : Int) < policy.minLength := by omega
  simp only [validatePassword, hsize, seen_strongPassword, if_neg hmin, Nat.lt_irrefl, if_false,
    Bool.not_true, Bool.and_false, Bool.false_eq_true]

/-- Some password meets the policy that a request has put in force exactly if the request asks for
72 characters at most. -/
theorem exists_password_iff (classes : CharClasses) {saved : Bool} {running running' : Config}
    {input : PlatformSettings} {stored : Stored}
    (h : updatePlatformSettings saved running (some input) = .ok (stored, running')) :
    (∃ password, validatePassword classes password running'.password = .ok ()) ↔
      input.passwordMinLength ≤ 72 := by
  obtain ⟨_, defaultTTL, maxTTL, hbody, _, _, _, _, rfl⟩ := updatePlatformSettings_eq_ok h
  cases hbody
  have hraise : (running.apply input.clamped defaultTTL maxTTL).password.minLength ≤ 72 ↔
      input.passwordMinLength ≤ 72 := raise_le_iff (by decide)
  rw [← hraise]
  constructor
  · rintro ⟨password, hvalid⟩
    exact minLength_le_of_validatePassword hvalid
  · intro hlength
    exact ⟨strongPassword, validatePassword_strongPassword hlength⟩

/-- Only ASCII characters are of any kind. -/
def CharClasses.ascii : CharClasses where
  isUpper := Char.isUpper
  isLower := Char.isLower
  isDigit := Char.isDigit
  isPunct c := 32 < c.toNat && c.toNat < 127 && !c.isAlphanum
  isSymbol _ := false
  upper_ascii _ _ := rfl
  lower_ascii _ _ := rfl
  digit_ascii _ _ := rfl
  special_ascii _ _ := Bool.or_false _

theorem long_policy_met :
    ∃ stored running', updatePlatformSettings true fileConfig
        (some { unchangedSettings with passwordMinLength := 72 }) = .ok (stored, running') ∧
      ∃ password, validatePassword .ascii password running'.password = .ok () := by
  have hupdate : updatePlatformSettings true fileConfig
      (some { unchangedSettings with passwordMinLength := 72 }) =
      .ok (some { unchangedSettings with passwordMinLength := 72 },
        { fileConfig with password := { fileConfig.password with minLength := 72 } }) := by
    decide +kernel
  exact ⟨_, _, hupdate, (exists_password_iff .ascii hupdate).mpr (by decide)⟩

/-- A policy that asks for 73 characters is saved, and nobody can choose a password any more. -/
theorem impossible_policy_saved :
    ∃ stored running', updatePlatformSettings true fileConfig
        (some { unchangedSettings with passwordMinLength := 73 }) = .ok (stored, running') ∧
      ∀ password, validatePassword .ascii password running'.password ≠ .ok () := by
  refine ⟨some { unchangedSettings with passwordMinLength := 73 },
    { fileConfig with password := { fileConfig.password with minLength := 73 } },
    by decide +kernel, fun password hvalid => ?_⟩
  exact absurd (minLength_le_of_validatePassword hvalid) (by decide)

end BurnerByte.Settings
