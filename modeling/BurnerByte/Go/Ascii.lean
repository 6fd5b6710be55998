import BurnerByte.Go.Strings

/-!
# ASCII text

Each byte of ASCII text is a rune of its own. Text without capitals and white space is
its own lower-case and trimmed form, and text in lower case has no ASCII capitals.
-/

namespace Go

theorem toNat_ofNat_of_lt {n : Nat} (h : n < 128) : (Char.ofNat n).toNat = n := by
  have hvalid : n.isValidChar := .inl (by omega)
  rw [Char.ofNat, dif_pos hvalid]
  rfl

theorem utf8EncodeChar_of_lt {c : Char} (h : c.toNat < 128) :
    String.utf8EncodeChar c = [UInt8.ofNat c.toNat] := by
  have hshort : c.val.toNat ≤ 0x7f := Nat.le_of_lt_succ h
  exact if_pos hshort

/-- The bytes of a longer encoding lie outside ASCII. -/
theorem toNat_lt_of_mem_utf8EncodeChar {c : Char} {b : UInt8} (hb : b ∈ String.utf8EncodeChar c)
    (h : b.toNat < 128) : c.toNat < 128 ∧ b = UInt8.ofNat c.toNat := by
  by_cases hc : c.toNat < 128
  · rw [utf8EncodeChar_of_lt hc, List.mem_singleton] at hb
    exact ⟨hc, hb⟩
  exfalso
  unfold String.utf8EncodeChar at hb
  -- Every byte of the other three forms has its highest bit set.
  have hlong : ¬ c.val.toNat ≤ 127 := fun hle => hc (Nat.lt_succ_of_le hle)
  simp only [if_neg hlong] at hb
  split at hb
  · simp only [List.mem_cons, List.not_mem_nil, or_false] at hb
    rcases hb with rfl | rfl <;> simp only [UInt8.toNat_ofNat'] at h <;> omega
  split at hb
  · simp only [List.mem_cons, List.not_mem_nil, or_false] at hb
    rcases hb with rfl | rfl | rfl <;> simp only [UInt8.toNat_ofNat'] at h <;> omega
  · simp only [List.mem_cons, List.not_mem_nil, or_false] at hb
    rcases hb with rfl | rfl | rfl | rfl <;> simp only [UInt8.toNat_ofNat'] at h <;> omega

/-- The rune of an ASCII byte. -/
def asciiRune (b : UInt8) : Char := Char.ofNat b.toNat

theorem utf8EncodeChar_asciiRune {b : UInt8} (h : b.toNat < 128) :
    String.utf8EncodeChar (asciiRune b) = [b] := by
  have hrune : (asciiRune b).toNat = b.toNat := toNat_ofNat_of_lt h
  rw [utf8EncodeChar_of_lt (by omega), hrune, UInt8.ofNat_toNat]

theorem decodeRune_ascii {b : UInt8} (h : b.toNat < 128) (t : Bytes) :
    decodeRune (b :: t) = (asciiRune b, 1) := by
  have hencode := utf8EncodeChar_asciiRune h
  have hbytes : (b :: t).toByteArray =
      (String.utf8EncodeChar (asciiRune b)).toByteArray ++ t.toByteArray := by
    rw [hencode, ← List.toByteArray_append]
    rfl
  have hsize : (asciiRune b).utf8Size = 1 := by
    rw [← String.length_utf8EncodeChar, hencode]
    rfl
  unfold decodeRune
  rw [hbytes, ByteArray.utf8DecodeChar?_utf8EncodeChar_append]
  simp only [hsize]

theorem runes_ascii {s : Bytes} (h : ∀ b ∈ s, b.toNat < 128) :
    runes s = s.map fun b => (asciiRune b, [b]) := by
  unfold runes
  induction s with
  | nil => rfl
  | cons b s ih =>
    have hb := h b List.mem_cons_self
    simp only [runesFrom, decodeRune_ascii hb, List.map_cons]
    rw [Nat.sub_self, ih fun c hc => h c (List.mem_cons_of_mem b hc)]
    rfl

/-- Neither white space nor outside ASCII. -/
def isVisible (b : UInt8) : Bool := 33 ≤ b && b < 128

theorem isVisible_iff {b : UInt8} : isVisible b = true ↔ 33 ≤ b.toNat ∧ b.toNat < 128 := by
  simp [isVisible, UInt8.le_iff_toNat_le, UInt8.lt_iff_toNat_lt]

theorem isSpace_of_isVisible {b : UInt8} (h : isVisible b = true) :
    isSpace (asciiRune b) = false := by
  obtain ⟨hlow, hb⟩ := isVisible_iff.mp h
  have hrune : (asciiRune b).toNat = b.toNat := toNat_ofNat_of_lt hb
  simp only [isSpace, hrune]
  simp only [Bool.or_eq_false_iff, Bool.and_eq_false_iff, decide_eq_false_iff_not]
  omega

/-- Neither a capital nor white space nor outside ASCII. -/
def isPlain (b : UInt8) : Bool := 33 ≤ b && b < 128 && !(65 ≤ b && b ≤ 90)

theorem isPlain_iff {b : UInt8} : isPlain b = true ↔
    isVisible b = true ∧ ¬ (65 ≤ b.toNat ∧ b.toNat ≤ 90) := by
  simp only [isPlain, isVisible, Bool.and_eq_true, Bool.not_eq_true', ← Bool.not_eq_true,
    decide_eq_true_eq, UInt8.le_iff_toNat_le, UInt8.reduceToNat]

theorem toNat_lt_of_isPlain {b : UInt8} (h : isPlain b = true) : b.toNat < 128 :=
  (isVisible_iff.mp (isPlain_iff.mp h).1).2

theorem lower_of_isPlain (m : Casing) {b : UInt8} (h : isPlain b = true) :
    m.lower (asciiRune b) = asciiRune b := by
  have hb := toNat_lt_of_isPlain h
  have hrune : (asciiRune b).toNat = b.toNat := toNat_ofNat_of_lt hb
  rw [m.lower_ascii (asciiRune b) (by omega)]
  refine dif_neg fun hupper => ?_
  have hlow : 65 ≤ (asciiRune b).toNat := hupper.1
  have hhigh : (asciiRune b).toNat ≤ 90 := hupper.2
  exact (isPlain_iff.mp h).2 ⟨by omega, by omega⟩

/-- Leading spaces and tabs are removed from visible text. -/
theorem trimSpace_append_visible {spaces s : Bytes} (hspaces : ∀ b ∈ spaces, b = 32 ∨ b = 9)
    (h : ∀ b ∈ s, isVisible b = true) : trimSpace (spaces ++ s) = s := by
  have hascii : ∀ b ∈ spaces ++ s, b.toNat < 128 := by
    intro b hb
    rcases List.mem_append.mp hb with hspace | hvisible
    · rcases hspaces b hspace with rfl | rfl <;> decide
    · exact (isVisible_iff.mp (h b hvisible)).2
  have hdropped : ∀ r ∈ spaces.map (fun b => (asciiRune b, [b])), isSpace r.1 = true := by
    intro r hr
    obtain ⟨b, hb, rfl⟩ := List.mem_map.mp hr
    rcases hspaces b hb with rfl | rfl <;> decide
  have hkept : ∀ r ∈ s.map (fun b => (asciiRune b, [b])), ¬ isSpace r.1 = true := by
    intro r hr
    obtain ⟨b, hb, rfl⟩ := List.mem_map.mp hr
    simp [isSpace_of_isVisible (h b hb)]
  unfold trimSpace
  rw [runes_ascii hascii, List.map_append, List.dropWhile_append_of_pos hdropped,
    List.dropWhile_eq_self_iff.mpr fun hpos => hkept _ (List.getElem_mem hpos),
    List.rdropWhile_eq_self_iff.mpr fun hne => hkept _ (List.getLast_mem hne), List.map_map]
  exact List.flatMap_singleton' s

section

variable {s : Bytes} (h : ∀ b ∈ s, isPlain b = true)

include h

theorem trimSpace_plain : trimSpace s = s :=
  @trimSpace_append_visible [] s (List.forall_mem_nil _) fun b hb => (isPlain_iff.mp (h b hb)).1

theorem toLower_plain (m : Casing) : toLower m s = s := by
  unfold toLower
  rw [runes_ascii fun b hb => toNat_lt_of_isPlain (h b hb), List.map_map]
  have hbytes : s.map ((fun r => String.utf8EncodeChar (m.lower r.1)) ∘
      fun b => (asciiRune b, [b])) = s.map fun b => [b] := by
    refine List.map_congr_left fun b hb => ?_
    simp only [Function.comp]
    rw [lower_of_isPlain m (h b hb), utf8EncodeChar_asciiRune (toNat_lt_of_isPlain (h b hb))]
  rw [hbytes]
  exact List.flatMap_singleton' s

end

/-- The lower-case form of a text has no ASCII capitals. -/
theorem not_capital_of_mem_toLower {m : Casing} {s : Bytes} {b : UInt8} (hb : b ∈ toLower m s) :
    ¬ (65 ≤ b.toNat ∧ b.toNat ≤ 90) := by
  rintro ⟨hlow, hhigh⟩
  obtain ⟨bytes, hbytes, hmem⟩ := List.mem_flatten.mp hb
  obtain ⟨r, _, rfl⟩ := List.mem_map.mp hbytes
  obtain ⟨hascii, rfl⟩ := toNat_lt_of_mem_utf8EncodeChar hmem (by omega)
  have hfixed : m.lower (m.lower r.1) = m.lower r.1 := m.lower_lower r.1
  rw [m.lower_ascii (m.lower r.1) hascii] at hfixed
  have hnot := not_upper_toLower (m.lower r.1)
  rw [hfixed] at hnot
  rw [UInt8.toNat_ofNat', Nat.mod_eq_of_lt (by omega)] at hlow hhigh
  exact hnot ⟨hlow, hhigh⟩

end Go
