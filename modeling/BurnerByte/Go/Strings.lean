import BurnerByte.Core.Outcome
import Mathlib.Data.List.DropRight
import Mathlib.Data.List.Infix

/-!
# Byte strings with Go's semantics

A Go string is an immutable byte sequence that need not be valid UTF-8. The
definitions below follow the standard library's documented behaviour on such
sequences; a search that Go answers with `-1` answers `none` here. Indexing and
slicing are the only operations that can fail, and they fail with a run-time
panic, so a function that slices returns in `Except Panic`.

`strings.ToUpper` decodes the text rune by rune, replaces each byte that starts
no valid encoding by U+FFFD, and encodes the mapped runes again. The mapping of
single runes is a parameter: only its values on ASCII are fixed.
-/

namespace Go

/-- The bytes of a Go string. -/
abbrev Bytes := List UInt8

/-- An ASCII literal of a Go source text. -/
def lit (s : String) : Bytes := s.toList.map fun c => c.toNat.toUInt8

/-- The run-time panics of indexing and slicing. -/
inductive Panic where
  | sliceBounds (low high length : Nat)
  | indexBounds (index length : Nat)
  deriving DecidableEq

/-- The slice `s[low:high]`. -/
def slice (s : Bytes) (low high : Nat) : Except Panic Bytes :=
  if low ≤ high ∧ high ≤ s.length then .ok ((s.take high).drop low)
  else .error (.sliceBounds low high s.length)

/-- The slice `s[low:]`. -/
def sliceFrom (s : Bytes) (low : Nat) : Except Panic Bytes := slice s low s.length

/-- The element `xs[i]`. -/
def getIndex (xs : List α) (i : Nat) : Except Panic α :=
  match xs[i]? with
  | some x => .ok x
  | none => .error (.indexBounds i xs.length)

variable {s sep : Bytes} {low i : Nat} {b : UInt8}

variable {high : Nat} {front back : Bytes}

theorem slice_eq_ok (h : low ≤ high) (h' : high ≤ s.length) :
    slice s low high = .ok ((s.take high).drop low) := if_pos ⟨h, h'⟩

theorem sliceFrom_eq_ok (h : low ≤ s.length) : sliceFrom s low = .ok (s.drop low) := by
  rw [sliceFrom, slice_eq_ok h (Nat.le_refl _), List.take_length]

/-! ## Searching -/

/-- Go's `strings.HasPrefix`. -/
def hasPrefix (s sep : Bytes) : Bool := sep.isPrefixOf s

/-- Go's `strings.Index`: the offset of the first occurrence. -/
def index (s sep : Bytes) : Option Nat :=
  if hasPrefix s sep then some 0
  else
    match s with
    | [] => none
    | _ :: t => (index t sep).map (· + 1)

/-- Go's `strings.IndexByte`. -/
def indexByte (s : Bytes) (b : UInt8) : Option Nat := index s [b]

theorem hasPrefix_iff : hasPrefix s sep = true ↔ sep <+: s := by
  exact List.isPrefixOf_iff_prefix

theorem index_of_isPrefix (h : sep <+: s) : index s sep = some 0 := by
  rw [index.eq_def, if_pos (hasPrefix_iff.mpr h)]

theorem index_cons_of_not_isPrefix {t : Bytes} (h : ¬ sep <+: b :: t) :
    index (b :: t) sep = (index t sep).map (· + 1) := by
  rw [index, if_neg (by rwa [hasPrefix_iff])]

/-- The reported offset is an occurrence. -/
theorem prefix_drop_of_index (h : index s sep = some i) : sep <+: s.drop i := by
  induction s generalizing i with
  | nil =>
    by_cases hp : sep <+: []
    · simpa using hp
    · rw [index, if_neg (by rwa [hasPrefix_iff])] at h
      cases h
  | cons b t ih =>
    by_cases hp : sep <+: b :: t
    · rw [index_of_isPrefix hp, Option.some.injEq] at h
      simpa [← h] using hp
    rw [index_cons_of_not_isPrefix hp] at h
    obtain ⟨j, hj, rfl⟩ := Option.map_eq_some_iff.mp h
    simpa using ih hj

/-- No occurrence lies before the reported one. -/
theorem index_le_of_prefix_drop {j : Nat} (h : sep <+: s.drop j) :
    ∃ i ≤ j, index s sep = some i := by
  induction s generalizing j with
  | nil =>
    have hp : sep <+: [] := by simpa using h
    exact ⟨0, Nat.zero_le _, index_of_isPrefix hp⟩
  | cons b t ih =>
    by_cases hp : sep <+: b :: t
    · exact ⟨0, Nat.zero_le _, index_of_isPrefix hp⟩
    cases j with
    | zero => exact absurd (by simpa using h) hp
    | succ j =>
      obtain ⟨i, hi, hfound⟩ := ih (by simpa using h)
      exact ⟨i + 1, Nat.succ_le_succ hi, by
        rw [index_cons_of_not_isPrefix hp, hfound, Option.map_some]⟩

theorem index_add_length_le (h : index s sep = some i) (hsep : sep ≠ []) :
    i + sep.length ≤ s.length := by
  have hle := (prefix_drop_of_index h).length_le
  have hpos := List.length_pos_of_ne_nil hsep
  rw [List.length_drop] at hle
  omega

theorem infix_of_prefix_drop (h : sep <+: s.drop i) : sep <:+: s :=
  h.isInfix.trans (List.drop_suffix i s).isInfix

theorem index_eq_none_iff : index s sep = none ↔ ¬ sep <:+: s := by
  constructor
  · rintro hnone ⟨front, back, rfl⟩
    have hocc : sep <+: (front ++ sep ++ back).drop front.length := by simp
    obtain ⟨i, _, hi⟩ := index_le_of_prefix_drop hocc
    rw [hnone] at hi
    cases hi
  · intro hno
    by_contra hsome
    obtain ⟨i, hi⟩ := Option.ne_none_iff_exists'.mp hsome
    exact hno (infix_of_prefix_drop (prefix_drop_of_index hi))

/-- The first occurrence ends within `n` bytes exactly when the first `n` bytes
contain an occurrence at all. -/
theorem index_add_length_le_iff {n : Nat} (h : index s sep = some i) :
    i + sep.length ≤ n ↔ sep <:+: s.take n := by
  constructor
  · intro hle
    obtain ⟨back, hback⟩ := prefix_drop_of_index h
    have hocc : sep <+: (s.take n).drop i := by
      rw [List.drop_take, ← hback, List.take_append, List.take_of_length_le (by omega)]
      exact List.prefix_append _ _
    exact infix_of_prefix_drop hocc
  · rintro ⟨front, back, hsplit⟩
    have hlen : front.length + sep.length + back.length ≤ n := by
      have := congrArg List.length hsplit
      simp only [List.length_append, List.length_take] at this
      omega
    have hocc : sep <+: s.drop front.length := by
      refine ⟨back ++ s.drop n, ?_⟩
      conv_rhs => rw [← List.take_append_drop n s, ← hsplit]
      simp
    obtain ⟨j, hj, hfirst⟩ := index_le_of_prefix_drop hocc
    rw [h, Option.some.injEq] at hfirst
    omega

/-! ## Splitting and trimming -/

/-- Go's `strings.SplitN(s, sep, 2)`. -/
def splitN2 (s sep : Bytes) : List Bytes :=
  match index s sep with
  | none => [s]
  | some i => [s.take i, s.drop (i + sep.length)]

theorem index_byte_append (h : b ∉ front) : index (front ++ b :: back) [b] = some front.length := by
  induction front with
  | nil => exact index_of_isPrefix ⟨back, rfl⟩
  | cons c front ih =>
    rw [List.mem_cons, not_or] at h
    have hfirst : ¬ [b] <+: c :: (front ++ b :: back) := by
      rintro ⟨rest, hrest⟩
      exact h.1 (List.cons.inj hrest).1
    rw [List.cons_append, index_cons_of_not_isPrefix hfirst, ih h.2]
    rfl

/-- A split at the first occurrence of a byte. -/
theorem splitN2_append (h : b ∉ front) : splitN2 (front ++ b :: back) [b] = [front, back] := by
  simp [splitN2, index_byte_append h]

/-- Every byte of joined parts is a separator or in one of them. -/
theorem mem_of_mem_intercalate {sep : UInt8} {parts : List Bytes}
    (h : b ∈ [sep].intercalate parts) :
    b = sep ∨ ∃ part ∈ parts, b ∈ part := by
  induction parts with
  | nil => cases h
  | cons part parts ih =>
    cases parts with
    | nil =>
      rw [List.intercalate_singleton] at h
      exact .inr ⟨part, List.mem_cons_self, h⟩
    | cons next parts =>
      rw [List.intercalate_cons_cons, List.mem_append, List.mem_append, List.mem_singleton] at h
      rcases h with (hpart | hsep) | hrest
      · exact .inr ⟨part, List.mem_cons_self, hpart⟩
      · exact .inl hsep
      cases ih hrest with
      | inl hsep => exact .inl hsep
      | inr hlater =>
        obtain ⟨later, hmem, hb⟩ := hlater
        exact .inr ⟨later, List.mem_cons_of_mem part hmem, hb⟩

/-- Every byte of a text is a separator or in one of its parts. -/
theorem mem_of_mem_splitOn (sep : UInt8) (h : b ∈ s) :
    b = sep ∨ ∃ part ∈ s.splitOn sep, b ∈ part := by
  apply mem_of_mem_intercalate
  have hjoin : [sep].intercalate (s.splitOn sep) = s := List.intercalate_splitOn sep
  rwa [hjoin]

/-- Go's `strings.TrimRight` with an ASCII cutset. -/
def trimRight (s cutset : Bytes) : Bytes := s.rdropWhile fun b => cutset.contains b

/-- Replace the occurrences of a nonempty text from left to right. The counter holds the
bytes of the current occurrence that are still to be skipped. -/
def replaceFrom (old new : Bytes) : Nat → Bytes → Bytes
  | _, [] => []
  | 0, b :: t =>
    if hasPrefix (b :: t) old then new ++ replaceFrom old new (old.length - 1) t
    else b :: replaceFrom old new 0 t
  | skip + 1, _ :: t => replaceFrom old new skip t

/-- Go's `strings.ReplaceAll`. -/
def replaceAll (s old new : Bytes) : Bytes := replaceFrom old new 0 s

example : replaceAll (lit "a...b") (lit "..") (lit "_") = lit "a_.b" := by decide

/-! ## File paths -/

def slash : UInt8 := 47

/-- Go's `filepath.Base`. -/
def base (path : Bytes) : Bytes :=
  if path = [] then lit "."
  else
    let last := (path.rdropWhile (· = slash)).rtakeWhile (· ≠ slash)
    if last = [] then [slash] else last

/-- Go's `filepath.Ext`. -/
def ext (path : Bytes) : Bytes :=
  let last := path.rtakeWhile (· ≠ slash)
  if 46 ∈ last then 46 :: last.rtakeWhile (· ≠ 46) else []

/-! ## Runes -/

/-- Go's `utf8.RuneError`. -/
def runeError : Char := Char.ofNat 0xFFFD

/-- Go's `utf8.DecodeRuneInString` on nonempty text: the first rune and its width. A
byte that starts no valid encoding is one `runeError` of width 1. -/
def decodeRune (s : Bytes) : Char × Nat :=
  match s.toByteArray.utf8DecodeChar? 0 with
  | some c => (c, c.utf8Size)
  | none => (runeError, 1)

/-- The runes of a `range` loop, each with the bytes it was decoded from. The
counter holds the bytes of the current rune that are still to be skipped. -/
def runesFrom : Nat → Bytes → List (Char × Bytes)
  | _, [] => []
  | 0, b :: t =>
    let (c, width) := decodeRune (b :: t)
    (c, (b :: t).take width) :: runesFrom (width - 1) t
  | skip + 1, _ :: t => runesFrom skip t

def runes (s : Bytes) : List (Char × Bytes) := runesFrom 0 s

/-- Go's `unicode.IsSpace`. -/
def isSpace (c : Char) : Bool :=
  let n := c.toNat
  (9 ≤ n && n ≤ 13) || n = 32 || n = 0x85 || n = 0xA0 || n = 0x1680 ||
    (0x2000 ≤ n && n ≤ 0x200A) || n = 0x2028 || n = 0x2029 || n = 0x202F ||
    n = 0x205F || n = 0x3000

/-- Go's `strings.TrimSpace`. -/
def trimSpace (s : Bytes) : Bytes :=
  ((((runes s).dropWhile fun r => isSpace r.1).rdropWhile fun r => isSpace r.1).map
    Prod.snd).flatten

/-- A case mapping of runes, such as `unicode.ToUpper`. Its values outside ASCII
are those of some Unicode table and may have encodings of another width. -/
structure CaseMapping where
  upper : Char → Char
  upper_ascii : ∀ c : Char, c.toNat < 128 → upper c = c.toUpper

/-- The mapping that leaves every rune outside ASCII alone. -/
def CaseMapping.ascii : CaseMapping where
  upper := Char.toUpper
  upper_ascii _ _ := rfl

/-- Go's `strings.ToUpper`. Go's fast path for ASCII text maps byte by byte; by
`upper_ascii` it computes the same bytes. -/
def toUpper (m : CaseMapping) (s : Bytes) : Bytes :=
  ((runes s).map fun r => String.utf8EncodeChar (m.upper r.1)).flatten

/-- One invalid byte becomes three. -/
example : toUpper .ascii (0xFF :: lit "from") = [0xEF, 0xBF, 0xBD] ++ lit "FROM" := by decide

/-! ## Lower case -/

/-- The mapping `unicode.ToLower`, and a representative of the runes that are equal under
case folding. Outside ASCII both are those of some Unicode table; a lower-case letter
is mapped to itself. -/
structure Casing where
  lower : Char → Char
  fold : Char → Char
  lower_ascii : ∀ c : Char, c.toNat < 128 → lower c = c.toLower
  lower_lower : ∀ c : Char, lower (lower c) = lower c

theorem not_upper_toLower (c : Char) : ¬ ('A'.val ≤ c.toLower.val ∧ c.toLower.val ≤ 'Z'.val) := by
  unfold Char.toLower
  split
  · rename_i h
    simp only [ge_iff_le, UInt32.le_iff_toNat_le] at h ⊢
    have hA : 'A'.val.toNat = 65 := rfl
    have hZ : 'Z'.val.toNat = 90 := rfl
    have hoffset : ('a'.val - 'A'.val).toNat = 32 := rfl
    rw [UInt32.toNat_add, hoffset]
    omega
  · assumption

/-- The casing that leaves every rune outside ASCII alone. -/
def Casing.ascii : Casing where
  lower := Char.toLower
  fold := Char.toLower
  lower_ascii _ _ := rfl
  lower_lower c := dif_neg (not_upper_toLower c)

/-- Go's `strings.ToLower`. -/
def toLower (m : Casing) (s : Bytes) : Bytes :=
  ((runes s).map fun r => String.utf8EncodeChar (m.lower r.1)).flatten

/-! ## Text

A string that was decoded from JSON is valid UTF-8, so it is a sequence of runes. -/

/-- Go's `strings.ToLower` on valid text. -/
def lowerText (m : Casing) (s : String) : String := String.ofList (s.toList.map m.lower)

/-- Go's `strings.TrimSpace` on valid text. -/
def trimText (s : String) : String :=
  String.ofList ((s.toList.dropWhile isSpace).rdropWhile isSpace)

/-- Go's `strings.EqualFold` on valid text. -/
def equalFold (m : Casing) (s t : String) : Bool := s.toList.map m.fold = t.toList.map m.fold

@[simp] theorem lowerText_lowerText (m : Casing) (s : String) :
    lowerText m (lowerText m s) = lowerText m s := by
  have hlower : m.lower ∘ m.lower = m.lower := funext m.lower_lower
  simp only [lowerText, String.toList_ofList, List.map_map, hlower]

end Go
