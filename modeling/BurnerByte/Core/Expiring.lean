import Mathlib.Data.Option.Basic
import Mathlib.Order.Basic

/-!
# A cache whose entries expire

A store maps keys to values with a deadline, or without one. It caches an authority,
which says for which key a value is valid and until when. The cache is sound if every
live entry has a deadline that does not lie behind the end of its value's validity. A
sound cache stays sound as time passes. It stays sound when the authority changes as long
as every live entry stays valid, which is what an update without a write to the cache
has to respect.
-/

namespace Expiring

universe u v

variable {κ : Type u} {ν : Type v}

structure Entry (ν : Type v) where
  value : ν
  deadline : Option Int

/-- Without a deadline an entry lives for ever. -/
def Entry.live (entry : Entry ν) (now : Int) : Bool := entry.deadline.all fun d => now < d

/-- What is live was live before. -/
theorem Entry.live_of_later {entry : Entry ν} {now later : Int} (h : entry.live later = true)
    (hle : now ≤ later) : entry.live now = true := by
  unfold Entry.live at h ⊢
  cases hdeadline : entry.deadline with
  | none => rfl
  | some d =>
    rw [hdeadline, Option.all_some, decide_eq_true_eq] at h
    exact decide_eq_true (Int.lt_of_le_of_lt hle h)

def Store (κ : Type u) (ν : Type v) : Type (max u v) := κ → Option (Entry ν)

namespace Store

def empty : Store κ ν := fun _ => none

def get (s : Store κ ν) (now : Int) (k : κ) : Option ν :=
  match s k with
  | none => none
  | some entry => if entry.live now then some entry.value else none

theorem get_eq_some {s : Store κ ν} {now : Int} {k : κ} {v : ν} :
    s.get now k = some v ↔ ∃ entry, s k = some entry ∧ entry.live now = true ∧ entry.value = v := by
  unfold get
  cases s k with
  | none => simp
  | some entry => simp [Option.ite_none_right_eq_some]

theorem get_of_later {s : Store κ ν} {now later : Int} {k : κ} {v : ν}
    (h : s.get later k = some v) (hle : now ≤ later) : s.get now k = some v := by
  obtain ⟨entry, hentry, hlive, hvalue⟩ := get_eq_some.mp h
  exact get_eq_some.mpr ⟨entry, hentry, Entry.live_of_later hlive hle, hvalue⟩

section

variable [DecidableEq κ]

def set (s : Store κ ν) (k : κ) (v : ν) (deadline : Option Int) : Store κ ν :=
  fun k' => if k' = k then some ⟨v, deadline⟩ else s k'

def del (s : Store κ ν) (k : κ) : Store κ ν := fun k' => if k' = k then none else s k'

/-- Delete one key after the other. -/
def delAll (s : Store κ ν) (ks : List κ) : Store κ ν := ks.foldl del s

theorem set_self (s : Store κ ν) (k : κ) (v : ν) (deadline : Option Int) :
    s.set k v deadline k = some ⟨v, deadline⟩ := if_pos rfl

variable {k k' : κ} {s : Store κ ν}

theorem set_of_ne (s : Store κ ν) (v : ν) (deadline : Option Int) (h : k' ≠ k) :
    s.set k v deadline k' = s k' := if_neg h

@[simp] theorem set_del (s : Store κ ν) (k : κ) (v : ν) (deadline : Option Int) :
    (s.del k).set k v deadline = s.set k v deadline := by
  funext k'
  by_cases h : k' = k
  · simp [set, h]
  · simp [set, del, h]

/-- A deletion adds nothing. -/
theorem eq_some_of_del {entry : Entry ν} (h : s.del k k' = some entry) : s k' = some entry := by
  unfold del at h
  split at h
  · cases h
  · exact h

theorem get_del {now : Int} {v : ν} :
    (s.del k).get now k' = some v ↔ k' ≠ k ∧ s.get now k' = some v := by
  by_cases h : k' = k
  · simp [get, del, h]
  · simp [get, del, h]

theorem get_delAll {ks : List κ} {now : Int} {v : ν} :
    (s.delAll ks).get now k = some v ↔ k ∉ ks ∧ s.get now k = some v := by
  unfold delAll
  induction ks generalizing s with
  | nil => simp
  | cons k' ks ih =>
    rw [List.foldl_cons, ih, get_del, List.mem_cons, not_or]
    constructor
    · rintro ⟨hks, hne, hget⟩
      exact ⟨⟨hne, hks⟩, hget⟩
    · rintro ⟨⟨hne, hks⟩, hget⟩
      exact ⟨hks, hne, hget⟩

end

/-! ## Soundness -/

section

variable {valid valid' : κ → ν → Int → Prop} {now : Int} {s : Store κ ν}

/-- Every live entry expires no later than its value ceases to be valid. -/
def Sound (valid : κ → ν → Int → Prop) (now : Int) (s : Store κ ν) : Prop :=
  ∀ k v, s.get now k = some v →
    ∃ deadline stop, s k = some ⟨v, some deadline⟩ ∧ deadline ≤ stop ∧ valid k v stop

theorem sound_empty : Sound valid now (empty : Store κ ν) := by
  intro k v h
  cases h

/-- A value that is read from a sound cache is valid at that time. -/
theorem Sound.valid_of_get {k : κ} {v : ν} (h : s.Sound valid now) (hget : s.get now k = some v) :
    ∃ deadline stop, s k = some ⟨v, some deadline⟩ ∧ deadline ≤ stop ∧ now < stop ∧
      valid k v stop := by
  obtain ⟨deadline, stop, hentry, hle, hvalid⟩ := h k v hget
  obtain ⟨entry, hentry', hlive, _⟩ := get_eq_some.mp hget
  cases hentry.symm.trans hentry'
  have hnow : now < deadline := of_decide_eq_true hlive
  exact ⟨deadline, stop, hentry, hle, Int.lt_of_lt_of_le hnow hle, hvalid⟩

theorem Sound.later {now' : Int} (h : s.Sound valid now) (hle : now ≤ now') :
    s.Sound valid now' := fun k v hget => h k v (get_of_later hget hle)

/-- The authority may change as long as what is live stays valid for as long. -/
theorem Sound.change (h : s.Sound valid now)
    (hkeeps : ∀ k v stop, s.get now k = some v → now < stop → valid k v stop →
      ∃ stop', stop ≤ stop' ∧ valid' k v stop') : s.Sound valid' now := by
  intro k v hget
  obtain ⟨deadline, stop, hentry, hle, hnow, hvalid⟩ := h.valid_of_get hget
  obtain ⟨stop', hle', hvalid'⟩ := hkeeps k v stop hget hnow hvalid
  exact ⟨deadline, stop', hentry, Int.le_trans hle hle', hvalid'⟩

variable [DecidableEq κ]

theorem Sound.del (h : s.Sound valid now) (k : κ) : (s.del k).Sound valid now := by
  intro k' v hget
  obtain ⟨hne, hget'⟩ := get_del.mp hget
  obtain ⟨deadline, stop, hentry, hrest⟩ := h k' v hget'
  exact ⟨deadline, stop, (if_neg hne).trans hentry, hrest⟩

/-- A write of a valid value whose deadline does not lie behind its validity. -/
theorem Sound.set {k : κ} {v : ν} {deadline stop : Int} (h : s.Sound valid now)
    (hle : deadline ≤ stop) (hvalid : valid k v stop) :
    (s.set k v (some deadline)).Sound valid now := by
  intro k' v' hget
  by_cases hk : k' = k
  · subst hk
    obtain ⟨entry, hentry, _, rfl⟩ := get_eq_some.mp hget
    rw [set_self] at hentry
    cases hentry
    exact ⟨deadline, stop, set_self s k' v (some deadline), hle, hvalid⟩
  · have hsame := set_of_ne s v (some deadline) hk
    have hget' : s.get now k' = some v' := by
      unfold get at hget ⊢
      rw [hsame] at hget
      exact hget
    obtain ⟨deadline', stop', hentry, hrest⟩ := h k' v' hget'
    exact ⟨deadline', stop', hsame.trans hentry, hrest⟩

end

end Store

end Expiring
