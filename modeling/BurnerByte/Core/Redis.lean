import BurnerByte.Core.Expiring
import BurnerByte.Go.Duration

/-!
# Counters and flags that expire

Redis commands on keys that hold a number, with expirations as the Go client sends them: a time to
live is cut to whole seconds by `EXPIRE` and to whole milliseconds by `SET`, but a positive one is
never cut to zero. A key whose deadline has passed is not there. The clock counts nanoseconds.
-/

namespace Redis

open Expiring Go

universe u

/-- `SET` with this time to live keeps the deadline that the key has. -/
def keepTTL : Int := -1

/-- A time to live in whole units, at least one if it is positive. -/
def formatUnit (unit d : Int) : Int := if 0 < d ∧ d < unit then 1 else d.tdiv unit

def formatSec (d : Int) : Int := formatUnit second d

def formatMs (d : Int) : Int := formatUnit millisecond d

theorem formatUnit_pos {unit d : Int} (hunit : 0 < unit) (h : 0 < d) : 0 < formatUnit unit d := by
  unfold formatUnit
  split
  · decide
  rw [Int.tdiv_eq_ediv_of_nonneg (Int.le_of_lt h)]
  exact Int.le_ediv_of_mul_le hunit (by omega)

structure Server (κ : Type u) where
  now : Int
  store : Store κ Nat

namespace Server

variable {κ : Type u}

def entry (r : Server κ) (k : κ) : Option (Entry Nat) :=
  (r.store k).filter fun entry => entry.live r.now

/-- A key that is not there counts as zero. -/
def value (r : Server κ) (k : κ) : Nat := (r.entry k).elim 0 Entry.value

/-- The rest of the time to live in seconds, rounded; `-1` without a deadline, `-2` without a
key. -/
def ttl (r : Server κ) (k : κ) : Int :=
  match r.entry k with
  | none => -2
  | some entry =>
    match entry.deadline with
    | none => -1
    | some deadline => (deadline - r.now + second / 2) / second

def pass (r : Server κ) (d : Nat) : Server κ := { r with now := r.now + d }

section

variable [DecidableEq κ]

def incr (r : Server κ) (k : κ) : Nat × Server κ :=
  (r.value k + 1,
    { r with store := r.store.set k (r.value k + 1) ((r.entry k).bind Entry.deadline) })

def del (r : Server κ) (k : κ) : Server κ := { r with store := r.store.del k }

def expire (r : Server κ) (k : κ) (d : Int) : Server κ :=
  match r.entry k with
  | none => r
  | some entry =>
    if formatSec d ≤ 0 then r.del k
    else { r with store := r.store.set k entry.value (some (r.now + formatSec d * second)) }

def set (r : Server κ) (k : κ) (v : Nat) (d : Int) : Server κ :=
  let deadline :=
    if 0 < d then some (r.now + formatMs d * millisecond)
    else if d = keepTTL then (r.entry k).bind Entry.deadline
    else none
  { r with store := r.store.set k v deadline }

end

/-! ## What a command does to its key, and to the others -/

variable {r r' : Server κ} {k k' : κ}

theorem entry_congr (hnow : r'.now = r.now) (hstore : r'.store k = r.store k) :
    r'.entry k = r.entry k := by
  unfold entry
  rw [hnow, hstore]

theorem ttl_congr (hnow : r'.now = r.now) (hstore : r'.store k = r.store k) :
    r'.ttl k = r.ttl k := by
  unfold ttl
  rw [entry_congr hnow hstore, hnow]

theorem value_congr (hnow : r'.now = r.now) (hstore : r'.store k = r.store k) :
    r'.value k = r.value k := by
  unfold value
  rw [entry_congr hnow hstore]

theorem entry_eq_some {entry : Entry Nat} :
    r.entry k = some entry ↔ r.store k = some entry ∧ entry.live r.now = true :=
  Option.filter_eq_some_iff

theorem ttl_pos_iff : 0 < r.ttl k ↔
    ∃ v deadline, r.store k = some ⟨v, some deadline⟩ ∧ second / 2 ≤ deadline - r.now := by
  have hsecond : second = 1000000000 := by decide
  constructor
  · intro h
    unfold ttl at h
    split at h
    · omega
    rename_i entry hentry
    obtain ⟨v, deadline⟩ := entry
    cases deadline with
    | none =>
      dsimp only at h
      omega
    | some deadline =>
      dsimp only at h
      rw [hsecond] at h
      exact ⟨v, deadline, (entry_eq_some.mp hentry).1, by omega⟩
  · rintro ⟨v, deadline, hstore, hle⟩
    have hentry : r.entry k = some ⟨v, some deadline⟩ :=
      entry_eq_some.mpr ⟨hstore, decide_eq_true (by omega)⟩
    simp only [ttl, hentry]
    rw [hsecond] at hle ⊢
    omega

/-- Time can only end what lasts for some time. -/
theorem ttl_pos_of_pass {d : Nat} (h : 0 < (r.pass d).ttl k) : 0 < r.ttl k := by
  obtain ⟨v, deadline, hstore, hle⟩ := ttl_pos_iff.mp h
  refine ttl_pos_iff.mpr ⟨v, deadline, hstore, ?_⟩
  have hnow : (r.pass d).now = r.now + d := rfl
  omega

/-- As time passes a counter keeps its value, or is gone. -/
theorem value_pass (d : Nat) : (r.pass d).value k = r.value k ∨ (r.pass d).value k = 0 := by
  cases hentry : (r.pass d).entry k with
  | none => exact .inr (by rw [value, hentry, Option.elim_none])
  | some entry =>
    obtain ⟨hstore, hlive⟩ := entry_eq_some.mp hentry
    have hle : r.now ≤ (r.pass d).now := Int.le_add_of_nonneg_right (Int.natCast_nonneg d)
    have hbefore : r.entry k = some entry :=
      entry_eq_some.mpr ⟨hstore, Entry.live_of_later hlive hle⟩
    exact .inl (by rw [value, value, hentry, hbefore])

variable [DecidableEq κ]

theorem entry_store_set {v : Nat} {deadline : Option Int}
    (hlive : Entry.live ⟨v, deadline⟩ r.now = true) :
    ({ r with store := r.store.set k v deadline } : Server κ).entry k = some ⟨v, deadline⟩ :=
  entry_eq_some.mpr ⟨Store.set_self .., hlive⟩

theorem entry_incr_self : (r.incr k).2.entry k =
    some ⟨r.value k + 1, (r.entry k).bind Entry.deadline⟩ := by
  refine entry_store_set ?_
  cases hentry : r.entry k with
  | none => rfl
  | some entry => exact (entry_eq_some.mp hentry).2

@[simp] theorem value_incr_self : (r.incr k).2.value k = r.value k + 1 := by
  rw [value, entry_incr_self, Option.elim_some]

theorem entry_del_self : (r.del k).entry k = none := by
  rw [entry, show (r.del k).store k = none from if_pos rfl, Option.filter_none]

@[simp] theorem value_del_self : (r.del k).value k = 0 := by
  rw [value, entry_del_self, Option.elim_none]

theorem entry_expire_self {entry : Entry Nat} {d : Int} (hentry : r.entry k = some entry)
    (hpos : 0 < formatSec d) :
    (r.expire k d).entry k = some ⟨entry.value, some (r.now + formatSec d * second)⟩ := by
  have hlater : 0 < formatSec d * second := Int.mul_pos hpos (by decide)
  simp only [expire, hentry, if_neg (Int.not_le.mpr hpos)]
  exact entry_store_set (decide_eq_true (by omega))

theorem value_expire_self (d : Int) :
    (r.expire k d).value k = r.value k ∨ (r.expire k d).value k = 0 := by
  cases hentry : r.entry k with
  | none => exact .inl (by simp only [expire, hentry])
  | some entry =>
    by_cases hpos : 0 < formatSec d
    · refine .inl ?_
      rw [value, value, entry_expire_self hentry hpos, hentry]
      rfl
    refine .inr ?_
    simp only [expire, hentry, if_pos (Int.not_lt.mp hpos)]
    exact value_del_self

@[simp] theorem incr_fst : (r.incr k).1 = r.value k + 1 := rfl

theorem store_incr_of_ne (h : k' ≠ k) : (r.incr k).2.store k' = r.store k' :=
  Store.set_of_ne r.store _ _ h

theorem store_del_of_ne (h : k' ≠ k) : (r.del k).store k' = r.store k' := if_neg h

theorem store_set_self (v : Nat) (d : Int) : (r.set k v d).store k = some ⟨v,
    if 0 < d then some (r.now + formatMs d * millisecond)
    else if d = keepTTL then (r.entry k).bind Entry.deadline
    else none⟩ :=
  Store.set_self ..

@[simp] theorem now_expire (d : Int) : (r.expire k d).now = r.now := by
  unfold expire
  split
  · rfl
  · split <;> rfl

theorem store_expire_of_ne (d : Int) (h : k' ≠ k) : (r.expire k d).store k' = r.store k' := by
  unfold expire
  split
  · rfl
  split
  · exact store_del_of_ne h
  · exact Store.set_of_ne r.store _ _ h

theorem ttl_incr_of_ne (h : k' ≠ k) : (r.incr k).2.ttl k' = r.ttl k' :=
  ttl_congr rfl (store_incr_of_ne h)

theorem ttl_del_of_ne (h : k' ≠ k) : (r.del k).ttl k' = r.ttl k' :=
  ttl_congr rfl (store_del_of_ne h)

theorem ttl_expire_of_ne (d : Int) (h : k' ≠ k) : (r.expire k d).ttl k' = r.ttl k' :=
  ttl_congr (now_expire d) (store_expire_of_ne d h)

theorem value_del_of_ne (h : k' ≠ k) : (r.del k).value k' = r.value k' :=
  value_congr rfl (store_del_of_ne h)

theorem value_set_of_ne (v : Nat) (d : Int) (h : k' ≠ k) : (r.set k v d).value k' = r.value k' :=
  value_congr rfl (Store.set_of_ne r.store _ _ h)

theorem ttl_del_self : ¬ 0 < (r.del k).ttl k := by
  simp only [ttl, entry_del_self]
  decide

end Server

end Redis
