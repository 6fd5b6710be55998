import BurnerByte.Account.Lockout

/-!
# Failures within one window

What a lockout enforces, seen from a user whose logins fail one after the other: the attempts after
which the account is locked, as long as they fall into one window.
-/

namespace BurnerByte.Account

open Expiring Go Redis

namespace Lockout

variable {l : Lockout} {r : Server LockoutKey}

/-- The server after a failure that does not lock the account. -/
def counted (l : Lockout) (r : Server LockoutKey) : Server LockoutKey :=
  if (r.incr .attempts).1 = 1 then (r.incr .attempts).2.expire .attempts l.duration
  else (r.incr .attempts).2

theorem recordFailure_eq : l.recordFailure r =
    if l.maxAttempts ≤ r.value .attempts + 1 then
      (true, ((l.counted r).set .locked 1 l.duration).del .attempts)
    else (false, l.counted r) := by
  rfl

theorem recordFailure_fst :
    (l.recordFailure r).1 = true ↔ l.maxAttempts ≤ r.value .attempts + 1 := by
  by_cases h : l.maxAttempts ≤ r.value .attempts + 1
  · rw [recordFailure_eq, if_pos h]
    exact iff_of_true rfl h
  · rw [recordFailure_eq, if_neg h]
    exact iff_of_false Bool.false_ne_true h

theorem counted_now (l : Lockout) (r : Server LockoutKey) : (l.counted r).now = r.now := by
  unfold counted
  split
  · exact Server.now_expire l.duration
  · rfl

theorem counted_store (l : Lockout) (r : Server LockoutKey) :
    (l.counted r).store .locked = r.store .locked := by
  have hne : LockoutKey.locked ≠ .attempts := by decide
  unfold counted
  split
  · exact (Server.store_expire_of_ne l.duration hne).trans (Server.store_incr_of_ne hne)
  · exact Server.store_incr_of_ne hne

/-- The first failure starts the window. -/
theorem counted_first (hcount : r.value .attempts = 0) (hpos : 0 < formatSec l.duration) :
    (l.counted r).entry .attempts = some ⟨1, some (r.now + formatSec l.duration * second)⟩ := by
  have hone : (r.incr .attempts).1 = 1 := by rw [Server.incr_fst, hcount]
  rw [counted, if_pos hone, Server.entry_expire_self Server.entry_incr_self hpos, hcount]
  rfl

variable {count gap : Nat} {deadline : Int} {gaps : List Nat}

/-- The next failures are counted in the same window. -/
theorem counted_next {deadline : Option Int}
    (hentry : r.entry .attempts = some ⟨count + 1, deadline⟩) :
    (l.counted r).entry .attempts = some ⟨count + 2, deadline⟩ := by
  have hvalue : r.value .attempts = count + 1 := by rw [Server.value, hentry, Option.elim_some]
  have hne : (r.incr .attempts).1 ≠ 1 := by
    rw [Server.incr_fst, hvalue]
    omega
  rw [counted, if_neg hne, Server.entry_incr_self, hvalue, hentry]
  rfl

/-- The lock that a failure sets. -/
theorem recordFailure_locked (h : l.maxAttempts ≤ r.value .attempts + 1) :
    (l.recordFailure r).2.store .locked = some ⟨1,
      if 0 < l.duration then some (r.now + formatMs l.duration * millisecond)
      else if l.duration = keepTTL then (r.entry .locked).bind Entry.deadline
      else none⟩ := by
  have hne : LockoutKey.locked ≠ .attempts := by decide
  rw [recordFailure_eq, if_pos h, Server.store_del_of_ne hne, Server.store_set_self,
    Server.entry_congr (counted_now l r) (counted_store l r), counted_now]

/-- The answers to failed attempts, each of them some time after the one before. -/
def answers (l : Lockout) : Server LockoutKey → List Nat → List Bool
  | _, [] => []
  | r, gap :: gaps =>
    (l.recordFailure (r.pass gap)).1 :: l.answers (l.recordFailure (r.pass gap)).2 gaps

def elapsed : List Nat → Nat
  | [] => 0
  | gap :: gaps => gap + elapsed gaps

theorem elapsed_replicate_zero (n : Nat) : elapsed (List.replicate n 0) = 0 := by
  induction n with
  | zero => rfl
  | succ n ih => rw [List.replicate_succ, elapsed, ih]

/-- The last of these attempts locks the account, and none before it. -/
def LockedByLast (l : Lockout) (r : Server LockoutKey) (gaps : List Nat) : Prop :=
  l.answers r gaps = List.replicate (gaps.length - 1) false ++ [true]

theorem lockedByLast_of_le (gaps : List Nat)
    (h : l.maxAttempts ≤ (r.pass gap).value .attempts + 1) :
    l.LockedByLast r (gap :: gaps) ↔ gaps = [] := by
  unfold LockedByLast answers
  rw [recordFailure_eq, if_pos h]
  cases gaps with
  | nil => simp [answers]
  | cons next gaps => simp [List.replicate_succ]

theorem lockedByLast_of_lt (gaps : List Nat)
    (h : (r.pass gap).value .attempts + 1 < l.maxAttempts) :
    l.LockedByLast r (gap :: gaps) ↔ l.LockedByLast (l.counted (r.pass gap)) gaps := by
  unfold LockedByLast
  rw [answers, recordFailure_eq, if_neg (Int.not_le.mpr h)]
  cases gaps with
  | nil => simp [answers]
  | cons next gaps => simp [List.replicate_succ]

theorem entry_pass {entry : Entry Nat} {k : LockoutKey} (hentry : r.entry k = some entry)
    (hdeadline : entry.deadline = some deadline) (htime : r.now + gap < deadline) :
    (r.pass gap).entry k = some entry := by
  refine Server.entry_eq_some.mpr ⟨(Server.entry_eq_some.mp hentry).1, ?_⟩
  rw [Entry.live, hdeadline, Option.all_some]
  exact decide_eq_true htime

/-- The failures that are in the counter already count like those that follow in its window. -/
theorem lockedByLast_window (hentry : r.entry .attempts = some ⟨count + 1, some deadline⟩)
    (hcount : count + 1 < l.maxAttempts) (htime : r.now + elapsed gaps < deadline) :
    l.LockedByLast r gaps ↔ (count + 1 + gaps.length : Int) = l.maxAttempts := by
  induction gaps generalizing r count with
  | nil =>
    have hne : (count + 1 + ([] : List Nat).length : Int) ≠ l.maxAttempts := by
      rw [List.length_nil]
      omega
    exact iff_of_false (fun h => nomatch h) hne
  | cons gap gaps ih =>
    rw [elapsed] at htime
    have hafter := entry_pass hentry rfl (show r.now + gap < deadline by omega)
    have hvalue : (r.pass gap).value .attempts = count + 1 := by
      rw [Server.value, hafter, Option.elim_some]
    rw [List.length_cons]
    by_cases hmax : l.maxAttempts ≤ (r.pass gap).value .attempts + 1
    · rw [lockedByLast_of_le gaps hmax, ← List.length_eq_zero_iff]
      omega
    rw [lockedByLast_of_lt gaps (Int.not_le.mp hmax)]
    have hnow : (l.counted (r.pass gap)).now = r.now + gap := counted_now l _
    rw [ih (counted_next hafter) (by omega) (by omega)]
    omega

/-- Within one window the last of the failures locks the account exactly if there are as many as
attempts are allowed, or one if fewer are allowed. -/
theorem lockedByLast_iff {first : Nat} (hcount : (r.pass first).value .attempts = 0)
    (hpos : 0 < formatSec l.duration) (htime : elapsed gaps < formatSec l.duration * second) :
    l.LockedByLast r (first :: gaps) ↔ (gaps.length + 1 : Int) = max 1 l.maxAttempts := by
  by_cases hmax : l.maxAttempts ≤ (r.pass first).value .attempts + 1
  · rw [lockedByLast_of_le gaps hmax, ← List.length_eq_zero_iff]
    omega
  have hnow : (l.counted (r.pass first)).now = (r.pass first).now := counted_now l _
  rw [lockedByLast_of_lt gaps (Int.not_le.mp hmax),
    lockedByLast_window (counted_first hcount hpos) (by omega) (by omega)]
  omega

end Lockout

end BurnerByte.Account
