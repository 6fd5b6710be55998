import BurnerByte.Core.Outcome
import BurnerByte.Core.Transaction

/-!
# Transactions that see what others commit

At the isolation level `READ COMMITTED` a statement sees the state that is committed when it
begins, with the writes of its own transaction. So a transaction is the list of its writes, which
are replayed over the committed state for each of its statements and at its commit.
-/

namespace Sql

universe u v

variable {σ ω ε : Type u} {α : Type v}

/-- The state after some writes. One that fails by now is left out. -/
def replay (run : ω → σ → Except ε σ) (s : σ) (writes : List ω) : σ :=
  writes.foldl (fun s write => (run write s).toOption.getD s) s

variable {run : ω → σ → Except ε σ} {s s' : σ} {writes : List ω}

@[simp] theorem replay_nil : replay run s [] = s := rfl

theorem replay_cons_ok {write : ω} (h : run write s = .ok s') :
    replay run s (write :: writes) = replay run s' writes := by
  simp only [replay, List.foldl_cons, h, Except.toOption, Option.getD_some]

theorem replay_concat_ok {write : ω} (h : run write (replay run s writes) = .ok s') :
    replay run s (writes ++ [write]) = s' := by
  have hconcat : replay run s (writes ++ [write]) =
      (run write (replay run s writes)).toOption.getD (replay run s writes) :=
    List.foldl_append
  rw [hconcat, h]
  rfl

/-- What every write preserves is preserved by a replay. -/
theorem replay_induct {inv : σ → Prop} (hs : inv s)
    (hstep : ∀ write ∈ writes, ∀ s s', inv s → run write s = .ok s' → inv s') :
    inv (replay run s writes) := by
  induction writes generalizing s with
  | nil => exact hs
  | cons write writes ih =>
    refine ih ?_ fun next hnext => hstep next (List.mem_cons_of_mem _ hnext)
    exact Outcome.getD_of_ok hs fun s' => hstep write List.mem_cons_self s s' hs

namespace Tx

/-- Execute a write over the committed state. -/
def write (run : ω → σ → Except ε σ) (tx : Tx (List ω)) (err : ε) (s : σ) (write : ω) :
    Except ε Unit × Tx (List ω) :=
  tx.exec err fun writes => (run write (replay run s writes)).map fun _ => writes ++ [write]

/-- A query over the committed state. -/
def read (run : ω → σ → Except ε σ) (tx : Tx (List ω)) (err : ε) (s : σ) (q : σ → Except ε α) :
    Except ε α :=
  tx.query err fun writes => q (replay run s writes)

variable {err : ε} {tx : Tx (List ω)} {write : ω}

theorem write_eq_live : (tx.write run err s write).2 = .live writes ↔
    ∃ before s', tx = .live before ∧ run write (replay run s before) = .ok s' ∧
      writes = before ++ [write] := by
  unfold Tx.write
  rw [exec_eq_live]
  constructor
  · rintro ⟨before, rfl, hrun⟩
    obtain ⟨s', hs', rfl⟩ := Outcome.map_eq_ok hrun
    exact ⟨before, s', rfl, hs', rfl⟩
  · rintro ⟨before, s', rfl, hs', rfl⟩
    exact ⟨before, rfl, by rw [hs']; rfl⟩

end Tx

end Sql
