import Mathlib.Algebra.BigOperators.Group.Finset.Piecewise
import Mathlib.Algebra.Order.BigOperators.Group.Finset

/-!
# Counting processes

How many processes are at some place of their program, or more generally the weight of all of them,
and what becomes of it when one process moves on.
-/

namespace Tally

universe u v

variable {ι : Type u} {π : Type v} [Fintype ι]

/-- The weights of all processes together. -/
def tally (weight : π → Nat) (procs : ι → π) : Nat := ∑ i, weight (procs i)

theorem le_tally (weight : π → Nat) (procs : ι → π) (i : ι) :
    weight (procs i) ≤ tally weight procs := by
  have hnonneg : ∀ j ∈ Finset.univ, 0 ≤ weight (procs j) := fun _ _ => Nat.zero_le _
  exact Finset.single_le_sum hnonneg (Finset.mem_univ i)

variable {weight : π → Nat}

theorem tally_mono {weight' : π → Nat} (h : ∀ p, weight p ≤ weight' p) (procs : ι → π) :
    tally weight procs ≤ tally weight' procs :=
  Finset.sum_le_sum fun i _ => h (procs i)

theorem tally_eq_zero {procs : ι → π} (h : ∀ i, weight (procs i) = 0) : tally weight procs = 0 :=
  Finset.sum_eq_zero fun i _ => h i

/-- Every process becomes heavier by the same weight. -/
theorem tally_add_const {procs procs' : ι → π} {n : Nat}
    (h : ∀ i, weight (procs' i) = weight (procs i) + n) :
    tally weight procs' = tally weight procs + Fintype.card ι * n := by
  unfold tally
  simp only [h]
  rw [Finset.sum_add_distrib, Finset.sum_const_nat fun _ _ => rfl, Finset.card_univ]

variable [DecidableEq ι]

/-- A process that moves takes its old weight away and brings its new one. -/
theorem tally_update (weight : π → Nat) (procs : ι → π) (i : ι) (p : π) :
    tally weight (Function.update procs i p) + weight (procs i) =
      tally weight procs + weight p := by
  have hcomp : (fun j => weight (Function.update procs i p j)) =
      Function.update (fun j => weight (procs j)) i (weight p) := Function.comp_update ..
  unfold tally
  rw [hcomp, Finset.sum_update_of_mem (Finset.mem_univ i), Finset.sdiff_singleton_eq_erase,
    ← Finset.add_sum_erase _ (fun j => weight (procs j)) (Finset.mem_univ i)]
  omega

end Tally
