import BurnerByte.Core.Trace
import Mathlib.Logic.Function.Basic

/-!
# Interleaved processes

Processes with local states execute atomic statements on one shared state. A
schedule names, step by step, the process whose statement comes next, so that a
property of every run over every schedule is a property of every interleaving.

The second half is about processes that read a shared value once and write it back
one or more times. What such a process writes may be out of date: a value written
by another process between its read and its last write is lost.
-/

namespace Interleaving

universe u v w x

variable {ι : Type u} {π : Type v} {σ : Type w}

structure System (ι : Type u) (π : Type v) (σ : Type w) where
  procs : ι → π
  shared : σ

namespace System

variable [DecidableEq ι] {stmt : π → σ → π × σ}

/-- One process executes its next statement. -/
def step (stmt : π → σ → π × σ) (sys : System ι π σ) (i : ι) : System ι π σ where
  procs := Function.update sys.procs i (stmt (sys.procs i) sys.shared).1
  shared := (stmt (sys.procs i) sys.shared).2

theorem step_shared (sys : System ι π σ) (i : ι) :
    (sys.step stmt i).shared = (stmt (sys.procs i) sys.shared).2 := rfl

@[simp] theorem step_self (sys : System ι π σ) (i : ι) :
    (sys.step stmt i).procs i = (stmt (sys.procs i) sys.shared).1 := Function.update_self ..

variable {j : ι} {sys : System ι π σ}

@[simp] theorem step_other (sys : System ι π σ) {i : ι} (h : j ≠ i) :
    (sys.step stmt i).procs j = sys.procs j := Function.update_of_ne h ..

/-- What holds of each process still does if it holds of the one that executed a statement. -/
theorem forall_step {P : ι → π → Prop} (h : ∀ j, P j (sys.procs j)) {i : ι}
    (hi : P i (stmt (sys.procs i) sys.shared).1) : ∀ j, P j ((sys.step stmt i).procs j) := by
  intro j
  by_cases hj : j = i
  · subst hj
    rwa [step_self]
  · rw [step_other sys hj]
    exact h j

/-- What statements preserve of the process that executes them is preserved of every process. -/
theorem step_stable {P : π → Prop} (hP : ∀ p s, P p → P (stmt p s).1) (h : P (sys.procs j))
    (i : ι) :
    P ((sys.step stmt i).procs j) := by
  by_cases hj : j = i
  · subst hj
    rw [step_self]
    exact hP _ _ h
  · rwa [step_other sys hj]

/-- What statements preserve of the process that executes them holds after every schedule. -/
theorem run_stable {P : π → Prop} (hP : ∀ p s, P p → P (stmt p s).1) (h : P (sys.procs j))
    (schedule : List ι) : P ((Trace.run (step stmt) sys schedule).procs j) := by
  induction schedule generalizing sys with
  | nil => exact h
  | cons i schedule ih => exact ih (step_stable hP h i)

end System

/-! ## Processes that read once and write back -/

inductive Writer (σ : Type w) where
  | reading (body : σ → List σ)
  | writing (snapshot : σ) (pending : List σ)

namespace Writer

/-- Read the shared value, or write the next pending one. -/
def stmt : Writer σ → σ → Writer σ × σ
  | .reading body, value => (.writing value (body value), value)
  | .writing snapshot [], value => (.writing snapshot [], value)
  | .writing snapshot (next :: pending), _ => (.writing snapshot pending, next)

def Finished : Writer σ → Prop
  | .reading _ => False
  | .writing _ pending => pending = []

variable {β : Type x} (view : σ → β)

/-- What the process writes has the view of what it read. -/
def Preserves : Writer σ → Prop
  | .reading body => ∀ value, ∀ next ∈ body value, view next = view value
  | .writing snapshot pending => ∀ next ∈ pending, view next = view snapshot

/-- The process will write back a view that is not that of the value. -/
def Stale (value : σ) : Writer σ → Prop
  | .reading _ => False
  | .writing snapshot pending => pending ≠ [] ∧ view snapshot ≠ view value

variable {view}

theorem Preserves.step {p : Writer σ} (h : p.Preserves view) (value : σ) :
    (p.stmt value).1.Preserves view := by
  cases p with
  | reading body => exact h value
  | writing snapshot pending =>
    cases pending with
    | nil => exact h
    | cons next pending =>
      intro other hother
      exact h other (List.mem_cons_of_mem _ hother)

/-- A process that is not stale leaves the view alone and does not become stale. -/
theorem step_of_not_stale {p : Writer σ} {value written : σ} (h : p.Preserves view)
    (hview : view value = view written) (hfresh : ¬ p.Stale view written) :
    view (p.stmt value).2 = view written ∧ ¬ (p.stmt value).1.Stale view written := by
  cases p with
  | reading body => exact ⟨hview, fun hstale => hstale.2 hview⟩
  | writing snapshot pending =>
    cases pending with
    | nil => exact ⟨hview, hfresh⟩
    | cons next pending =>
      have hsame : view snapshot = view written := by
        by_contra hne
        exact hfresh ⟨List.cons_ne_nil _ _, hne⟩
      exact ⟨(h next List.mem_cons_self).trans hsame, fun hstale => hstale.2 hsame⟩

end Writer

/-! ## Two processes -/

/-- The process whose writing is looked at, and the one beside it. -/
inductive Party where
  | writer
  | other
  deriving DecidableEq

section

variable {β : Type x} {view : σ → β}

/-- The writer is done, and the other process is about to overwrite it or has done so:
the value has the view of its old snapshot once nothing is pending. -/
structure Overwrites (view : σ → β) (snapshot : σ) (sys : System Party (Writer σ) σ) : Prop where
  writer : ∃ s, sys.procs .writer = .writing s []
  other : ∃ pending, sys.procs .other = .writing snapshot pending ∧
    (∀ next ∈ pending, view next = view snapshot) ∧
    (pending = [] → view sys.shared = view snapshot)

theorem Overwrites.step {snapshot : σ} (sys : System Party (Writer σ) σ) (i : Party)
    (h : Overwrites view snapshot sys) : Overwrites view snapshot (sys.step Writer.stmt i) := by
  obtain ⟨⟨s, hwriter⟩, pending, hother, hpending, hlast⟩ := h
  cases i with
  | writer =>
    refine ⟨⟨s, ?_⟩, pending, ?_, hpending, ?_⟩
    · rw [System.step_self, hwriter, Writer.stmt]
    · rw [System.step_other sys (by decide), hother]
    · rw [System.step_shared, hwriter]
      exact hlast
  | other =>
    refine ⟨⟨s, ?_⟩, ?_⟩
    · rw [System.step_other sys (by decide), hwriter]
    · rw [System.step_self, System.step_shared, hother]
      cases pending with
      | nil => exact ⟨[], rfl, hpending, hlast⟩
      | cons next pending =>
        exact ⟨pending, rfl, fun v hv => hpending v (List.mem_cons_of_mem _ hv),
          fun _ => hpending next List.mem_cons_self⟩

/-- The writer is done, the value has its view, and the other process keeps it. -/
structure Keeps (view : σ → β) (written : σ) (sys : System Party (Writer σ) σ) : Prop where
  writer : ∃ s, sys.procs .writer = .writing s []
  shared : view sys.shared = view written
  preserves : (sys.procs .other).Preserves view
  fresh : ¬ (sys.procs .other).Stale view written

theorem Keeps.step {written : σ} (sys : System Party (Writer σ) σ) (i : Party)
    (h : Keeps view written sys) : Keeps view written (sys.step Writer.stmt i) := by
  obtain ⟨⟨s, hwriter⟩, hshared, hpreserves, hfresh⟩ := h
  cases i with
  | writer =>
    refine ⟨⟨s, ?_⟩, ?_, ?_, ?_⟩
    · rw [System.step_self, hwriter, Writer.stmt]
    · rw [System.step_shared, hwriter]
      exact hshared
    · rwa [System.step_other sys (by decide)]
    · rwa [System.step_other sys (by decide)]
  | other =>
    obtain ⟨hview, hnot⟩ := Writer.step_of_not_stale hpreserves hshared hfresh
    refine ⟨⟨s, ?_⟩, hview, ?_, ?_⟩
    · rw [System.step_other sys (by decide), hwriter]
    · exact hpreserves.step sys.shared
    · rwa [System.step_self]

/-- What the writer is about to write for the last time is still there when the other
process has finished, unless that process is stale at this moment. -/
theorem view_after_write_iff {sys : System Party (Writer σ) σ} {snapshot written : σ}
    {schedule : List Party} (hwriter : sys.procs .writer = .writing snapshot [written])
    (hother : (sys.procs .other).Preserves view)
    (hdone : ((Trace.run (System.step Writer.stmt) (sys.step Writer.stmt .writer)
      schedule).procs .other).Finished) :
    view (Trace.run (System.step Writer.stmt) (sys.step Writer.stmt .writer) schedule).shared =
        view written ↔ ¬ (sys.procs .other).Stale view written := by
  have hnext : (sys.step Writer.stmt .writer).procs .writer = .writing snapshot [] := by
    rw [System.step_self, hwriter, Writer.stmt]
  have hsame : (sys.step Writer.stmt .writer).procs .other = sys.procs .other :=
    System.step_other sys (by decide)
  by_cases hstale : (sys.procs .other).Stale view written
  · refine iff_of_false ?_ (not_not_intro hstale)
    cases hproc : sys.procs .other with
    | reading body =>
      rw [hproc] at hstale
      exact hstale.elim
    | writing old pending =>
      rw [hproc] at hstale hother
      have hstart : Overwrites view old (sys.step Writer.stmt .writer) :=
        ⟨⟨snapshot, hnext⟩, pending, hsame.trans hproc, hother, fun hnil => absurd hnil hstale.1⟩
      have hend := Trace.run_induct Overwrites.step hstart schedule
      obtain ⟨rest, hrest, _, hlast⟩ := hend.other
      rw [hrest] at hdone
      rw [hlast hdone]
      exact hstale.2
  · refine iff_of_true ?_ hstale
    have hstart : Keeps view written (sys.step Writer.stmt .writer) := by
      refine ⟨⟨snapshot, hnext⟩, ?_, by rwa [hsame], by rwa [hsame]⟩
      rw [System.step_shared, hwriter, Writer.stmt]
    exact (Trace.run_induct Keeps.step hstart schedule).shared

end

end Interleaving
