/-!
# Runs of guarded steps

A system takes one step for each event. A run is guarded when every event meets a
condition in the state it finds. An invariant that guarded steps preserve holds
in every state of a guarded run, and before each of its events.
-/

namespace Trace

universe u v w

variable {σ : Type u} {ε : Type v} {step : σ → ε → σ}

/-- The state after a list of events. -/
def run (step : σ → ε → σ) (s : σ) (es : List ε) : σ := es.foldl step s

@[simp] theorem run_nil (s : σ) : run step s [] = s := rfl

@[simp] theorem run_cons (s : σ) (e : ε) (es : List ε) :
    run step s (e :: es) = run step (step s e) es := rfl

theorem run_append (s : σ) (es fs : List ε) :
    run step s (es ++ fs) = run step (run step s es) fs := List.foldl_append

/-- What every step preserves holds at the end of a run. -/
theorem run_induct {inv : σ → Prop} (hstep : ∀ s e, inv s → inv (step s e)) {s : σ} (hs : inv s)
    (es : List ε) : inv (run step s es) := by
  induction es generalizing s with
  | nil => exact hs
  | cons e es ih => exact ih (hstep s e hs)

/-- What events of a kind preserve holds at the end of a run of such events. -/
theorem run_induct_of_mem {inv : σ → Prop} {kind : ε → Prop}
    (hstep : ∀ s e, inv s → kind e → inv (step s e)) {s : σ} (hs : inv s) {es : List ε}
    (hes : ∀ e ∈ es, kind e) : inv (run step s es) := by
  induction es generalizing s with
  | nil => exact hs
  | cons e es ih =>
    exact ih (hstep s e hs (hes e List.mem_cons_self))
      fun e' he' => hes e' (List.mem_cons_of_mem e he')

/-- Every event meets the guard in the state it finds. -/
def Guarded (step : σ → ε → σ) (guard : σ → ε → Prop) : σ → List ε → Prop
  | _, [] => True
  | s, e :: es => guard s e ∧ Guarded step guard (step s e) es

instance instDecidableGuarded (guard : σ → ε → Prop) [∀ s e, Decidable (guard s e)] :
    (s : σ) → (es : List ε) → Decidable (Guarded step guard s es)
  | _, [] => .isTrue trivial
  | s, e :: es =>
    have := instDecidableGuarded guard (step s e) es
    inferInstanceAs (Decidable (guard s e ∧ Guarded step guard (step s e) es))

namespace Guarded

variable {guard : σ → ε → Prop} {inv : σ → Prop}

variable {s : σ} {es : List ε}

theorem append_iff {fs : List ε} :
    Guarded step guard s (es ++ fs) ↔
      Guarded step guard s es ∧ Guarded step guard (run step s es) fs := by
  induction es generalizing s with
  | nil => simp [Guarded]
  | cons e es ih => simp only [List.cons_append, Guarded, ih, run_cons, and_assoc]

/-- What is known of every event may be added to the guard. -/
theorem and_of_mem {kind : ε → Prop} (h : Guarded step guard s es) (hes : ∀ e ∈ es, kind e) :
    Guarded step (fun s e => guard s e ∧ kind e) s es := by
  induction es generalizing s with
  | nil => trivial
  | cons e es ih =>
    exact ⟨⟨h.1, hes e List.mem_cons_self⟩,
      ih h.2 fun e' he' => hes e' (List.mem_cons_of_mem e he')⟩

/-- What holds at the start and is preserved by guarded steps holds at the end. -/
theorem invariant (h : Guarded step guard s es) (hs : inv s)
    (hstep : ∀ s e, inv s → guard s e → inv (step s e)) : inv (run step s es) := by
  induction es generalizing s with
  | nil => exact hs
  | cons e es ih => exact ih h.2 (hstep s e hs h.1)

/-- Each event of a guarded run finds the invariant and meets the guard. -/
theorem before {fs : List ε} {e : ε} (h : Guarded step guard s (es ++ e :: fs)) (hs : inv s)
    (hstep : ∀ s e, inv s → guard s e → inv (step s e)) :
    inv (run step s es) ∧ guard (run step s es) e := by
  obtain ⟨hes, hguard, _⟩ := append_iff.mp h
  exact ⟨hes.invariant hs hstep, hguard⟩

/-- The guards of all events, one by one. -/
theorem iff_forall : Guarded step guard s es ↔
    ∀ done e rest, es = done ++ e :: rest → guard (run step s done) e := by
  constructor
  · rintro h done e rest rfl
    exact (append_iff.mp h).2.1
  · intro h
    induction es generalizing s with
    | nil => trivial
    | cons e es ih =>
      refine ⟨h [] e es rfl, ih fun done e' rest hes => ?_⟩
      exact h (e :: done) e' rest (by rw [hes, List.cons_append])

/-- Where the guard says exactly that a step preserves the invariant, the guarded runs are
those in which the invariant always holds. -/
theorem iff_always (hs : inv s) (hstep : ∀ s e, inv s → (guard s e ↔ inv (step s e))) :
    Guarded step guard s es ↔ ∀ done, done <+: es → inv (run step s done) := by
  constructor
  · rintro h done ⟨rest, rfl⟩
    exact (append_iff.mp h).1.invariant hs fun s e hinv hguard => (hstep s e hinv).mp hguard
  · intro h
    induction es generalizing s with
    | nil => trivial
    | cons e es ih =>
      have hnext : inv (step s e) := h [e] ⟨es, rfl⟩
      refine ⟨(hstep s e hs).mpr hnext, ih hnext ?_⟩
      intro done hdone
      exact h (e :: done) (List.cons_prefix_cons.mpr ⟨rfl, hdone⟩)

end Guarded

/-! ## What a computation does, as a guarded run -/

/-- Some guarded run leads from one state to the other. -/
def Reaches (step : σ → ε → σ) (guard : σ → ε → Prop) (s s' : σ) : Prop :=
  ∃ es, Guarded step guard s es ∧ run step s es = s'

namespace Reaches

variable {guard : σ → ε → Prop} {inv : σ → Prop} {s s' s'' : σ}

theorem refl (s : σ) : Reaches step guard s s := ⟨[], trivial, rfl⟩

theorem single {e : ε} (h : guard s e) : Reaches step guard s (step s e) := ⟨[e], ⟨h, trivial⟩, rfl⟩

theorem trans (h : Reaches step guard s s') (h' : Reaches step guard s' s'') :
    Reaches step guard s s'' := by
  obtain ⟨es, hes, rfl⟩ := h
  obtain ⟨fs, hfs, rfl⟩ := h'
  exact ⟨es ++ fs, Guarded.append_iff.mpr ⟨hes, hfs⟩, run_append s es fs⟩

theorem snoc {e : ε} (h : Reaches step guard s s') (he : guard s' e) :
    Reaches step guard s (step s' e) := h.trans (single he)

theorem invariant (h : Reaches step guard s s') (hs : inv s)
    (hstep : ∀ s e, inv s → guard s e → inv (step s e)) : inv s' := by
  obtain ⟨es, hes, rfl⟩ := h
  exact hes.invariant hs hstep

/-- A loop whose body is a guarded run as long as the loop invariant holds. -/
theorem foldl (P : σ → Prop) {α : Type w} {f : σ → α → σ} {xs : List α} (hs : P s)
    (hbody : ∀ s, P s → ∀ x ∈ xs, Reaches step guard s (f s x) ∧ P (f s x)) :
    Reaches step guard s (xs.foldl f s) ∧ P (xs.foldl f s) := by
  induction xs generalizing s with
  | nil => exact ⟨refl s, hs⟩
  | cons x xs ih =>
    obtain ⟨hreach, hinv⟩ := hbody s hs x List.mem_cons_self
    have hrest := ih hinv fun s hs y hy => hbody s hs y (List.mem_cons_of_mem x hy)
    exact ⟨hreach.trans hrest.1, hrest.2⟩

end Reaches

end Trace
