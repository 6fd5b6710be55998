import BurnerByte.Core.Interleaving

/-!
# Who holds a credential for one use

Processes issue a credential, put it into a shared store, claim it from there, and may give it
back. It is in one place at a time: with the process that is going to issue it, in the store, or
with the process that has claimed it. So if one process issues it, one process at a time has
claimed it, in every interleaving.
-/

namespace Interleaving

universe u v w

variable {ι : Type u} {π : Type v} {σ : Type w}

/-- The places of a credential. -/
structure Custody (π : Type v) (σ : Type w) where
  /-- The process is going to issue it. -/
  issues : π → Prop
  /-- The process has claimed it. -/
  claims : π → Prop
  /-- The store has no copy of it. -/
  absent : σ → Prop
  /-- The store has at most one copy of it. -/
  single : σ → Prop
  /-- A copy can be claimed. -/
  takeable : σ → Prop

namespace Custody

variable (c : Custody π σ) (stmt : π → σ → π × σ)

/-- Statements only move the credential. -/
structure Moves : Prop where
  issues : ∀ p s, c.issues (stmt p s).1 → c.issues p
  absent : ∀ p s, c.absent s → c.absent (stmt p s).2 ∨ c.issues p ∧ ¬ c.issues (stmt p s).1
  single : ∀ p s, c.single s → c.single (stmt p s).2 ∨ c.issues p
  single_of_absent : ∀ p s, c.absent s → c.single (stmt p s).2
  not_absent : ∀ s, c.takeable s → ¬ c.absent s
  claims : ∀ p s, c.claims (stmt p s).1 → c.claims p ∨ c.takeable s
  taken : ∀ p s, c.single s → c.claims (stmt p s).1 → ¬ c.claims p → ¬ c.takeable (stmt p s).2
  takeable : ∀ p s, c.takeable (stmt p s).2 → c.takeable s ∨
    c.issues p ∧ ¬ c.issues (stmt p s).1 ∨ c.claims p ∧ ¬ c.claims (stmt p s).1

/-- The credential is in one place. -/
structure InOnePlace (sys : System ι π σ) : Prop where
  issuer : ∀ i j, c.issues (sys.procs i) → c.issues (sys.procs j) → i = j
  absent : ∀ i, c.issues (sys.procs i) → c.absent sys.shared
  single : c.single sys.shared
  claimant : ∀ i j, c.claims (sys.procs i) → c.claims (sys.procs j) → i = j
  not_takeable : ∀ i, c.claims (sys.procs i) → ¬ c.takeable sys.shared
  not_issued : ∀ i j, c.claims (sys.procs i) → ¬ c.issues (sys.procs j)

variable {c stmt} [DecidableEq ι]

theorem Moves.issues_step (hmoves : c.Moves stmt) {sys : System ι π σ} {i j : ι}
    (h : c.issues ((sys.step stmt i).procs j)) : c.issues (sys.procs j) := by
  by_cases hij : j = i
  · subst hij
    rw [System.step_self] at h
    exact hmoves.issues _ _ h
  · rwa [System.step_other sys hij] at h

/-- Who has claimed the credential after a statement had claimed it before, or has found it. -/
theorem Moves.claims_step (hmoves : c.Moves stmt) {sys : System ι π σ} {i j : ι}
    (h : c.claims ((sys.step stmt i).procs j)) :
    c.claims (sys.procs j) ∨ j = i ∧ c.takeable sys.shared := by
  by_cases hij : j = i
  · subst hij
    rw [System.step_self] at h
    cases hmoves.claims _ _ h with
    | inl hbefore => exact .inl hbefore
    | inr htake => exact .inr ⟨rfl, htake⟩
  · rw [System.step_other sys hij] at h
    exact .inl h

namespace InOnePlace

variable {sys : System ι π σ}

theorem not_takeable_step (hmoves : c.Moves stmt) (h : c.InOnePlace sys) {i j : ι}
    (hj : c.claims ((sys.step stmt i).procs j)) : ¬ c.takeable (sys.step stmt i).shared := by
  intro htake
  rcases hmoves.takeable _ _ htake with hbefore | ⟨hissues, _⟩ | ⟨hclaims, hreleased⟩
  · rcases hmoves.claims_step hj with hclaims | ⟨rfl, _⟩
    · exact h.not_takeable j hclaims hbefore
    rw [System.step_self] at hj
    have hnew : ¬ c.claims (sys.procs j) := fun hclaims => h.not_takeable j hclaims hbefore
    exact hmoves.taken _ _ h.single hj hnew htake
  · rcases hmoves.claims_step hj with hclaims | ⟨_, hbefore⟩
    · exact h.not_issued j i hclaims hissues
    · exact hmoves.not_absent _ hbefore (h.absent i hissues)
  · have hji : j = i := by
      rcases hmoves.claims_step hj with hclaims' | ⟨rfl, _⟩
      · exact h.claimant j i hclaims' hclaims
      · rfl
    subst hji
    rw [System.step_self] at hj
    exact hreleased hj

theorem step (hmoves : c.Moves stmt) (sys : System ι π σ) (i : ι) (h : c.InOnePlace sys) :
    c.InOnePlace (sys.step stmt i) := by
  constructor
  · intro j k hj hk
    exact h.issuer j k (hmoves.issues_step hj) (hmoves.issues_step hk)
  · intro j hj
    rcases hmoves.absent (sys.procs i) sys.shared (h.absent j (hmoves.issues_step hj)) with
      habsent | ⟨hissues, hdone⟩
    · exact habsent
    · obtain rfl := h.issuer j i (hmoves.issues_step hj) hissues
      rw [System.step_self] at hj
      exact absurd hj hdone
  · rcases hmoves.single (sys.procs i) sys.shared h.single with hsingle | hissues
    · exact hsingle
    · exact hmoves.single_of_absent _ _ (h.absent i hissues)
  · intro j k hj hk
    rcases hmoves.claims_step hj with hj' | ⟨rfl, htake⟩
    · rcases hmoves.claims_step hk with hk' | ⟨rfl, htake⟩
      · exact h.claimant j k hj' hk'
      · exact absurd htake (h.not_takeable j hj')
    rcases hmoves.claims_step hk with hk' | ⟨rfl, _⟩
    · exact absurd htake (h.not_takeable k hk')
    · rfl
  · intro j hj
    exact h.not_takeable_step hmoves hj
  · intro j k hj hk
    have hissues := hmoves.issues_step hk
    rcases hmoves.claims_step hj with hj' | ⟨_, htake⟩
    · exact h.not_issued j k hj' hissues
    · exact hmoves.not_absent _ htake (h.absent k hissues)

/-- In every interleaving, the credential is in one place. -/
theorem run (hmoves : c.Moves stmt) (h : c.InOnePlace sys) (schedule : List ι) :
    c.InOnePlace (Trace.run (System.step stmt) sys schedule) :=
  Trace.run_induct (step hmoves) h schedule

end InOnePlace

end Custody

end Interleaving
