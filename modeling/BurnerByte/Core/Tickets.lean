import BurnerByte.Core.Expiring

/-!
# Tickets for one use

A ticket stands for a record, which a store keeps until the ticket is redeemed or its
time is over. Beside the store it is remembered why each ticket was issued. No operation
reads that, so it says what the record should tell: where every record agrees with the
cause of its ticket, so does every record that is redeemed.
-/

namespace Expiring

universe u v w

structure Tickets (κ : Type u) (ν : Type v) (γ : Type w) where
  store : Store κ ν
  /-- Why a ticket was issued, the last time that it was. -/
  cause : κ → Option γ

namespace Tickets

variable {κ : Type u} {ν : Type v} {γ : Type w}

def empty : Tickets κ ν γ := ⟨.empty, fun _ => none⟩

variable [DecidableEq κ]

def issue (t : Tickets κ ν γ) (k : κ) (v : ν) (deadline : Option Int) (g : γ) : Tickets κ ν γ where
  store := t.store.set k v deadline
  cause k' := if k' = k then some g else t.cause k'

/-- The record, if there is one, and the tickets that are left. -/
def redeem (t : Tickets κ ν γ) (now : Int) (k : κ) : Option ν × Tickets κ ν γ :=
  (t.store.get now k, { t with store := t.store.del k })

/-- Every ticket and its record agree with the cause of the ticket. -/
def Traced (rel : κ → ν → γ → Prop) (t : Tickets κ ν γ) : Prop :=
  ∀ k entry, t.store k = some entry → ∃ g, t.cause k = some g ∧ rel k entry.value g

section

variable {rel : κ → ν → γ → Prop} {t : Tickets κ ν γ}

omit [DecidableEq κ] in
theorem traced_empty : Traced rel (empty : Tickets κ ν γ) := by
  intro k entry h
  cases h

theorem Traced.issue {k : κ} {v : ν} {g : γ} (h : t.Traced rel) (deadline : Option Int)
    (hrel : rel k v g) : (t.issue k v deadline g).Traced rel := by
  intro k' entry hentry
  by_cases hk : k' = k
  · subst hk
    have hvalue : entry = ⟨v, deadline⟩ :=
      (Option.some.inj ((Store.set_self t.store k' v deadline).symm.trans hentry)).symm
    subst hvalue
    exact ⟨g, if_pos rfl, hrel⟩
  · have hold : t.store k' = some entry :=
      (Store.set_of_ne t.store v deadline hk).symm.trans hentry
    obtain ⟨g', hcause, hrel'⟩ := h k' entry hold
    exact ⟨g', (if_neg hk).trans hcause, hrel'⟩

theorem Traced.redeem (h : t.Traced rel) (now : Int) (k : κ) : (t.redeem now k).2.Traced rel :=
  fun k' entry hentry => h k' entry (Store.eq_some_of_del hentry)

omit [DecidableEq κ] in
/-- What a ticket is redeemed for agrees with the cause of the ticket. -/
theorem Traced.cause_of_get {now : Int} {k : κ} {v : ν} (h : t.Traced rel)
    (hget : t.store.get now k = some v) : ∃ g, t.cause k = some g ∧ rel k v g := by
  obtain ⟨entry, hentry, _, rfl⟩ := Store.get_eq_some.mp hget
  exact h k entry hentry

end

end Tickets

end Expiring
