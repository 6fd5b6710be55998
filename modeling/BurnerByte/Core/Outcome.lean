/-!
# Computations that may fail

A chain of computations in `Except` succeeds exactly when each of them does. A
caller that keeps the old value when a computation fails ends with the old value
or with the result of a success.
-/

namespace Outcome

universe u

variable {ε α β : Type u}

@[simp] theorem ok_bind (a : α) (f : α → Except ε β) : (Except.ok a >>= f) = f a := rfl

@[simp] theorem error_bind (e : ε) (f : α → Except ε β) :
    (Except.error e >>= f) = Except.error e := rfl

variable {x : Except ε α} {a : α}

theorem bind_eq_ok {f : α → Except ε β} {b : β} :
    (x >>= f) = .ok b ↔ ∃ a, x = .ok a ∧ f a = .ok b := by
  cases x with
  | _ => simp

theorem exists_bind_eq_ok_iff {f : α → Except ε β} (h : ∀ a, ∃ b, f a = .ok b) :
    (∃ b, (x >>= f) = .ok b) ↔ ∃ a, x = .ok a := by
  cases x with
  | error e => simp
  | ok a => exact iff_of_true (h a) ⟨a, rfl⟩

theorem mapError_eq_ok {δ : Type u} {f : ε → δ} : x.mapError f = .ok a ↔ x = .ok a := by
  cases x with
  | error e => exact iff_of_false (by intro h; cases h) (by intro h; cases h)
  | ok b =>
    change Except.ok b = _ ↔ _
    simp

/-- A guard in front of a computation. -/
theorem guard_eq_ok {p : Prop} [Decidable p] {e : ε} :
    (if p then Except.error e else x) = .ok a ↔ ¬ p ∧ x = .ok a := by
  by_cases h : p <;> simp [h]

theorem exists_ok (h : x.toOption.isSome = true) : ∃ a, x = .ok a := by
  cases x with
  | error e => cases h
  | ok a => exact ⟨a, rfl⟩

theorem toOption_eq_some : x.toOption = some a ↔ x = .ok a := by
  cases x with
  | error e => exact iff_of_false nofun nofun
  | ok b => exact ⟨fun h => congrArg Except.ok (Option.some.inj h), fun h => h ▸ rfl⟩

theorem map_eq_ok {f : α → β} {b : β} (h : x.map f = .ok b) : ∃ a, x = .ok a ∧ f a = b := by
  cases x with
  | error e => cases h
  | ok a => exact ⟨a, rfl, Except.ok.inj h⟩

theorem getD_cases (result : Except ε α) (old : α) :
    result.toOption.getD old = old ∨ result = .ok (result.toOption.getD old) := by
  cases result with
  | error e => exact .inl rfl
  | ok a => exact .inr rfl

/-- What holds of the old value and of every success holds of the value kept. -/
theorem getD_of_ok {P : α → Prop} {result : Except ε α} {old : α} (hold : P old)
    (hok : ∀ a, result = .ok a → P a) : P (result.toOption.getD old) := by
  cases result with
  | error e => exact hold
  | ok a => exact hok a rfl

theorem getD_map_of_ok {P : α → Prop} {f : β → α} {result : Except ε β} {old : α} (hold : P old)
    (hok : ∀ b, result = .ok b → P (f b)) : P ((result.map f).toOption.getD old) := by
  cases result with
  | error e => exact hold
  | ok b => exact hok b rfl

end Outcome
