import Mathlib.Data.List.Nodup

/-!
# Tables of counters

A table of counters has one row for each key. The statement
`INSERT … ON CONFLICT (key) DO UPDATE SET column = table.column + amount` adds an amount to
the row of a key, or starts the row with it. Whatever rows are added up, such a statement
adds its amount once if its key is among them.
-/

namespace Sql

universe u v

variable {κ : Type u} {α : Type v}

/-- Add an amount to the row of a key. -/
def upsertRows [DecidableEq κ] [Add α] (key : κ) (amount : α) : List (κ × α) → List (κ × α)
  | [] => [(key, amount)]
  | row :: rows =>
    if row.1 = key then (row.1, row.2 + amount) :: rows else row :: upsertRows key amount rows

section

variable [DecidableEq κ] [Add α]

theorem mem_keys_upsertRows {key k : κ} {amount : α} {rows : List (κ × α)} :
    k ∈ (upsertRows key amount rows).map Prod.fst ↔ k = key ∨ k ∈ rows.map Prod.fst := by
  induction rows with
  | nil => simp [upsertRows]
  | cons row rows ih =>
    rw [upsertRows]
    split
    · rename_i hkey
      simp [hkey]
    · rw [List.map_cons, List.mem_cons, ih, List.map_cons, List.mem_cons]
      tauto

theorem nodup_keys_upsertRows (key : κ) (amount : α) {rows : List (κ × α)}
    (h : (rows.map Prod.fst).Nodup) : ((upsertRows key amount rows).map Prod.fst).Nodup := by
  induction rows with
  | nil => exact List.nodup_singleton key
  | cons row rows ih =>
    obtain ⟨hfresh, hrest⟩ := List.nodup_cons.mp h
    rw [upsertRows]
    split
    · exact h
    rename_i hkey
    refine List.nodup_cons.mpr ⟨?_, ih hrest⟩
    rw [mem_keys_upsertRows]
    exact not_or_intro hkey hfresh

end

/-- One row for each key. -/
structure Counters (κ : Type u) (α : Type v) where
  rows : List (κ × α)
  unique : (rows.map Prod.fst).Nodup

namespace Counters

def empty : Counters κ α := ⟨[], List.nodup_nil⟩

def upsert [DecidableEq κ] [Add α] (t : Counters κ α) (key : κ) (amount : α) : Counters κ α where
  rows := upsertRows key amount t.rows
  unique := nodup_keys_upsertRows key amount t.unique

/-- A column added up over the rows of some keys. -/
def sumRows (p : κ → Bool) (column : α → Nat) : List (κ × α) → Nat
  | [] => 0
  | row :: rows => (if p row.1 then column row.2 else 0) + sumRows p column rows

def total (t : Counters κ α) (p : κ → Bool) (column : α → Nat) : Nat := sumRows p column t.rows

/-- An upsert adds its amount once, in whichever row it ends up. -/
@[simp] theorem total_upsert [DecidableEq κ] [Add α] (t : Counters κ α) (p : κ → Bool)
    {column : α → Nat} (hadd : ∀ a b, column (a + b) = column a + column b) (key : κ) (amount : α) :
    (t.upsert key amount).total p column =
      t.total p column + if p key then column amount else 0 := by
  unfold total upsert
  simp only
  induction t.rows with
  | nil => simp [upsertRows, sumRows]
  | cons row rows ih =>
    rw [upsertRows]
    split
    · rename_i hkey
      subst hkey
      rw [sumRows, sumRows, hadd]
      split <;> omega
    · rw [sumRows, sumRows, ih, Nat.add_assoc]

end Counters

end Sql
