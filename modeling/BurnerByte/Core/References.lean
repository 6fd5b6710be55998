import BurnerByte.Core.Table

/-!
# Tables that refer to each other

A table may have a second column with distinct values. The rows of a table may refer to
rows of another table by their key. Such references stay intact when every deletion
takes with it the rows that refer to a deleted one.
-/

namespace Sql

universe u v w x

variable {α : Type u} {κ : Type v} {β : Type w}

/-- A table with a second unique column. -/
structure UniqueTable (α : Type u) (κ : Type v) (β : Type w) (key : α → κ) (column : α → β)
    extends Table α κ key where
  distinct : (rows.map column).Nodup

namespace UniqueTable

variable {key : α → κ} {column : α → β}

instance : Membership α (UniqueTable α κ β key column) := ⟨fun t row => row ∈ t.rows⟩

instance [DecidableEq α] (row : α) (t : UniqueTable α κ β key column) : Decidable (row ∈ t) :=
  inferInstanceAs (Decidable (row ∈ t.rows))

instance (t : UniqueTable α κ β key column) (P : α → Prop) [DecidablePred P] :
    Decidable (∀ row ∈ t, P row) := inferInstanceAs (Decidable (∀ row ∈ t.rows, P row))

instance (t : UniqueTable α κ β key column) (P : α → Prop) [DecidablePred P] :
    Decidable (∃ row ∈ t, P row) := inferInstanceAs (Decidable (∃ row ∈ t.rows, P row))

def empty : UniqueTable α κ β key column := ⟨.empty, List.nodup_nil⟩

@[simp] theorem not_mem_empty (row : α) : row ∉ (empty : UniqueTable α κ β key column) :=
  List.not_mem_nil

variable {t t' : UniqueTable α κ β key column} {row : α} {p : α → Bool}

variable {row' : α} {f : α → α} {hkey : ∀ row, key (f row) = key row}

theorem eq_of_key_eq (h : row ∈ t) (h' : row' ∈ t) (hkey : key row = key row') : row = row' :=
  Table.eq_of_key_eq (t := t.toTable) h h' hkey

theorem eq_of_column_eq (h : row ∈ t) (h' : row' ∈ t) (hcolumn : column row = column row') :
    row = row' :=
  List.inj_on_of_nodup_map t.distinct h h' hcolumn

def deleteWhere (t : UniqueTable α κ β key column) (p : α → Bool) :
    UniqueTable α κ β key column where
  toTable := t.toTable.deleteWhere p
  distinct := t.distinct.sublist (List.filter_sublist.map column)

@[simp] theorem mem_deleteWhere :
    row ∈ t.deleteWhere p ↔ row ∈ t ∧ p row = false := Table.mem_deleteWhere (t := t.toTable)

/-- An update that leaves both unique columns alone. -/
def updateWhere (t : UniqueTable α κ β key column) (p : α → Bool) (f : α → α)
    (hkey : ∀ row, key (f row) = key row) (hcolumn : ∀ row, column (f row) = column row) :
    UniqueTable α κ β key column where
  toTable := t.toTable.updateWhere p f hkey
  distinct := by
    rw [Table.updateWhere, map_update p hcolumn]
    exact t.distinct

@[simp] theorem mem_updateWhere {hcolumn : ∀ row, column (f row) = column row} :
    row ∈ t.updateWhere p f hkey hcolumn ↔ ∃ old ∈ t, (if p old then f old else old) = row := by
  exact List.mem_map

/-- An update that leaves the key alone, refused when it makes two values of the second
column equal. -/
def tryUpdate [DecidableEq β] (t : UniqueTable α κ β key column) (p : α → Bool) (f : α → α)
    (hkey : ∀ row, key (f row) = key row) : Option (UniqueTable α κ β key column) :=
  if h : ((t.toTable.updateWhere p f hkey).rows.map column).Nodup then
    some ⟨t.toTable.updateWhere p f hkey, h⟩
  else none

theorem tryUpdate_eq_some [DecidableEq β] (h : t.tryUpdate p f hkey = some t') :
    t'.toTable = t.toTable.updateWhere p f hkey := by
  unfold tryUpdate at h
  split at h
  · rw [← Option.some.inj h]
  · cases h

/-- The row with a value in the second column. -/
def findBy [DecidableEq β] (t : UniqueTable α κ β key column) (value : β) : Option α :=
  t.rows.find? fun row => column row = value

theorem findBy_eq_some_iff [DecidableEq β] {value : β} :
    t.findBy value = some row ↔ row ∈ t ∧ column row = value :=
  find?_column_eq_some t.distinct

theorem find?_eq_some_iff [DecidableEq κ] {k : κ} :
    t.find? k = some row ↔ row ∈ t ∧ key row = k := Table.find?_eq_some_iff

variable [DecidableEq κ] [DecidableEq β]

/-- An `INSERT`, refused when either value exists. -/
def insert (t : UniqueTable α κ β key column) (row : α) : Option (UniqueTable α κ β key column) :=
  if h : key row ∈ t.rows.map key ∨ column row ∈ t.rows.map column then none
  else
    some
      { rows := row :: t.rows
        unique := List.nodup_cons.mpr ⟨fun hkey => h (.inl hkey), t.unique⟩
        distinct := List.nodup_cons.mpr ⟨fun hcolumn => h (.inr hcolumn), t.distinct⟩ }

theorem rows_insert (h : t.insert row = some t') : t'.rows = row :: t.rows := by
  unfold insert at h
  split at h
  · cases h
  cases h
  rfl

theorem mem_insert (h : t.insert row = some t') (x : α) : x ∈ t' ↔ x = row ∨ x ∈ t := by
  change x ∈ t'.rows ↔ _
  rw [rows_insert h]
  exact List.mem_cons

/-- Both values of a row that was inserted were free. -/
theorem fresh_of_insert (h : t.insert row = some t') :
    (∀ old ∈ t, key old ≠ key row) ∧ ∀ old ∈ t, column old ≠ column row := by
  unfold insert at h
  split at h
  · cases h
  rename_i hfresh
  exact (not_or.mp hfresh).imp notMem_map.mp notMem_map.mp

theorem insert_ne_none (hkey : ∀ old ∈ t, key old ≠ key row)
    (hcolumn : ∀ old ∈ t, column old ≠ column row) : t.insert row ≠ none := by
  rw [insert, dif_neg (not_or.mpr ⟨notMem_map.mpr hkey, notMem_map.mpr hcolumn⟩)]
  exact Option.some_ne_none _

end UniqueTable

/-! ## References -/

section

variable {γ : Type x} {key : γ → κ}

/-- Every row of a list refers to a row of the table. -/
def References (rows : List α) (reference : α → κ) (parents : Table γ κ key) : Prop :=
  ∀ row ∈ rows, ∃ parent ∈ parents, key parent = reference row

instance [DecidableEq κ] (rows : List α) (reference : α → κ) (parents : Table γ κ key) :
    Decidable (References rows reference parents) :=
  inferInstanceAs (Decidable (∀ row ∈ rows, ∃ parent ∈ parents, key parent = reference row))

variable {rows : List α} {reference : α → κ} {parents : Table γ κ key}

variable {rows' : List α} {q : γ → Bool} {parent : γ} {parents' : Table γ κ key}

/-- A deleted row that others refer to, as a cascade looks for it. -/
theorem any_parent {parents : List γ} [DecidableEq κ] {k : κ} (h : parent ∈ parents)
    (hq : q parent = true) (hkey : key parent = k) :
    (parents.any fun parent => q parent && key parent = k) = true :=
  List.any_eq_true.mpr ⟨parent, h, by simp [hq, hkey]⟩

namespace References

variable (h : References rows reference parents)

include h

theorem subset (hsubset : rows' ⊆ rows) :
    References rows' reference parents :=
  fun row hrow => h row (hsubset hrow)

/-- Rows may be deleted at any time. -/
theorem filter (p : α → Bool) :
    References (rows.filter p) reference parents := h.subset (List.filter_subset_self rows)

/-- A deletion that takes the referring rows with it. -/
theorem deleteWhere {p : α → Bool}
    (hcascade : ∀ row ∈ rows, ∀ parent ∈ parents, key parent = reference row → q parent = true →
      p row = true) :
    References (rows.filter fun row => !p row) reference (parents.deleteWhere q) := by
  intro row hrow
  obtain ⟨hmem, hkeep⟩ := List.mem_filter.mp hrow
  obtain ⟨parent, hparent, hkey⟩ := h row hmem
  refine ⟨parent, Table.mem_deleteWhere.mpr ⟨hparent, ?_⟩, hkey⟩
  by_contra hdeleted
  have hgone := hcascade row hmem parent hparent hkey (by simpa using hdeleted)
  rw [hgone] at hkeep
  cases hkeep

/-- The deletion of one row with all that refer to it. -/
theorem deleteKey [DecidableEq κ] (k : κ) :
    References (rows.filter fun row => !decide (reference row = k)) reference
      (parents.deleteWhere fun parent => key parent = k) :=
  h.deleteWhere fun _ _ _ _ hkey hdeleted =>
    decide_eq_true (hkey.symm.trans (of_decide_eq_true hdeleted))

/-- References of a table with one more row. -/
theorem of_mem {row : α} (hrow : ∃ parent ∈ parents, key parent = reference row)
    (hmem : ∀ x, x ∈ rows' ↔ x = row ∨ x ∈ rows) : References rows' reference parents := by
  intro x hx
  cases (hmem x).mp hx with
  | inl heq =>
    rw [heq]
    exact hrow
  | inr hold => exact h x hold

/-- References stay intact as long as the parents' keys do. -/
theorem mono (hkeys : ∀ parent ∈ parents, ∃ parent' ∈ parents', key parent' = key parent) :
    References rows reference parents' := by
  intro row hrow
  obtain ⟨parent, hparent, hkey⟩ := h row hrow
  obtain ⟨parent', hparent', hkey'⟩ := hkeys parent hparent
  exact ⟨parent', hparent', hkey'.trans hkey⟩

/-- References to a table with one more row. -/
theorem of_parent_mem (hmem : ∀ x, x ∈ parents' ↔ x = parent ∨ x ∈ parents) :
    References rows reference parents' :=
  h.mono fun old hold => ⟨old, (hmem old).mpr (.inr hold), rfl⟩

/-- An update of the parents leaves their keys alone. -/
theorem update_parents (p : γ → Bool) (f : γ → γ) (hkey : ∀ parent, key (f parent) = key parent) :
    References rows reference (parents.updateWhere p f hkey) := by
  refine h.mono fun parent hparent => ?_
  refine ⟨if p parent then f parent else parent, ?_, ?_⟩
  · exact Table.mem_updateWhere.mpr ⟨parent, hparent, rfl⟩
  · split
    · exact hkey parent
    · rfl

/-- An update of the referring rows that leaves the reference alone. -/
theorem update (p : α → Bool) (f : α → α) (hf : ∀ row, reference (f row) = reference row) :
    References (rows.map fun row => if p row then f row else row) reference parents := by
  intro row' hrow'
  obtain ⟨row, hrow, rfl⟩ := List.mem_map.mp hrow'
  obtain ⟨parent, hparent, hkey⟩ := h row hrow
  refine ⟨parent, hparent, hkey.trans ?_⟩
  split
  · exact (hf row).symm
  · rfl

end References

/-- An update of rows that may refer to a row, and keep the reference. -/
theorem References.update_filterMap {δ : Type*} {rows : List δ} {column : δ → Option α}
    (h : References (rows.filterMap column) reference parents) (p : δ → Bool) (f : δ → δ)
    (hf : ∀ row, column (f row) = column row) :
    References ((rows.map fun row => if p row then f row else row).filterMap column)
      reference parents := by
  simpa only [List.filterMap_map, Function.comp_def, apply_ite column, hf, ite_self] using h

theorem References.update_unique_parents {column : γ → β} {parents : UniqueTable γ κ β key column}
    (h : References rows reference parents.toTable) (p : γ → Bool) (f : γ → γ)
    (hkey : ∀ parent, key (f parent) = key parent)
    (hcolumn : ∀ parent, column (f parent) = column parent) :
    References rows reference (parents.updateWhere p f hkey hcolumn).toTable :=
  h.update_parents p f hkey

end

end Sql
