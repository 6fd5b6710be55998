import Mathlib.Data.List.Nodup

/-!
# Tables with a primary key

A table is a list of rows whose keys are distinct. Insertion refuses a key that
exists, deletion keeps the rows that do not match, and an update must leave the
keys alone, so the constraint is never stated again where a table is used.
-/

namespace Sql

universe u v

variable {α : Type u} {κ : Type v}

/-- A lookup in a column with distinct values finds the row that has the value. -/
theorem find?_column_eq_some [DecidableEq κ] {column : α → κ} {rows : List α}
    (hunique : (rows.map column).Nodup) {k : κ} {row : α} :
    (rows.find? fun row => column row = k) = some row ↔ row ∈ rows ∧ column row = k := by
  constructor
  · intro h
    exact ⟨List.mem_of_find?_eq_some h, by simpa using List.find?_some h⟩
  · rintro ⟨hmem, rfl⟩
    obtain ⟨found, hfound⟩ : ∃ found, (rows.find? fun x => column x = column row) = some found :=
      Option.isSome_iff_exists.mp (List.find?_isSome.mpr ⟨row, hmem, by simp⟩)
    have hcolumn : column found = column row := by simpa using List.find?_some hfound
    rw [hfound, List.inj_on_of_nodup_map hunique (List.mem_of_find?_eq_some hfound) hmem hcolumn]

theorem notMem_map {column : α → κ} {rows : List α} {k : κ} :
    k ∉ rows.map column ↔ ∀ row ∈ rows, column row ≠ k := by
  simp

/-- An update keeps a column that it does not set. -/
theorem map_update (p : α → Bool) {f : α → α} {column : α → κ}
    (hf : ∀ row, column (f row) = column row) (rows : List α) :
    (rows.map fun row => if p row then f row else row).map column = rows.map column := by
  simp only [List.map_map, Function.comp_def, apply_ite column, hf, ite_self]

structure Table (α : Type u) (κ : Type v) (key : α → κ) where
  rows : List α
  unique : (rows.map key).Nodup

namespace Table

variable {key : α → κ}

instance : Membership α (Table α κ key) := ⟨fun t row => row ∈ t.rows⟩

instance [DecidableEq α] (row : α) (t : Table α κ key) : Decidable (row ∈ t) :=
  inferInstanceAs (Decidable (row ∈ t.rows))

instance (t : Table α κ key) (P : α → Prop) [DecidablePred P] : Decidable (∀ row ∈ t, P row) :=
  inferInstanceAs (Decidable (∀ row ∈ t.rows, P row))

instance (t : Table α κ key) (P : α → Prop) [DecidablePred P] : Decidable (∃ row ∈ t, P row) :=
  inferInstanceAs (Decidable (∃ row ∈ t.rows, P row))

def empty : Table α κ key := ⟨[], List.nodup_nil⟩

@[simp] theorem not_mem_empty (row : α) : row ∉ (empty : Table α κ key) := List.not_mem_nil

variable {t t' : Table α κ key} {row : α} {p : α → Bool} {f : α → α} {k : κ}

/-- Rows with the same key are the same row. -/
theorem eq_of_key_eq {row' : α} (h : row ∈ t) (h' : row' ∈ t) (hkey : key row = key row') :
    row = row' :=
  List.inj_on_of_nodup_map t.unique h h' hkey

/-- Of two rows that satisfy a condition, one does not have a given key. -/
theorem exists_key_ne (h : 1 < (t.rows.filter p).length) (k : κ) :
    ∃ row ∈ t, p row = true ∧ key row ≠ k := by
  have hunique := t.unique.sublist (List.filter_sublist (p := p) |>.map key)
  have hrows : ∀ row ∈ t.rows.filter p, row ∈ t ∧ p row = true := fun _ => List.mem_filter.mp
  generalize t.rows.filter p = found at h hunique hrows
  match found, h with
  | a :: b :: rest, _ =>
    obtain ⟨ha, hpa⟩ := hrows a List.mem_cons_self
    obtain ⟨hb, hpb⟩ := hrows b (List.mem_cons_of_mem a List.mem_cons_self)
    by_cases hkey : key a = k
    · refine ⟨b, hb, hpb, ?_⟩
      intro hkey'
      simp [hkey, hkey'] at hunique
    · exact ⟨a, ha, hpa, hkey⟩

theorem one_lt_length_filter {a b : α} (ha : a ∈ t) (hb : b ∈ t) (hpa : p a = true)
    (hpb : p b = true) (hne : a ≠ b) : 1 < (t.rows.filter p).length := by
  have ha' : a ∈ t.rows.filter p := List.mem_filter.mpr ⟨ha, hpa⟩
  have hb' : b ∈ t.rows.filter p := List.mem_filter.mpr ⟨hb, hpb⟩
  generalize t.rows.filter p = found at ha' hb'
  match found, ha', hb' with
  | [x], ha', hb' =>
    exact absurd ((List.mem_singleton.mp ha').trans (List.mem_singleton.mp hb').symm) hne
  | _ :: _ :: _, _, _ => simp

/-- The statement `DELETE … WHERE p`. -/
def deleteWhere (t : Table α κ key) (p : α → Bool) : Table α κ key where
  rows := t.rows.filter fun row => !p row
  unique := t.unique.sublist (List.filter_sublist.map key)

@[simp] theorem mem_deleteWhere : row ∈ t.deleteWhere p ↔ row ∈ t ∧ p row = false := by
  change row ∈ t.rows.filter _ ↔ row ∈ t.rows ∧ _
  simp [List.mem_filter]

/-- The statement `UPDATE … SET … WHERE p`, on columns outside the key. -/
def updateWhere (t : Table α κ key) (p : α → Bool) (f : α → α)
    (hkey : ∀ row, key (f row) = key row) : Table α κ key where
  rows := t.rows.map fun row => if p row then f row else row
  unique := by
    rw [map_update p hkey]
    exact t.unique

@[simp] theorem mem_updateWhere {hkey : ∀ row, key (f row) = key row} :
    row ∈ t.updateWhere p f hkey ↔ ∃ old ∈ t, (if p old then f old else old) = row := by
  exact List.mem_map

/-- A row that a deletion takes away matches. -/
theorem of_deleteWhere_ne (h : ¬ (row ∈ t.deleteWhere p ↔ row ∈ t)) : row ∈ t ∧ p row = true := by
  rw [mem_deleteWhere, and_iff_left_iff_imp, Classical.not_imp, Bool.not_eq_false] at h
  exact h

/-- A row that an update adds or takes away is a matching row, before or after the update. -/
theorem exists_of_updateWhere_ne (hkey : ∀ row, key (f row) = key row)
    (h : ¬ (row ∈ t.updateWhere p f hkey ↔ row ∈ t)) :
    ∃ old ∈ t, p old = true ∧ (row = old ∨ row = f old) := by
  by_cases hrow : row ∈ t
  · by_cases hp : p row = true
    · exact ⟨row, hrow, hp, .inl rfl⟩
    · exact absurd (iff_of_true (mem_updateWhere.mpr ⟨row, hrow, if_neg hp⟩) hrow) h
  obtain ⟨old, hold, heq⟩ := mem_updateWhere.mp
    (not_not.mp fun hnone => h (iff_of_false hnone hrow))
  by_cases hp : p old = true
  · rw [if_pos hp] at heq
    exact ⟨old, hold, hp, .inr heq.symm⟩
  · rw [if_neg hp] at heq
    exact absurd (heq ▸ hold) hrow

/-- An update keeps the keys. -/
theorem exists_key_updateWhere_iff (hkey : ∀ row, key (f row) = key row) :
    (∃ row ∈ t.updateWhere p f hkey, key row = k) ↔ ∃ row ∈ t, key row = k := by
  have hkeys : k ∈ (t.updateWhere p f hkey).rows.map key ↔ k ∈ t.rows.map key := by
    rw [updateWhere, map_update p hkey]
  exact List.mem_map.symm.trans (hkeys.trans List.mem_map)

variable [DecidableEq κ]

/-- The row with a key. -/
def find? (t : Table α κ key) (k : κ) : Option α := t.rows.find? fun row => key row = k

theorem find?_eq_some_iff :
    t.find? k = some row ↔ row ∈ t ∧ key row = k := find?_column_eq_some t.unique

/-- An update of the row with a key puts the new row in its place. -/
theorem mem_updateKey {current : α} (hkey : ∀ row, key (f row) = key row)
    (hfind : t.find? k = some current) :
    row ∈ t.updateWhere (fun row => key row = k) f hkey ↔
      row = f current ∨ row ∈ t ∧ key row ≠ k := by
  obtain ⟨hmem, hcurrent⟩ := find?_eq_some_iff.mp hfind
  rw [mem_updateWhere]
  constructor
  · rintro ⟨old, hold, rfl⟩
    by_cases hk : key old = k
    · rw [eq_of_key_eq hold hmem (hk.trans hcurrent.symm)]
      exact .inl (if_pos (decide_eq_true hcurrent))
    · exact .inr (by simpa [hk] using hold)
  · rintro (rfl | ⟨hrow, hk⟩)
    · exact ⟨current, hmem, if_pos (decide_eq_true hcurrent)⟩
    · exact ⟨row, hrow, by simp [hk]⟩

/-- A condition still holds of some row when the row with one key changes, if the condition did
not hold of that row, or of another one as well, or holds of some row afterwards. -/
theorem exists_of_other {current : α} (h : ∃ row ∈ t, p row = true)
    (hfind : t.find? k = some current) (hkept : ∀ row ∈ t, key row ≠ k → row ∈ t')
    (hcurrent : p current = true → 1 < (t.rows.filter p).length ∨ ∃ row ∈ t', p row = true) :
    ∃ row ∈ t', p row = true := by
  obtain ⟨row, hrow, hp⟩ := h
  by_cases hkey : key row = k
  · obtain ⟨hmem, hkey'⟩ := find?_eq_some_iff.mp hfind
    obtain rfl : row = current := eq_of_key_eq hrow hmem (hkey.trans hkey'.symm)
    cases hcurrent hp with
    | inl hcount =>
      obtain ⟨other, hother, hpother, hne⟩ := exists_key_ne hcount k
      exact ⟨other, hkept other hother hne, hpother⟩
    | inr hexists => exact hexists
  · exact ⟨row, hkept row hrow hkey, hp⟩

/-- An `INSERT`, refused when the key exists. -/
def insert (t : Table α κ key) (row : α) : Option (Table α κ key) :=
  if h : key row ∈ t.rows.map key then none
  else some ⟨row :: t.rows, List.nodup_cons.mpr ⟨h, t.unique⟩⟩

/-- A new row is put in front. -/
theorem rows_insert (h : t.insert row = some t') : t'.rows = row :: t.rows := by
  unfold insert at h
  split at h
  · cases h
  cases h
  rfl

theorem insert_eq_some (h : t.insert row = some t') :
    (∀ old ∈ t, key old ≠ key row) ∧ ∀ x, x ∈ t' ↔ x = row ∨ x ∈ t := by
  unfold insert at h
  split at h
  · cases h
  rename_i hfresh
  cases h
  exact ⟨notMem_map.mp hfresh, fun x => List.mem_cons⟩

theorem exists_insert (h : ∀ old ∈ t, key old ≠ key row) : ∃ t', t.insert row = some t' :=
  ⟨_, dif_neg (notMem_map.mpr h)⟩

/-- A row can be inserted exactly if its key is free. -/
theorem find?_key_eq_none_iff (t : Table α κ key) (row : α) :
    t.find? (key row) = none ↔ ∃ t', t.insert row = some t' := by
  constructor
  · intro hnone
    refine exists_insert fun old hold hkey => ?_
    rw [find?_eq_some_iff.mpr ⟨hold, hkey⟩] at hnone
    cases hnone
  · rintro ⟨t', hinsert⟩
    rw [Option.eq_none_iff_forall_ne_some]
    intro old hfind
    obtain ⟨hold, hkey⟩ := find?_eq_some_iff.mp hfind
    exact (insert_eq_some hinsert).1 old hold hkey

end Table

end Sql
