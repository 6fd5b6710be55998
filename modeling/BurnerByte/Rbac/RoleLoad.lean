import BurnerByte.Rbac.Roles

/-!
# What a load of the cache answers

For each value a load answers with one role, the one of a team if there is one and else the one of
an org. A new role changes the answers for its value, unless another role of the same value hides
it, and so does a role that is deleted. Labels and descriptions are not in the cache.
-/

namespace BurnerByte.Rbac

open Sql

/-- The two caches answer alike: which roles there are, their ranks and their permissions. -/
structure PermissionCache.Agrees (pc pc' : PermissionCache) : Prop where
  hasRole : ∀ value, pc.hasRole value = pc'.hasRole value
  getRank : ∀ value, pc.getRank value = pc'.getRank value
  hasPermission : ∀ value key, pc.hasPermission value key = pc'.hasPermission value key

namespace PermissionCache.Agrees

variable {pc pc' pc'' : PermissionCache}

theorem refl (pc : PermissionCache) : pc.Agrees pc := ⟨fun _ => rfl, fun _ => rfl, fun _ _ => rfl⟩

theorem symm (h : pc.Agrees pc') : pc'.Agrees pc :=
  ⟨fun value => (h.hasRole value).symm, fun value => (h.getRank value).symm,
    fun value key => (h.hasPermission value key).symm⟩

theorem trans (h : pc.Agrees pc') (h' : pc'.Agrees pc'') : pc.Agrees pc'' :=
  ⟨fun value => (h.hasRole value).trans (h'.hasRole value),
    fun value => (h.getRank value).trans (h'.getRank value),
    fun value key => (h.hasPermission value key).trans (h'.hasPermission value key)⟩

end PermissionCache.Agrees

/-! ## What a load answers -/

namespace RoleDb

variable {db db' : RoleDb} {value : String}

/-- The role that the cache has for a value after a load: the one of a team comes last. -/
def serving (db : RoleDb) (value : String) : Option RoleRow :=
  (db.roles.findBy (.team, value)).or (db.roles.findBy (.org, value))

variable {row : RoleRow} {roleID : UUID}

theorem serving_of_team (hrow : row ∈ db.roles) (hname : row.name = (.team, value)) :
    db.serving value = some row := by
  rw [serving, UniqueTable.findBy_eq_some_iff.mpr ⟨hrow, hname⟩, Option.some_or]

theorem findBy_eq_none {name : Scope × String} (h : ∀ row ∈ db.roles, row.name ≠ name) :
    db.roles.findBy name = none := by
  rw [Option.eq_none_iff_forall_ne_some]
  intro row hfind
  obtain ⟨hrow, hname⟩ := UniqueTable.findBy_eq_some_iff.mp hfind
  exact h row hrow hname

theorem serving_of_org (hteam : ∀ row ∈ db.roles, row.name ≠ (.team, value)) :
    db.serving value = db.roles.findBy (.org, value) := by
  rw [serving, findBy_eq_none hteam, Option.none_or]

/-- Tables with the same roles of a value have the same role for it. -/
theorem serving_congr (h : ∀ row, row.value = value → (row ∈ db.roles ↔ row ∈ db'.roles)) :
    db.serving value = db'.serving value := by
  have hfind (scope : Scope) :
      db.roles.findBy (scope, value) = db'.roles.findBy (scope, value) := by
    refine Option.ext fun row => ?_
    rw [UniqueTable.findBy_eq_some_iff, UniqueTable.findBy_eq_some_iff]
    refine and_congr_left fun hname => h row ?_
    exact congrArg Prod.snd hname
  rw [serving, serving, hfind .team, hfind .org]

variable {scope : Scope} {key : String} {db'' : RoleDb} {row' : RoleRow}

theorem mem_listRoles (h : row ∈ db.roles) (hname : row.name = (scope, value)) :
    ⟨value, row.rank, db.getRolePermissions row.id⟩ ∈ db.table.roles scope := by
  cases hname
  exact List.mem_map.mpr ⟨row, List.mem_filter.mpr ⟨h, by simp⟩, rfl⟩

theorem not_has_of_findBy (h : db.roles.findBy (scope, value) = none) :
    value ∉ (db.table.roles scope).map Role.value := by
  intro hmem
  obtain ⟨role, hrole, rfl⟩ := List.mem_map.mp hmem
  obtain ⟨row, hrow, rfl⟩ := List.mem_map.mp hrole
  obtain ⟨hrow, hscope⟩ := List.mem_filter.mp hrow
  have hname : row.name = (scope, row.value) := by
    rw [RoleRow.name, show row.scope = scope by simpa using hscope]
  rw [UniqueTable.findBy_eq_some_iff.mpr ⟨hrow, hname⟩] at h
  cases h

/-- What the cache has for a value after a load. -/
theorem cache_serving (db : RoleDb) (value : String) :
    db.table.cache.permissions value =
        (db.serving value).map (fun row => db.getRolePermissions row.id) ∧
      db.table.cache.ranks value = (db.serving value).map RoleRow.rank := by
  cases hteam : db.roles.findBy (.team, value) with
  | some row =>
    obtain ⟨hrow, hname⟩ := UniqueTable.findBy_eq_some_iff.mp hteam
    rw [serving_of_team hrow hname]
    exact PermissionCache.foldl_put_of_mem _ (db.table.unique .team) (mem_listRoles hrow hname)
  | none =>
    obtain ⟨hperm, hrank⟩ := PermissionCache.foldl_put_of_not_mem
      ((db.table.roles .org).foldl .put .empty) (not_has_of_findBy hteam)
    have hserving : db.serving value = db.roles.findBy (.org, value) := by
      rw [serving, hteam, Option.none_or]
    rw [hserving, RoleTable.cache, hperm, hrank]
    cases horg : db.roles.findBy (.org, value) with
    | some row =>
      obtain ⟨hrow, hname⟩ := UniqueTable.findBy_eq_some_iff.mp horg
      exact PermissionCache.foldl_put_of_mem _ (db.table.unique .org) (mem_listRoles hrow hname)
    | none => exact PermissionCache.foldl_put_of_not_mem _ (not_has_of_findBy horg)

theorem mem_getRolePermissions :
    key ∈ db.getRolePermissions roleID ↔ ⟨roleID, key⟩ ∈ db.grants := by
  constructor
  · intro hmem
    obtain ⟨⟨granted, key⟩, hfiltered, rfl⟩ := List.mem_map.mp hmem
    obtain ⟨hgrant, hrole⟩ := List.mem_filter.mp hfiltered
    obtain rfl : granted = roleID := by simpa using hrole
    exact hgrant
  · intro hgrant
    exact List.mem_map.mpr ⟨⟨roleID, key⟩, List.mem_filter.mpr ⟨hgrant, by simp⟩, rfl⟩

/-- Two roles of which the cache says the same. -/
structure Alike (db db' : RoleDb) (row row' : RoleRow) : Prop where
  rank : row.rank = row'.rank
  grants : ∀ key, ⟨row.id, key⟩ ∈ db.grants ↔ ⟨row'.id, key⟩ ∈ db'.grants

/-- Both tables have a role for the value, and these are alike, or neither has. -/
inductive Same (db db' : RoleDb) (value : String) : Prop where
  | none (hold : db.serving value = none) (hnew : db'.serving value = none)
  | some {row row' : RoleRow} (hold : db.serving value = some row)
      (hnew : db'.serving value = some row') (halike : Alike db db' row row')

theorem hasRole_cache (db : RoleDb) (value : String) :
    db.table.cache.hasRole value = (db.serving value).isSome := by
  rw [PermissionCache.hasRole, (db.cache_serving value).1, Option.isSome_map]

theorem getRank_cache (db : RoleDb) (value : String) :
    db.table.cache.getRank value = ((db.serving value).map RoleRow.rank).getD 0 := by
  rw [PermissionCache.getRank, (db.cache_serving value).2]

theorem hasPermission_cache (h : db.serving value = some row) (key : String) :
    db.table.cache.hasPermission value key = true ↔ ⟨row.id, key⟩ ∈ db.grants := by
  rw [PermissionCache.hasPermission, (db.cache_serving value).1, h, ← mem_getRolePermissions]
  exact List.contains_iff_mem

theorem hasPermission_cache_none (h : db.serving value = none) (key : String) :
    db.table.cache.hasPermission value key = false := by
  rw [PermissionCache.hasPermission, (db.cache_serving value).1, h]
  rfl

theorem agrees_iff_same : db.table.cache.Agrees db'.table.cache ↔ ∀ value, Same db db' value := by
  constructor
  · intro h value
    have hrole := h.hasRole value
    rw [hasRole_cache, hasRole_cache] at hrole
    cases hold : db.serving value with
    | none =>
      rw [hold] at hrole
      exact .none hold (Option.isSome_eq_false_iff.mp hrole.symm |> Option.isNone_iff_eq_none.mp)
    | some row =>
      rw [hold] at hrole
      obtain ⟨row', hnew⟩ := Option.isSome_iff_exists.mp hrole.symm
      have hrank := h.getRank value
      rw [getRank_cache, getRank_cache, hold, hnew] at hrank
      refine .some hold hnew ⟨hrank, fun key => ?_⟩
      rw [← hasPermission_cache hold, ← hasPermission_cache hnew, h.hasPermission value key]
  · intro h
    refine ⟨fun value => ?_, fun value => ?_, fun value key => ?_⟩
    · rw [hasRole_cache, hasRole_cache]
      cases h value with
      | none hold hnew => rw [hold, hnew]
      | some hold hnew halike => rw [hold, hnew, Option.isSome_some, Option.isSome_some]
    · rw [getRank_cache, getRank_cache]
      cases h value with
      | none hold hnew => rw [hold, hnew]
      | some hold hnew halike => rw [hold, hnew, Option.map_some, Option.map_some, halike.rank]
    · cases h value with
      | none hold hnew => rw [hasPermission_cache_none hold, hasPermission_cache_none hnew]
      | some hold hnew halike =>
        rw [Bool.eq_iff_iff, hasPermission_cache hold, hasPermission_cache hnew]
        exact halike.grants key

/-! ## What the statements change of it -/

/-- A row after an update of the role with the given id. -/
def afterUpdate (roleID : UUID) (label description : String) (row : RoleRow) : RoleRow :=
  if row.id = roleID then renamed label description row else row

theorem afterUpdate_eq (roleID : UUID) (label description : String) (row : RoleRow) :
    (afterUpdate roleID label description row).id = row.id ∧
      (afterUpdate roleID label description row).name = row.name ∧
      (afterUpdate roleID label description row).rank = row.rank := by
  unfold afterUpdate
  split
  · exact ⟨rfl, rfl, rfl⟩
  · exact ⟨rfl, rfl, rfl⟩

theorem mem_updateRole {label description : String} :
    row' ∈ (db.updateRole roleID label description).roles ↔
      ∃ row ∈ db.roles, afterUpdate roleID label description row = row' := by
  have hmem := @UniqueTable.mem_updateWhere _ _ _ _ _ db.roles row' (fun row => row.id = roleID)
    (renamed label description) (id_renamed label description) (name_renamed label description)
  simp only [decide_eq_true_eq] at hmem
  exact hmem

theorem findBy_updateRole (db : RoleDb) (roleID : UUID) (label description : String)
    (name : Scope × String) :
    (db.updateRole roleID label description).roles.findBy name =
      (db.roles.findBy name).map (afterUpdate roleID label description) := by
  refine Option.ext fun row' => ?_
  rw [UniqueTable.findBy_eq_some_iff, Option.map_eq_some_iff, mem_updateRole]
  simp only [UniqueTable.findBy_eq_some_iff]
  constructor
  · rintro ⟨⟨row, hrow, rfl⟩, hname⟩
    exact ⟨row, ⟨hrow, (afterUpdate_eq ..).2.1.symm.trans hname⟩, rfl⟩
  · rintro ⟨row, ⟨hrow, hname⟩, rfl⟩
    exact ⟨⟨row, hrow, rfl⟩, (afterUpdate_eq ..).2.1.trans hname⟩

/-- Labels and descriptions are not in the cache. -/
theorem same_updateRole (db : RoleDb) (roleID : UUID) (label description value : String) :
    Same db (db.updateRole roleID label description) value := by
  have hserving : (db.updateRole roleID label description).serving value =
      (db.serving value).map (afterUpdate roleID label description) := by
    rw [serving, findBy_updateRole, findBy_updateRole, serving, Option.map_or]
  cases hold : db.serving value with
  | none =>
    rw [hold] at hserving
    exact .none hold hserving
  | some row =>
    rw [hold] at hserving
    obtain ⟨hid, _, hrank⟩ := afterUpdate_eq roleID label description row
    refine .some hold hserving ⟨hrank.symm, fun key => ?_⟩
    rw [hid]
    rfl

theorem createRole_eq_some (h : db.createRole row = some db') :
    (∀ x, x ∈ db'.roles ↔ x = row ∨ x ∈ db.roles) ∧ db'.grants = db.grants ∧
      (∀ old ∈ db.roles, old.id ≠ row.id) ∧ ∀ old ∈ db.roles, old.name ≠ row.name := by
  unfold createRole at h
  split at h
  · cases h
  rename_i roles hinsert
  cases h
  exact ⟨UniqueTable.mem_insert hinsert, rfl, UniqueTable.fresh_of_insert hinsert⟩

/-- A new role has no permissions. -/
theorem not_granted_of_createRole (h : db.createRole row = some db') (key : String) :
    ⟨row.id, key⟩ ∉ db'.grants := by
  obtain ⟨_, hgrants, hfresh, _⟩ := createRole_eq_some h
  rw [hgrants]
  intro hgrant
  obtain ⟨old, hold, hid⟩ := db.references _ hgrant
  exact hfresh old hold hid

/-- A role that is created without permissions is hidden by another one of the same value. -/
def CreatesUnseen (db : RoleDb) (scope : Scope) (value : String) (rank : Int) : Prop :=
  match scope with
  | .org => ∃ other ∈ db.roles, other.name = (.team, value)
  | .team => ∃ other ∈ db.roles, other.name = (.org, value) ∧ other.rank = rank ∧
      ∀ key, ⟨other.id, key⟩ ∉ db.grants

/-- Another role of the first table hides the role from a load: the role of a team with the same
value, or, if the role is one of a team itself, the role of an org that is like it. -/
def Hides (db db' : RoleDb) (row : RoleRow) : Prop :=
  match row.scope with
  | .org => ∃ other ∈ db.roles, other.name = (.team, row.value)
  | .team => ∃ other ∈ db.roles, other.name = (.org, row.value) ∧ Alike db db' other row

/-- A role that is deleted was hidden, or leaves one behind that is like it. -/
def DeletesUnseen (db : RoleDb) (roleID : UUID) : Prop :=
  ∀ row ∈ db.roles, row.id = roleID → row.isSystem = false → db.Hides db row

/-- The second table has one more role. -/
structure Adds (db db' : RoleDb) (row : RoleRow) : Prop where
  mem : ∀ x, x ∈ db'.roles ↔ x = row ∨ x ∈ db.roles
  fresh : ∀ old ∈ db.roles, old.name ≠ row.name
  grants : ∀ old ∈ db.roles, ∀ key, ⟨old.id, key⟩ ∈ db.grants ↔ ⟨old.id, key⟩ ∈ db'.grants

theorem serving_mem (h : db.serving value = some row) : row ∈ db.roles ∧ row.value = value := by
  obtain hfind | ⟨_, hfind⟩ := Option.or_eq_some_iff.mp h
  all_goals
    obtain ⟨hrow, hname⟩ := UniqueTable.findBy_eq_some_iff.mp hfind
    exact ⟨hrow, congrArg Prod.snd hname⟩

theorem Same.symm (h : Same db db' value) : Same db' db value := by
  cases h with
  | none hold hnew => exact .none hnew hold
  | some hold hnew halike =>
    exact .some hnew hold ⟨halike.rank.symm, fun key => (halike.grants key).symm⟩

/-- The same role serves the value. -/
theorem Same.of_serving_eq (hserving : db'.serving value = db.serving value)
    (hgrants : ∀ row ∈ db.roles, ∀ key, ⟨row.id, key⟩ ∈ db.grants ↔ ⟨row.id, key⟩ ∈ db'.grants) :
    Same db db' value := by
  cases hold : db.serving value with
  | none => exact .none hold (hserving.trans hold)
  | some row => exact .some hold (hserving.trans hold) ⟨rfl, hgrants row (serving_mem hold).1⟩

namespace Adds

variable {row : RoleRow} (h : Adds db db' row)

include h

theorem same_iff : (∀ value, Same db db' value) ↔ Hides db db' row := by
  have hvalue : (∀ value, Same db db' value) ↔ Same db db' row.value := by
    refine ⟨fun hsame => hsame row.value, fun hsame value => ?_⟩
    by_cases hne : value = row.value
    · rw [hne]
      exact hsame
    refine .of_serving_eq (serving_congr fun x hx => ?_) h.grants
    rw [h.mem x, or_iff_right]
    rintro rfl
    exact hne hx.symm
  rw [hvalue, Hides]
  cases hscope : row.scope with
  | org =>
    constructor
    · intro hsame
      by_contra hnone
      simp only [not_exists, not_and] at hnone
      have hnone' : ∀ x ∈ db'.roles, x.name ≠ (.team, row.value) := by
        intro x hx hname
        obtain rfl | hold := (h.mem x).mp hx
        · rw [RoleRow.name, hscope] at hname
          cases hname
        · exact hnone x hold hname
      have hname : row.name = (.org, row.value) := by rw [RoleRow.name, hscope]
      have hold : db.serving row.value = none := by
        rw [serving_of_org hnone, ← hname]
        exact findBy_eq_none h.fresh
      have hnew : db'.serving row.value = some row := by
        rw [serving_of_org hnone']
        exact UniqueTable.findBy_eq_some_iff.mpr ⟨(h.mem row).mpr (.inl rfl), hname⟩
      cases hsame with
      | none _ hnew' => cases hnew.symm.trans hnew'
      | some hold' _ _ => cases hold.symm.trans hold'
    · rintro ⟨other, hother, hname⟩
      refine .of_serving_eq ?_ h.grants
      rw [serving_of_team hother hname, serving_of_team ((h.mem other).mpr (.inr hother)) hname]
  | team =>
    have hname : row.name = (.team, row.value) := by rw [RoleRow.name, hscope]
    have hnew : db'.serving row.value = some row :=
      serving_of_team ((h.mem row).mpr (.inl rfl)) hname
    have hold : db.serving row.value = db.roles.findBy (.org, row.value) := by
      refine serving_of_org fun old hmem => ?_
      rw [← hname]
      exact h.fresh old hmem
    constructor
    · intro hsame
      cases hsame with
      | none _ hnew' => cases hnew.symm.trans hnew'
      | some hold' hnew' halike =>
        cases hnew.symm.trans hnew'
        obtain ⟨hother, hname'⟩ := UniqueTable.findBy_eq_some_iff.mp (hold.symm.trans hold')
        exact ⟨_, hother, hname', halike⟩
    · rintro ⟨other, hother, hname', halike⟩
      have hfind := UniqueTable.findBy_eq_some_iff.mpr ⟨hother, hname'⟩
      exact .some (hold.trans hfind) hnew halike

end Adds

theorem same_createRole_iff (h : db.createRole row = some db') :
    (∀ value, Same db db' value) ↔ db.CreatesUnseen row.scope row.value row.rank := by
  obtain ⟨hmem, hgrants, _, hnames⟩ := createRole_eq_some h
  have hadds : Adds db db' row := ⟨hmem, hnames, fun _ _ _ => by rw [hgrants]⟩
  rw [hadds.same_iff]
  unfold Hides CreatesUnseen
  cases row.scope with
  | org => exact Iff.rfl
  | team =>
    refine exists_congr fun other => and_congr_right fun _ => and_congr_right fun _ => ?_
    constructor
    · rintro ⟨hrank, hkeys⟩
      exact ⟨hrank, fun key hgrant => not_granted_of_createRole h key ((hkeys key).mp hgrant)⟩
    · rintro ⟨hrank, hkeys⟩
      exact ⟨hrank, fun key => iff_of_false (hkeys key) (not_granted_of_createRole h key)⟩

theorem mem_deleteRole {x : RoleRow} :
    x ∈ (db.deleteRole roleID).roles ↔ x ∈ db.roles ∧ ¬ (x.id = roleID ∧ x.isSystem = false) := by
  have hmem := @UniqueTable.mem_deleteWhere _ _ _ _ _ db.roles x
    (fun row => row.id = roleID && !row.isSystem)
  rw [← Bool.not_eq_true, Bool.and_eq_true, decide_eq_true_eq, Bool.not_eq_true'] at hmem
  exact hmem

/-- The grants of a role go with it, and the others stay. -/
theorem mem_grants_deleteRole {grant : Grant} :
    grant ∈ (db.deleteRole roleID).grants ↔ grant ∈ db.grants ∧
      ∀ row ∈ db.roles, row.id = roleID ∧ row.isSystem = false → row.id ≠ grant.roleID := by
  refine Table.mem_deleteWhere.trans (and_congr_right fun _ => ?_)
  rw [List.any_eq_false]
  refine forall_congr' fun row => imp_congr_right fun _ => ?_
  rw [Bool.and_eq_true, Bool.and_eq_true, decide_eq_true_eq, decide_eq_true_eq, Bool.not_eq_true',
    not_and]

theorem adds_deleteRole (hrow : row ∈ db.roles) (hsystem : row.isSystem = false) :
    Adds (db.deleteRole row.id) db row := by
  refine ⟨fun x => ?_, fun old hold hname => ?_, fun old hold key => ?_⟩
  · rw [mem_deleteRole]
    constructor
    · intro hx
      by_cases hdeleted : x.id = row.id ∧ x.isSystem = false
      · exact .inl (UniqueTable.eq_of_key_eq hx hrow hdeleted.1)
      · exact .inr ⟨hx, hdeleted⟩
    · rintro (rfl | hx)
      · exact hrow
      · exact hx.1
  · obtain ⟨hold, hkept⟩ := mem_deleteRole.mp hold
    obtain rfl := UniqueTable.eq_of_column_eq hold hrow hname
    exact hkept ⟨rfl, hsystem⟩
  · obtain ⟨hold, hkept⟩ := mem_deleteRole.mp hold
    rw [mem_grants_deleteRole, and_iff_left]
    intro other hother hdeleted hid
    obtain rfl := UniqueTable.eq_of_key_eq hother hold hid
    exact hkept hdeleted

theorem hides_deleteRole_iff (hrow : row ∈ db.roles) (hsystem : row.isSystem = false) :
    Hides (db.deleteRole row.id) db row ↔ db.DeletesUnseen row.id := by
  have hadds := adds_deleteRole hrow hsystem
  have hother (other : RoleRow) (hne : other.name ≠ row.name) :
      other ∈ (db.deleteRole row.id).roles ↔ other ∈ db.roles := by
    rw [hadds.mem other, or_iff_right]
    rintro rfl
    exact hne rfl
  have honly : db.DeletesUnseen row.id ↔ db.Hides db row := by
    constructor
    · intro hunseen
      exact hunseen row hrow rfl hsystem
    · intro hrest row' hrow' hid _
      obtain rfl := UniqueTable.eq_of_key_eq hrow' hrow hid
      exact hrest
  rw [honly]
  unfold Hides
  cases hscope : row.scope with
  | org =>
    refine exists_congr fun other => and_congr_left fun hname => hother other ?_
    rw [hname, RoleRow.name, hscope]
    simp
  | team =>
    refine exists_congr fun other => ?_
    by_cases hname : other.name = (.org, row.value)
    · have hmem := hother other (by rw [hname, RoleRow.name, hscope]; simp)
      rw [hmem]
      refine and_congr_right fun hold => and_congr_right fun _ => ?_
      -- Only the grants of the first role matter of the first table.
      have h := hadds.grants other (hmem.mpr hold)
      constructor
      · rintro ⟨hrank, hgrants⟩
        exact ⟨hrank, fun key => (h key).symm.trans (hgrants key)⟩
      · rintro ⟨hrank, hgrants⟩
        exact ⟨hrank, fun key => (h key).trans (hgrants key)⟩
    · exact iff_of_false (fun hhidden => hname hhidden.2.1) fun hhidden => hname hhidden.2.1

theorem same_deleteRole_iff (db : RoleDb) (roleID : UUID) :
    (∀ value, Same db (db.deleteRole roleID) value) ↔ db.DeletesUnseen roleID := by
  by_cases hexists : ∃ row ∈ db.roles, row.id = roleID ∧ row.isSystem = false
  · obtain ⟨row, hrow, rfl, hsystem⟩ := hexists
    rw [← hides_deleteRole_iff hrow hsystem, ← (adds_deleteRole hrow hsystem).same_iff]
    exact ⟨fun hsame value => (hsame value).symm, fun hsame value => (hsame value).symm⟩
  -- nothing is deleted
  simp only [not_exists, not_and] at hexists
  refine iff_of_true (fun value => ?_) fun row hrow hid hsystem =>
    absurd hsystem (hexists row hrow hid)
  refine .of_serving_eq (serving_congr fun row _ => ?_) fun _ _ key => ?_
  · rw [mem_deleteRole, and_iff_left_iff_imp]
    exact fun hrow hdeleted => hexists row hrow hdeleted.1 hdeleted.2
  · rw [mem_grants_deleteRole, and_iff_left]
    exact fun row hrow hdeleted => absurd hdeleted.2 (hexists row hrow hdeleted.1)

/-! ## System roles -/

/-- Every system role of the first table is in the second, at least by its name. -/
def Keeps (db db' : RoleDb) : Prop :=
  ∀ row ∈ db.roles, row.isSystem = true →
    ∃ row' ∈ db'.roles, row'.name = row.name ∧ row'.isSystem = true

theorem Keeps.trans (h : db.Keeps db') (h' : db'.Keeps db'') : db.Keeps db'' := by
  intro row hrow hsystem
  obtain ⟨row', hrow', hname, hsystem'⟩ := h row hrow hsystem
  obtain ⟨row'', hrow'', hname', hsystem''⟩ := h' row' hrow' hsystem'
  exact ⟨row'', hrow'', hname'.trans hname, hsystem''⟩

theorem keeps_of_mem (h : ∀ row ∈ db.roles, row.isSystem = true → row ∈ db'.roles) :
    db.Keeps db' :=
  fun row hrow hsystem => ⟨row, h row hrow hsystem, rfl, hsystem⟩

theorem keeps_updateRole (db : RoleDb) (roleID : UUID) (label description : String) :
    db.Keeps (db.updateRole roleID label description) := by
  intro row hrow hsystem
  refine ⟨afterUpdate roleID label description row, mem_updateRole.mpr ⟨row, hrow, rfl⟩,
    (afterUpdate_eq ..).2.1, ?_⟩
  unfold afterUpdate
  split
  · exact hsystem
  · exact hsystem

theorem keeps_deleteRole (db : RoleDb) (roleID : UUID) : db.Keeps (db.deleteRole roleID) := by
  refine keeps_of_mem fun row hrow hsystem => mem_deleteRole.mpr ⟨hrow, fun hdeleted => ?_⟩
  rw [hsystem] at hdeleted
  cases hdeleted.2

theorem roles_insertGrant (h : db.insertGrant roleID key = some db') : db'.roles = db.roles := by
  unfold insertGrant at h
  split at h
  · rw [← Option.some.inj h]
  split at h
  · split at h
    · cases h
    · rw [← Option.some.inj h]
  · cases h

theorem roles_insertGrants (db : RoleDb) (roleID : UUID) (keys : List String) :
    (db.insertGrants roleID keys).2.roles = db.roles := by
  induction keys generalizing db with
  | nil => rfl
  | cons key keys ih =>
    cases hinsert : db.insertGrant roleID key with
    | none => simp only [insertGrants, hinsert]
    | some next =>
      simp only [insertGrants, hinsert]
      exact (ih next).trans (roles_insertGrant hinsert)

theorem keeps_setRolePermissions (db : RoleDb) (roleID : UUID) (keys : List String) :
    db.Keeps (db.setRolePermissions roleID keys).2 := by
  refine keeps_of_mem fun row hrow _ => ?_
  rw [setRolePermissions, roles_insertGrants]
  exact hrow

end RoleDb

end BurnerByte.Rbac
