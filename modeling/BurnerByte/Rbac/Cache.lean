import Mathlib.Data.List.Dedup
import Mathlib.Logic.Function.Basic

/-!
# The permission cache

Roles live in two scopes, `org` and `team`, and a role value may exist in both:
the table only keeps a value unique within its scope. The cache is keyed by the
value alone. It is filled by the org roles first and by the team roles second,
so an entry of the cache belongs to the team role of its value if there is one.
-/

namespace BurnerByte.Rbac

inductive Scope where
  | org
  | team
  deriving DecidableEq

def Scope.name : Scope → String
  | .org => "org"
  | .team => "team"

structure Role where
  value : String
  rank : Int
  permissions : List String

/-- The two maps of the cache, from role values to permission sets and to ranks. -/
structure PermissionCache where
  permissions : String → Option (List String)
  ranks : String → Option Int

namespace PermissionCache

def empty : PermissionCache where
  permissions _ := none
  ranks _ := none

/-- The two map assignments of the inner loop of `load`. -/
def put (pc : PermissionCache) (role : Role) : PermissionCache where
  permissions := Function.update pc.permissions role.value (some role.permissions)
  ranks := Function.update pc.ranks role.value (some role.rank)

/-- Build the cache from a repository, scope after scope. -/
def load (listRoles : Scope → Except String (List Role)) : Except String PermissionCache :=
  [Scope.org, Scope.team].foldlM (fun pc scope =>
    match listRoles scope with
    | .ok roles => .ok (roles.foldl put pc)
    | .error err => .error ("failed to list " ++ scope.name ++ " roles: " ++ err)) empty

def hasPermission (pc : PermissionCache) (roleValue permissionKey : String) : Bool :=
  match pc.permissions roleValue with
  | some permSet => permSet.contains permissionKey
  | none => false

/-- The rank of a role value, or 0 if it is not found. -/
def getRank (pc : PermissionCache) (roleValue : String) : Int := (pc.ranks roleValue).getD 0

def hasRole (pc : PermissionCache) (roleValue : String) : Bool :=
  (pc.permissions roleValue).isSome

theorem foldl_put_of_not_mem (pc : PermissionCache) {roles : List Role} {value : String}
    (h : value ∉ roles.map Role.value) :
    (roles.foldl put pc).permissions value = pc.permissions value ∧
      (roles.foldl put pc).ranks value = pc.ranks value := by
  induction roles generalizing pc with
  | nil => exact ⟨rfl, rfl⟩
  | cons role roles ih =>
    simp only [List.map_cons, List.mem_cons, not_or] at h
    obtain ⟨hperm, hrank⟩ := ih (pc.put role) h.2
    rw [List.foldl_cons, hperm, hrank]
    exact ⟨Function.update_of_ne h.1 .., Function.update_of_ne h.1 ..⟩

theorem foldl_put_of_mem (pc : PermissionCache) {roles : List Role} {role : Role}
    (hunique : (roles.map Role.value).Nodup) (h : role ∈ roles) :
    (roles.foldl put pc).permissions role.value = some role.permissions ∧
      (roles.foldl put pc).ranks role.value = some role.rank := by
  induction roles generalizing pc with
  | nil => cases h
  | cons first roles ih =>
    rw [List.map_cons, List.nodup_cons] at hunique
    rcases List.mem_cons.mp h with rfl | h
    · obtain ⟨hperm, hrank⟩ := foldl_put_of_not_mem (pc.put role) hunique.1
      rw [List.foldl_cons, hperm, hrank]
      exact ⟨Function.update_self .., Function.update_self ..⟩
    · exact ih (pc.put first) hunique.2 h

end PermissionCache

/-! ## Role tables -/

/-- The `roles` table with its permissions, unique by scope and value. -/
structure RoleTable where
  roles : Scope → List Role
  unique : ∀ scope, ((roles scope).map Role.value).Nodup

namespace RoleTable

variable (t : RoleTable)

/-- The role value exists in the scope. -/
def Has (scope : Scope) (value : String) : Prop := value ∈ (t.roles scope).map Role.value

/-- The role value is granted the permission in the scope. -/
def Granted (scope : Scope) (value key : String) : Prop :=
  ∃ role ∈ t.roles scope, role.value = value ∧ key ∈ role.permissions

/-- The rank of the role value in the scope, and 0 if it does not exist there. -/
def rank (scope : Scope) (value : String) : Int :=
  match (t.roles scope).find? fun role => role.value = value with
  | some role => role.rank
  | none => 0

/-- The cache loaded from the table. -/
def cache : PermissionCache :=
  (t.roles .team).foldl .put ((t.roles .org).foldl .put .empty)

theorem load_eq : PermissionCache.load (fun scope => .ok (t.roles scope)) = .ok t.cache := rfl

/-- Go's `len(key) > 5 && key[:5] == "team."`. -/
def isTeamKey (key : String) : Bool :=
  decide (5 < key.utf8ByteSize) && "team.".toList.isPrefixOf key.toList

/-- The team permissions in the cache, whose entries are those of the table's role values. -/
def teamPermissionKeys : List String :=
  (((t.roles .org ++ t.roles .team).map Role.value).flatMap fun value =>
    ((t.cache.permissions value).getD []).filter isTeamKey).dedup

variable {t}

variable {scope : Scope} {value : String}

theorem rank_of_mem {role : Role} (h : role ∈ t.roles scope) :
    t.rank scope role.value = role.rank := by
  unfold rank
  cases hfind : (t.roles scope).find? fun r => r.value = role.value with
  | none => simpa using List.find?_eq_none.mp hfind role h
  | some found =>
    have hvalue : found.value = role.value := by simpa using List.find?_some hfind
    exact congrArg Role.rank
      (List.inj_on_of_nodup_map (t.unique scope) (List.mem_of_find?_eq_some hfind) h hvalue)

theorem rank_of_not_has (h : ¬ t.Has scope value) : t.rank scope value = 0 := by
  have hfind : ((t.roles scope).find? fun r => r.value = value) = none := by
    apply List.find?_eq_none.mpr
    intro role hrole hvalue
    apply h
    exact List.mem_map.mpr ⟨role, hrole, by simpa using hvalue⟩
  simp only [rank, hfind]

theorem not_granted_of_not_has (h : ¬ t.Has scope value) (key : String) :
    ¬ t.Granted scope value key := by
  rintro ⟨role, hrole, hvalue, _⟩
  exact h (List.mem_map.mpr ⟨role, hrole, hvalue⟩)

theorem granted_of_mem {role : Role} (h : role ∈ t.roles scope) (key : String) :
    t.Granted scope role.value key ↔ key ∈ role.permissions := by
  constructor
  · rintro ⟨other, hother, hvalue, hkey⟩
    rwa [← List.inj_on_of_nodup_map (t.unique scope) hother h hvalue]
  · intro hkey
    exact ⟨role, h, rfl, hkey⟩

/-- The scope whose role an entry of the cache belongs to. -/
def cachedScope (t : RoleTable) (value : String) : Scope :=
  if value ∈ (t.roles .team).map Role.value then .team else .org

theorem cachedScope_of_has (h : t.Has .team value) : t.cachedScope value = .team := if_pos h

theorem cachedScope_of_not_has (h : ¬ t.Has .team value) : t.cachedScope value = .org := if_neg h

/-- An entry of the cache is the role of its scope; without a role there is none. -/
theorem cache_entry (t : RoleTable) (value : String) :
    (∃ role ∈ t.roles (t.cachedScope value), role.value = value ∧
        t.cache.permissions value = some role.permissions ∧
        t.cache.ranks value = some role.rank) ∨
      ¬ t.Has (t.cachedScope value) value ∧ t.cache.permissions value = none ∧
        t.cache.ranks value = none := by
  by_cases hteam : t.Has .team value
  · obtain ⟨role, hrole, rfl⟩ := List.mem_map.mp hteam
    obtain ⟨hperm, hrank⟩ := PermissionCache.foldl_put_of_mem
      ((t.roles .org).foldl .put .empty) (t.unique .team) hrole
    exact .inl ⟨role, by rwa [cachedScope_of_has hteam], rfl, hperm, hrank⟩
  obtain ⟨hperm, hrank⟩ := PermissionCache.foldl_put_of_not_mem
    ((t.roles .org).foldl .put .empty) hteam
  rw [cachedScope_of_not_has hteam]
  by_cases horg : t.Has .org value
  · obtain ⟨role, hrole, rfl⟩ := List.mem_map.mp horg
    obtain ⟨hperm', hrank'⟩ := PermissionCache.foldl_put_of_mem .empty (t.unique .org) hrole
    exact .inl ⟨role, hrole, rfl, hperm.trans hperm', hrank.trans hrank'⟩
  · obtain ⟨hperm', hrank'⟩ := PermissionCache.foldl_put_of_not_mem .empty horg
    exact .inr ⟨horg, hperm.trans hperm', hrank.trans hrank'⟩

/-- The cache answers for the cached scope, whatever scope is asked about. -/
theorem hasPermission_cache (t : RoleTable) (value key : String) :
    t.cache.hasPermission value key = true ↔ t.Granted (t.cachedScope value) value key := by
  unfold PermissionCache.hasPermission
  rcases t.cache_entry value with ⟨role, hrole, rfl, hperm, _⟩ | ⟨hno, hperm, _⟩
  · rw [hperm, granted_of_mem hrole]
    simp
  · rw [hperm]
    exact iff_of_false (by simp) (not_granted_of_not_has hno key)

theorem getRank_cache (t : RoleTable) (value : String) :
    t.cache.getRank value = t.rank (t.cachedScope value) value := by
  unfold PermissionCache.getRank
  rcases t.cache_entry value with ⟨role, hrole, rfl, _, hrank⟩ | ⟨hno, _, hrank⟩
  · rw [hrank, rank_of_mem hrole, Option.getD_some]
  · rw [hrank, rank_of_not_has hno, Option.getD_none]

end RoleTable

end BurnerByte.Rbac
