import BurnerByte.Rbac.RoleCoherence
import BurnerByte.Teams.Members

/-!
# Roles that can be assigned

A role can be assigned in a scope if it exists there and the memberships of the scope can store it.
The columns of the memberships are restricted to the built-in roles. The two validators ask the
cache, which knows a value without its scope, and knows nothing of the columns. So they are right
about the values that their column can store, and about the values that are no role at all.
-/

namespace BurnerByte.Rbac

open Sql

/-- The values that the memberships of a scope can store, which are its built-in roles. -/
def storable : Scope → List String
  | .org => orgRoles
  | .team => teamRoles

namespace RoleDb

def Has (db : RoleDb) (scope : Scope) (value : String) : Prop :=
  ∃ row ∈ db.roles, row.name = (scope, value)

/-- The built-in roles exist, as system roles. -/
def Seeded (db : RoleDb) : Prop :=
  ∀ scope, ∀ value ∈ storable scope, ∃ row ∈ db.roles,
    row.name = (scope, value) ∧ row.isSystem = true

theorem Seeded.keeps {db db' : RoleDb} (h : db.Seeded) (hkeeps : db.Keeps db') : db'.Seeded := by
  intro scope value hvalue
  obtain ⟨row, hrow, hname, hsystem⟩ := h scope value hvalue
  obtain ⟨row', hrow', hname', hsystem'⟩ := hkeeps row hrow hsystem
  exact ⟨row', hrow', hname'.trans hname, hsystem'⟩

theorem Seeded.has {db : RoleDb} (h : db.Seeded) {scope : Scope} {value : String}
    (hvalue : value ∈ storable scope) : db.Has scope value := by
  obtain ⟨row, hrow, hname, _⟩ := h scope value hvalue
  exact ⟨row, hrow, hname⟩

/-- The cache knows the roles of both scopes. -/
theorem hasRole_cache_iff (db : RoleDb) (value : String) :
    db.table.cache.hasRole value = true ↔ ∃ row ∈ db.roles, row.value = value := by
  rw [hasRole_cache, Option.isSome_iff_exists]
  constructor
  · rintro ⟨row, hserving⟩
    exact ⟨row, serving_mem hserving⟩
  · rintro ⟨row, hrow, rfl⟩
    have hfind := UniqueTable.findBy_eq_some_iff.mpr ⟨hrow, rfl⟩
    rw [RoleRow.name] at hfind
    unfold serving
    cases hteam : db.roles.findBy (.team, row.value) with
    | some other => exact ⟨other, Option.some_or⟩
    | none =>
      cases hscope : row.scope with
      | team =>
        rw [hscope, hteam] at hfind
        cases hfind
      | org =>
        rw [hscope] at hfind
        exact ⟨row, by rw [Option.none_or, hfind]⟩

end RoleDb

/-- The built-in roles are there, now and when the cache was loaded. -/
structure RoleState.Stocked (s : RoleState) : Prop where
  db : s.db.Seeded
  loaded : s.loaded.Seeded
  cache : s.cache = s.loaded.table.cache

namespace RoleState

theorem stocked_step (s : RoleState) (request : RoleRequest) (h : s.Stocked) :
    (s.step request).Stocked := by
  have heffect := s.handle_effect request
  unfold step
  generalize s.handle request = result at heffect
  cases heffect with
  | failed err => exact h
  | refreshed hkeeps _ => exact ⟨h.db.keeps hkeeps, h.db.keeps hkeeps, rfl⟩
  | torn err hkeeps | silent hkeeps _ _ => exact ⟨h.db.keeps hkeeps, h.loaded, h.cache⟩

/-- The value is accepted exactly if it is a role of the scope that a membership can store. -/
def Exact (s : RoleState) (scope : Scope) (value : String) (valid : Bool) : Prop :=
  valid = true ↔ s.db.Has scope value ∧ value ∈ storable scope

theorem exact_iff {s : RoleState} (h : s.Stocked) (scope : Scope) (value : String) :
    s.Exact scope value (s.cache.hasRole value) ↔
      value ∈ storable scope ∨ ∀ row ∈ s.loaded.roles, row.value ≠ value := by
  unfold Exact
  rw [h.cache, RoleDb.hasRole_cache_iff]
  by_cases hvalue : value ∈ storable scope
  · obtain ⟨row, hrow, hname⟩ := h.loaded.has hvalue
    have hknown : ∃ row ∈ s.loaded.roles, row.value = value :=
      ⟨row, hrow, congrArg Prod.snd hname⟩
    exact iff_of_true (iff_of_true hknown ⟨h.db.has hvalue, hvalue⟩) (.inl hvalue)
  constructor
  · intro hexact
    exact .inr fun row hrow hknown => hvalue (hexact.mp ⟨row, hrow, hknown⟩).2
  · rintro (hstorable | hunknown)
    · exact absurd hstorable hvalue
    · exact iff_of_false (fun ⟨row, hrow, hknown⟩ => hunknown row hrow hknown)
        fun hassignable => hvalue hassignable.2

/-- The state after some requests to a process that found the tables at its start. -/
def after (db : RoleDb) (requests : List RoleRequest) : RoleState :=
  Trace.run step (boot db) requests

/-- A validator is right about the values that its column can store, and about those that were no
role of either scope when the cache was loaded. -/
theorem validators_exact_iff {db : RoleDb} (h : db.Seeded) (requests : List RoleRequest)
    (orgEnv : Org.Env) (teamEnv : Teams.Env) (value : String) :
    ((after db requests).Exact .org value
        (Org.validOrgRole { orgEnv with cache := (after db requests).cache } value) ↔
      value ∈ orgRoles ∨ ∀ row ∈ (after db requests).loaded.roles, row.value ≠ value) ∧
    ((after db requests).Exact .team value
        (Teams.validTeamRole { teamEnv with cache := (after db requests).cache } value) ↔
      value ∈ teamRoles ∨ ∀ row ∈ (after db requests).loaded.roles, row.value ≠ value) := by
  have hstocked : (after db requests).Stocked :=
    @Trace.run_induct _ _ step Stocked stocked_step _ ⟨h, h, rfl⟩ requests
  exact ⟨exact_iff hstocked .org value, exact_iff hstocked .team value⟩

theorem seeded_seededRoles : seededRoles.Seeded := by
  intro scope
  cases scope with
  | _ => decide

/-- Members and strangers to both tables are told apart. -/
theorem member_and_stranger_exact :
    seededRoles.Seeded ∧ ∀ (orgEnv : Org.Env) (teamEnv : Teams.Env),
      (after seededRoles []).Exact .org "member"
        (Org.validOrgRole { orgEnv with cache := (after seededRoles []).cache } "member") ∧
      (after seededRoles []).Exact .team "auditor"
        (Teams.validTeamRole { teamEnv with cache := (after seededRoles []).cache } "auditor") := by
  refine ⟨seeded_seededRoles, fun orgEnv teamEnv => ⟨?_, ?_⟩⟩
  · exact (validators_exact_iff seeded_seededRoles [] orgEnv teamEnv "member").1.mpr
      (.inl member_mem_orgRoles)
  · exact (validators_exact_iff seeded_seededRoles [] orgEnv teamEnv "auditor").2.mpr
      (.inr (by decide))

/-- The auditor of teams is accepted for orgs, too, and can be stored in neither; the owner of an
org is accepted for teams. -/
theorem auditor_and_owner_accepted :
    (after seededRoles [.create 6 true (some auditor)]).db.Has .team "auditor" ∧
      ∀ (orgEnv : Org.Env) (teamEnv : Teams.Env),
        ¬ (after seededRoles [.create 6 true (some auditor)]).Exact .org "auditor"
          (Org.validOrgRole
            { orgEnv with cache := (after seededRoles [.create 6 true (some auditor)]).cache }
            "auditor") ∧
        ¬ (after seededRoles [.create 6 true (some auditor)]).Exact .team "auditor"
          (Teams.validTeamRole
            { teamEnv with cache := (after seededRoles [.create 6 true (some auditor)]).cache }
            "auditor") ∧
        ¬ (after seededRoles []).Exact .team "owner"
          (Teams.validTeamRole { teamEnv with cache := (after seededRoles []).cache } "owner") := by
  have hauditor : (after seededRoles [.create 6 true (some auditor)]).cache.hasRole "auditor" =
      true := by
    decide +kernel
  have howner : (after seededRoles []).cache.hasRole "owner" = true := by decide +kernel
  refine ⟨⟨⟨6, .team, "auditor", "Auditor", "", 1, false⟩, by decide +kernel, rfl⟩,
    fun orgEnv teamEnv => ⟨fun h => ?_, fun h => ?_, fun h => ?_⟩⟩
  · exact absurd (h.mp hauditor).2 (by decide)
  · exact absurd (h.mp hauditor).2 (by decide)
  · exact absurd (h.mp howner).2 (by decide)

end RoleState

end BurnerByte.Rbac
