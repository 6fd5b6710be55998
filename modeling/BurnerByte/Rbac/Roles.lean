import BurnerByte.Core.References
import BurnerByte.Handler.Checks

/-!
# Role management

A system admin creates, changes and deletes roles. The roles, the permissions and which role is
granted which permission are three tables. The statements of a request are not one transaction:
where a grant is refused, the grants before it stay. The permission cache is loaded when the
process starts, and again by requests that set permissions.

That the values of a request fit their columns is part of the request: the database refuses a text
that is too long or a number that is too large.
-/

namespace BurnerByte.Rbac

open Handler Sql

/-! ## Tables -/

structure RoleRow where
  id : UUID
  scope : Scope
  value : String
  label : String
  description : String
  rank : Int
  isSystem : Bool
  deriving DecidableEq

/-- The columns `scope` and `value`, which are unique together. -/
def RoleRow.name (row : RoleRow) : Scope × String := (row.scope, row.value)

/-- A row of `role_permissions`, with the key of the permission. -/
structure Grant where
  roleID : UUID
  key : String
  deriving DecidableEq

structure RoleDb where
  roles : UniqueTable RoleRow UUID (Scope × String) RoleRow.id RoleRow.name
  permissions : List String
  grants : Table Grant Grant id
  references : References grants.rows Grant.roleID roles.toTable

namespace RoleDb

def getRolePermissions (db : RoleDb) (roleID : UUID) : List String :=
  (db.grants.rows.filter fun grant => grant.roleID = roleID).map Grant.key

/-- The roles of a scope. They come by rank, which makes no difference to the maps of the cache. -/
def listRoles (db : RoleDb) (scope : Scope) : List Role :=
  (db.roles.rows.filter fun row => row.scope = scope).map fun row =>
    ⟨row.value, row.rank, db.getRolePermissions row.id⟩

theorem listRoles_unique (db : RoleDb) (scope : Scope) :
    ((db.listRoles scope).map Role.value).Nodup := by
  have hnames := db.roles.distinct.sublist
    ((List.filter_sublist (p := fun row : RoleRow => row.scope = scope)).map RoleRow.name)
  have hvalues : (db.listRoles scope).map Role.value =
      (db.roles.rows.filter fun row => row.scope = scope).map RoleRow.value := by
    rw [listRoles, List.map_map]
    rfl
  rw [hvalues]
  refine List.Nodup.of_map (fun value => (scope, value)) ?_
  rw [List.map_map]
  have hcongr : (db.roles.rows.filter fun row => row.scope = scope).map RoleRow.name =
      (db.roles.rows.filter fun row => row.scope = scope).map
        ((fun value => (scope, value)) ∘ RoleRow.value) := by
    refine List.map_congr_left fun row hrow => ?_
    have hscope : row.scope = scope := by simpa using (List.mem_filter.mp hrow).2
    rw [RoleRow.name, hscope]
    rfl
  rw [← hcongr]
  exact hnames

/-- What a load of the cache reads. -/
def table (db : RoleDb) : RoleTable := ⟨db.listRoles, db.listRoles_unique⟩

/-! ## Statements -/

def renamed (label description : String) (row : RoleRow) : RoleRow :=
  { row with label, description }

theorem id_renamed (label description : String) (row : RoleRow) :
    (renamed label description row).id = row.id := rfl

theorem name_renamed (label description : String) (row : RoleRow) :
    (renamed label description row).name = row.name := rfl

def updateRole (db : RoleDb) (roleID : UUID) (label description : String) : RoleDb where
  roles := db.roles.updateWhere (fun row => row.id = roleID) (renamed label description)
    (id_renamed label description) (name_renamed label description)
  permissions := db.permissions
  grants := db.grants
  references := db.references.update_unique_parents _ _ (id_renamed label description)
    (name_renamed label description)

def createRole (db : RoleDb) (row : RoleRow) : Option RoleDb :=
  match hinsert : db.roles.insert row with
  | none => none
  | some roles => some { db with
      roles := roles
      references := db.references.of_parent_mem (UniqueTable.mem_insert hinsert) }

/-- System roles stay. The grants of a role go with it. -/
def deleteRole (db : RoleDb) (roleID : UUID) : RoleDb where
  roles := db.roles.deleteWhere fun row => row.id = roleID && !row.isSystem
  permissions := db.permissions
  grants := db.grants.deleteWhere fun grant => db.roles.rows.any fun row =>
    (row.id = roleID && !row.isSystem) && row.id = grant.roleID
  references := db.references.deleteWhere fun _ _ _ hparent hkey hdeleted =>
    any_parent hparent hdeleted hkey

def deleteGrants (db : RoleDb) (roleID : UUID) : RoleDb where
  roles := db.roles
  permissions := db.permissions
  grants := db.grants.deleteWhere fun grant => grant.roleID = roleID
  references := db.references.filter _

/-- A key that is no permission is passed over. A role that does not exist, or has the permission
already, violates a constraint. -/
def insertGrant (db : RoleDb) (roleID : UUID) (key : String) : Option RoleDb :=
  if key ∉ db.permissions then some db
  else if hrole : ∃ row ∈ db.roles, row.id = roleID then
    match hinsert : db.grants.insert ⟨roleID, key⟩ with
    | none => none
    | some grants => some { db with
        grants := grants
        references := db.references.of_mem hrole (Table.insert_eq_some hinsert).2 }
  else none

/-- Whether all grants were inserted, and the tables as they are then. -/
def insertGrants (db : RoleDb) (roleID : UUID) : List String → Bool × RoleDb
  | [] => (true, db)
  | key :: keys =>
    match db.insertGrant roleID key with
    | none => (false, db)
    | some db => db.insertGrants roleID keys

def setRolePermissions (db : RoleDb) (roleID : UUID) (keys : List String) : Bool × RoleDb :=
  (db.deleteGrants roleID).insertGrants roleID keys

end RoleDb

/-! ## Requests -/

/-- The tables, and the cache of the process. For the record, also the tables from which the cache
was loaded, and whether an update has since failed while it set permissions. -/
structure RoleState where
  db : RoleDb
  cache : PermissionCache
  loaded : RoleDb
  torn : Bool

namespace RoleState

def refreshCache (s : RoleState) : RoleState :=
  { s with cache := s.db.table.cache, loaded := s.db, torn := false }

/-- The start of the process. -/
def boot (db : RoleDb) : RoleState := ⟨db, db.table.cache, db, false⟩

end RoleState

/-- Permissions that are missing are not set. -/
structure UpdateRoleInput where
  label : String
  description : String
  permissions : Option (List String)

structure CreateRoleInput where
  scope : String
  value : String
  label : String
  description : String
  rank : Int
  permissions : List String

inductive RoleRequest where
  | update (roleID : Option UUID) (fits : Bool) (body : Option UpdateRoleInput)
  | create (roleID : UUID) (fits : Bool) (body : Option CreateRoleInput)
  | delete (roleID : Option UUID)

def parseScope (scope : String) : Option Scope :=
  if scope = "org" then some .org else if scope = "team" then some .team else none

namespace RoleState

def updateRole (s : RoleState) (roleID : UUID) (fits : Bool) (input : UpdateRoleInput) :
    Except HttpError Unit × RoleState :=
  if (input.label ≠ "" ∨ input.description ≠ "") ∧ !fits then
    (.error ⟨500, "failed to update role"⟩, s)
  else
    let db := if input.label ≠ "" ∨ input.description ≠ ""
      then s.db.updateRole roleID input.label input.description else s.db
    match input.permissions with
    | none => (.ok (), { s with db })
    | some keys =>
      let (done, db) := db.setRolePermissions roleID keys
      if !done then (.error ⟨500, "failed to update permissions"⟩, { s with db, torn := true })
      else (.ok (), { s with db }.refreshCache)

def createRole (s : RoleState) (roleID : UUID) (fits : Bool) (input : CreateRoleInput) :
    Except HttpError Unit × RoleState :=
  match parseScope input.scope with
  | none => (.error (badRequest "scope must be org or team"), s)
  | some scope =>
    if input.value = "" ∨ input.label = "" then
      (.error (badRequest "value and label are required"), s)
    else
      let row := ⟨roleID, scope, input.value, input.label, input.description, input.rank, false⟩
      match if fits then s.db.createRole row else none with
      | none => (.error (badRequest "failed to create role (value may already exist)"), s)
      | some db =>
        if input.permissions = [] then (.ok (), { s with db })
        -- an error is ignored here
        else
          (.ok (), { s with db := (db.setRolePermissions roleID input.permissions).2 }.refreshCache)

def handle (s : RoleState) : RoleRequest → Except HttpError Unit × RoleState
  | .update none _ _ => (.error (badRequest "invalid role ID"), s)
  | .update _ _ none => (.error (badRequest "invalid request body"), s)
  | .update (some roleID) fits (some input) => s.updateRole roleID fits input
  | .create _ _ none => (.error (badRequest "invalid request body"), s)
  | .create roleID fits (some input) => s.createRole roleID fits input
  | .delete none => (.error (badRequest "invalid role ID"), s)
  | .delete (some roleID) => (.ok (), { s with db := s.db.deleteRole roleID })

def step (s : RoleState) (request : RoleRequest) : RoleState := (s.handle request).2

end RoleState

end BurnerByte.Rbac
