import BurnerByte.Core.Table
import BurnerByte.Core.Trace
import BurnerByte.Handler.Checks

/-!
# Teams, domains and their assignments

The tables that say which team may use which domain, and every request that
writes them. `assignDomain` and `unassign` are modelled in full, from the route to
the tables. The other requests are modelled by what they do to the tables; the
checks that only refuse some of them are left out, so the states reached here
include all states the service reaches.

Memberships and roles change through other requests. A request therefore brings
the checker it is decided by.
-/

namespace BurnerByte.Tenancy

open Sql Handler Rbac

structure Team where
  id : UUID
  orgID : UUID
  isArchived : Bool

structure Domain where
  id : UUID
  orgID : UUID
  mxVerified : Bool
  txtVerified : Bool
  deriving DecidableEq

def accessLevels : List String := ["full", "create_inbox", "read_only"]

structure Assignment where
  id : UUID
  teamID : UUID
  domainID : UUID
  accessLevel : String
  assignedBy : Option UUID
  deriving DecidableEq

structure Inbox where
  id : UUID
  assignmentID : UUID
  isActive : Bool

structure Db where
  orgs : Table UUID UUID id
  teams : Table Team UUID Team.id
  domains : Table Domain UUID Domain.id
  assignments : Table Assignment UUID Assignment.id
  inboxes : Table Inbox UUID Inbox.id
  setupCompleted : Bool
  /-- The calls of `CreateOrg` that have found no org, by the org that they will insert. -/
  creating : List UUID

namespace Db

def empty : Db := ⟨.empty, .empty, .empty, .empty, .empty, false, []⟩

/-- Delete assignments, and with them the inboxes that refer to them. -/
def deleteAssignments (db : Db) (p : Assignment → Bool) : Db :=
  { db with
    assignments := db.assignments.deleteWhere p
    inboxes := db.inboxes.deleteWhere fun inbox =>
      db.assignments.rows.any fun a => p a && a.id = inbox.assignmentID }

/-- Insert an assignment. Its team and its domain must exist, and the team must not
have the domain yet. -/
def createAssignment (db : Db) (a : Assignment) : Except RepoError Db :=
  if (db.teams.find? a.teamID).isNone || (db.domains.find? a.domainID).isNone then
    .error (.other "create assignment: foreign key violation")
  else if db.assignments.rows.any fun b => b.teamID = a.teamID && b.domainID = a.domainID then
    .error .conflict
  else
    match db.assignments.insert a with
    | none => .error .conflict
    | some assignments => .ok { db with assignments }

/-- The assignment of a domain to a team, joined with the domain. -/
def getByTeamAndDomain (db : Db) (teamID domainID : UUID) : Option Assignment :=
  db.assignments.rows.find? fun a =>
    a.teamID = teamID && a.domainID = domainID && (db.domains.find? a.domainID).isSome

def countActiveByAssignment (db : Db) (assignmentID : UUID) : Nat :=
  (db.inboxes.rows.filter fun inbox => inbox.assignmentID = assignmentID && inbox.isActive).length

end Db

/-! ## Assigning and unassigning -/

/-- The body of an assignment request. `domainID` is what `uuid.Parse` makes of it. -/
structure CreateAssignmentInput where
  domainID : Option UUID
  accessLevel : String

section

variable (route : Route) (db : Db)

/-- The service's `AssignDomain`. -/
def assignDomain (teamID : UUID) (input : CreateAssignmentInput)
    (assignedBy orgID newID : UUID) : Except String Db :=
  if input.accessLevel ∉ accessLevels then
    .error ("invalid access_level: " ++ input.accessLevel)
  else
    match input.domainID with
    | none => .error "invalid domain_id"
    | some domainID =>
      match db.domains.find? domainID with
      | none => .error "domain not found"
      | some d =>
        if !d.mxVerified || !d.txtVerified then
          .error "domain must have both MX and TXT records verified before assignment"
        else if d.orgID ≠ orgID then .error "domain does not belong to this organization"
        else
          match db.createAssignment
              { id := newID, teamID := teamID, domainID := domainID
                accessLevel := input.accessLevel, assignedBy := some assignedBy } with
          | .ok db' => .ok db'
          | .error .conflict => .error "domain already assigned to this team"
          | .error err => .error err.message

/-- The service's `Unassign`. -/
def unassign (teamID domainID : UUID) : Except RepoError Db :=
  match db.getByTeamAndDomain teamID domainID with
  | none => .error .notFound
  | some a => .ok (db.deleteAssignments fun b => b.id = a.id)

/-- A request to the assignment routes: who calls, and the path parameters as
`uuid.Parse` reads them. A bad org id is read as the nil id. -/
structure Route where
  checker : Checker
  uc : Option UserContext
  orgParam : Option UUID
  teamParam : Option UUID

def Route.orgID : UUID := route.orgParam.getD uuidNil

/-- The handler of `POST /orgs/{orgId}/teams/{teamId}/domains`. -/
def handleAssign (body : Option CreateAssignmentInput) (newID : UUID) (db : Db) :
    Except HttpError Db := do
  match route.teamParam with
  | none => .error (badRequest "invalid team ID")
  | some teamID =>
    checkOrgPermission route.checker route.uc route.orgID "org.domains.manage"
    match body with
    | none => .error (badRequest "invalid request body")
    | some input =>
      let assignedBy := (route.uc.map (·.userID)).getD uuidNil
      match assignDomain db teamID input assignedBy route.orgID newID with
      | .ok db' => .ok db'
      | .error msg =>
        .error (if msg = "domain already assigned to this team" then conflict msg
          else badRequest msg)

/-- The handler of `DELETE /orgs/{orgId}/teams/{teamId}/domains/{domainId}`. -/
def handleUnassign (domainParam : Option UUID) (force : Bool) (db : Db) : Except HttpError Db := do
  match route.teamParam with
  | none => .error (badRequest "invalid team ID")
  | some teamID =>
    checkOrgPermission route.checker route.uc route.orgID "org.domains.manage"
    match domainParam with
    | none => .error (badRequest "invalid domain ID")
    | some domainID =>
      match db.getByTeamAndDomain teamID domainID with
      | none => .error (serviceError RepoError.notFound.message)
      | some assignment =>
        if 0 < db.countActiveByAssignment assignment.id && !force then
          .error (conflict "domain assignment has active inboxes")
        else
          match unassign db teamID domainID with
          | .ok db' => .ok db'
          | .error err => .error (serviceError err.message)

/-! ## The other writers of the tables -/

/-- A domain that a new team starts with. -/
structure InitialDomain where
  domainID : Option UUID
  accessLevel : String
  newID : UUID

/-- The access level of an entry, `full` unless it names one. -/
def InitialDomain.level (entry : InitialDomain) : String :=
  if entry.accessLevel = "" then "full" else entry.accessLevel

/-- One turn of `assignInitialDomains`. An entry that fails a check is skipped,
but a failed insertion aborts the transaction of the whole request. -/
def assignInitialDomain (teamID orgID : UUID) (db : Db) (entry : InitialDomain) : Option Db :=
  match entry.domainID with
  | none => some db
  | some domainID =>
    if entry.level ∉ accessLevels then some db
    else
      match db.domains.find? domainID with
      | none => some db
      | some d =>
        if d.orgID ≠ orgID then some db
        else
          (db.createAssignment
            { id := entry.newID, teamID := teamID, domainID := domainID
              accessLevel := entry.level, assignedBy := none }).toOption

/-- Create a team of an org with its initial domains. -/
def createTeam (orgID teamID : UUID) (domains : List InitialDomain) : Option Db := do
  if (db.orgs.find? orgID).isNone then none
  else
    let teams ← db.teams.insert { id := teamID, orgID := orgID, isArchived := false }
    domains.foldlM (assignInitialDomain teamID orgID) { db with teams }

/-- Move a team to another org. Its assignments are removed in the same transaction. -/
def transferTeam (orgID teamID targetOrgID : UUID) : Option Db :=
  match db.teams.find? teamID with
  | none => none
  | some team =>
    if team.orgID ≠ orgID || team.isArchived || (db.orgs.find? targetOrgID).isNone then none
    else
      let db := db.deleteAssignments fun a => a.teamID = teamID
      some { db with
        teams := db.teams.updateWhere (fun t => t.id = teamID)
          (fun t => { t with orgID := targetOrgID }) fun _ => rfl }

/-- Move a domain to another org, after its assignments are removed. -/
def transferDomain (orgID domainID targetOrgID : UUID) : Option Db :=
  match db.domains.find? domainID with
  | none => none
  | some d =>
    if d.orgID ≠ orgID || (db.orgs.find? targetOrgID).isNone then none
    else
      let db := db.deleteAssignments fun a => a.domainID = domainID
      some { db with
        domains := db.domains.updateWhere (fun d => d.id = domainID)
          (fun d => { d with orgID := targetOrgID }) fun _ => rfl }

/-- Deleting a team deletes its assignments. -/
def deleteTeam (teamID : UUID) : Db :=
  { db.deleteAssignments fun a => a.teamID = teamID with
    teams := db.teams.deleteWhere fun t => t.id = teamID }

/-- Deleting a domain deletes its assignments. -/
def deleteDomain (domainID : UUID) : Db :=
  { db.deleteAssignments fun a => a.domainID = domainID with
    domains := db.domains.deleteWhere fun d => d.id = domainID }

/-- Deleting an org deletes its teams and domains, and their assignments. -/
def deleteOrg (orgID : UUID) : Db :=
  { db.deleteAssignments fun a =>
      db.teams.rows.any (fun t => t.id = a.teamID && t.orgID = orgID) ||
        db.domains.rows.any fun d => d.id = a.domainID && d.orgID = orgID with
    orgs := db.orgs.deleteWhere fun id => id = orgID
    teams := db.teams.deleteWhere fun t => t.orgID = orgID
    domains := db.domains.deleteWhere fun d => d.orgID = orgID }

inductive Request where
  | assign (route : Route) (body : Option CreateAssignmentInput) (newID : UUID)
  | unassign (route : Route) (domainParam : Option UUID) (force : Bool)
  | setup (orgID : UUID)
  /-- The two statements of `CreateOrg`, between which other requests are handled. -/
  | countOrgs (orgID : UUID)
  | createOrg (orgID : UUID)
  | deleteOrg (orgID : UUID)
  | createTeam (orgID teamID : UUID) (domains : List InitialDomain)
  | setArchived (teamID : UUID) (archived : Bool)
  | transferTeam (orgID teamID targetOrgID : UUID)
  | deleteTeam (teamID : UUID)
  | createDomain (orgID domainID : UUID)
  | verifyDomain (domainID : UUID) (mx txt : Bool)
  | transferDomain (orgID domainID targetOrgID : UUID)
  | deleteDomain (domainID : UUID)
  | createInbox (inbox : Inbox)
  | setInboxActive (inboxID : UUID) (active : Bool)
  | deleteInbox (inboxID : UUID)

/-- The database after a request. A refused request leaves it unchanged. -/
def step : Request → Db
  | .assign route body newID => (handleAssign route body newID db).toOption.getD db
  | .unassign route domainParam force =>
    (handleUnassign route domainParam force db).toOption.getD db
  | .setup orgID =>
    if db.setupCompleted then db
    else
      match db.orgs.insert orgID with
      | some orgs => { db with orgs, setupCompleted := true }
      | none => db
  | .countOrgs orgID =>
    if db.orgs.rows = [] then { db with creating := orgID :: db.creating } else db
  | .createOrg orgID =>
    if orgID ∈ db.creating then
      { db with
        orgs := (db.orgs.insert orgID).getD db.orgs
        creating := db.creating.erase orgID }
    else db
  | .deleteOrg orgID => Tenancy.deleteOrg db orgID
  | .createTeam orgID teamID domains => (Tenancy.createTeam db orgID teamID domains).getD db
  | .setArchived teamID archived =>
    { db with
      teams := db.teams.updateWhere (fun t => t.id = teamID)
        (fun t => { t with isArchived := archived }) fun _ => rfl }
  | .transferTeam orgID teamID targetOrgID =>
    (Tenancy.transferTeam db orgID teamID targetOrgID).getD db
  | .deleteTeam teamID => Tenancy.deleteTeam db teamID
  | .createDomain orgID domainID =>
    if (db.orgs.find? orgID).isNone then db
    else
      match db.domains.insert
          { id := domainID, orgID := orgID, mxVerified := false, txtVerified := false } with
      | some domains => { db with domains }
      | none => db
  | .verifyDomain domainID mx txt =>
    { db with
      domains := db.domains.updateWhere (fun d => d.id = domainID)
        (fun d => { d with mxVerified := mx, txtVerified := txt }) fun _ => rfl }
  | .transferDomain orgID domainID targetOrgID =>
    (Tenancy.transferDomain db orgID domainID targetOrgID).getD db
  | .deleteDomain domainID => Tenancy.deleteDomain db domainID
  | .createInbox inbox =>
    if (db.assignments.find? inbox.assignmentID).any fun a =>
        a.accessLevel ≠ "read_only" && (db.domains.find? a.domainID).any (·.mxVerified) then
      { db with inboxes := (db.inboxes.insert inbox).getD db.inboxes }
    else db
  | .setInboxActive inboxID active =>
    { db with
      inboxes := db.inboxes.updateWhere (fun i => i.id = inboxID)
        (fun i => { i with isActive := active }) fun _ => rfl }
  | .deleteInbox inboxID => { db with inboxes := db.inboxes.deleteWhere fun i => i.id = inboxID }

end

end BurnerByte.Tenancy
