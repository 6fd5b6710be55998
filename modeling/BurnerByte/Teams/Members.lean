import BurnerByte.Core.Transaction
import BurnerByte.Org.Owners
import BurnerByte.Teams.Database

/-!
# Managing the members of teams

The operations that write memberships of teams: creating a team with its first members,
adding and removing members, one or many, changing a role, leaving a team, transferring a
team to another organization, and the removal of a user from an organization.

`CreateTeam` inserts the first members in its transaction and means to go on when one of
them cannot be inserted. But such a failure aborts the transaction, and the commit fails.
-/

namespace BurnerByte.Teams

open Go Sql Rbac

/-- What the operations use besides the database: the roles, the parser of identifiers, the
database's `LOWER`, and the limit on teams of the configuration. -/
structure Env where
  cache : PermissionCache
  casing : Casing
  parseUUID : String → Option UUID
  lower : String → String
  maxTeams : Int

structure AddTeamMemberInput where
  email : String
  userID : String
  role : String

/-- A member that was skipped or could not be added or removed. -/
structure MemberNote where
  identifier : String
  reason : String

structure BulkMemberResult where
  addedCount : Nat
  removedCount : Nat
  skipped : List MemberNote
  failed : List MemberNote

section

variable (env : Env)

/-- As in `ValidTeamRole`, the cache knows the value, in whatever scope. -/
def validTeamRole (role : String) : Bool := env.cache.hasRole role

section

variable (db : Db) (m : AddTeamMemberInput)

def AddTeamMemberInput.identifier : String :=
  if m.email = "" then m.userID else m.email

/-- Users are named by their address or by their identifier, which need not be that of a
user. -/
def resolveUser : Except String UUID :=
  if m.email ≠ "" then
    match db.svc.accounts.getByEmail (trimText m.email) with
    | none => .error ("user not found with email: " ++ m.email)
    | some account => .ok account.id
  else if m.userID ≠ "" then
    match env.parseUUID m.userID with
    | none => .error "invalid user_id"
    | some userID => .ok userID
  else .error "email or user_id is required"

/-! ## Creating a team -/

def teamSlug (name : String) : String := Org.slugOr "team" env.casing name

/-- What a call of `CreateTeam` draws, and whether the inserts of the initial domains succeed. -/
structure TeamDraws where
  id : UUID
  suffix : String
  domainsAssigned : Bool

structure CreateTeamInput where
  name : String
  members : List AddTeamMemberInput

structure CreateTeamResult where
  team : Team
  failedMembers : List MemberNote

def abortedError : RepoError := .other "current transaction is aborted"

/-- One of the first members. Users are looked up outside of the transaction. -/
def addInitialMember (teamID creatorID : UUID) (s : Tx Db × List MemberNote)
    (m : AddTeamMemberInput) : Tx Db × List MemberNote :=
  if !validTeamRole env m.role then
    (s.1, s.2 ++ [⟨m.identifier, "invalid role: " ++ m.role⟩])
  else
    match resolveUser env db m with
    | .error reason => (s.1, s.2 ++ [⟨m.identifier, reason⟩])
    | .ok userID =>
      if userID = creatorID then s
      else
        match s.1.exec abortedError fun db => db.createMembership userID teamID m.role with
        | (.ok (), tx) => (tx, s.2)
        | (.error .conflict, tx) => (tx, s.2)
        | (.error _, tx) => (tx, s.2 ++ [⟨m.identifier, "failed to add member"⟩])

def addInitialMembers (tx : Tx Db) (teamID creatorID : UUID)
    (members : List AddTeamMemberInput) : Tx Db × List MemberNote :=
  members.foldl (addInitialMember env db teamID creatorID) (tx, [])

/-- The rest of `CreateTeam`, once the team is inserted. -/
def finishTeam (created : Db) (team : Team) (creatorID : UUID) (input : CreateTeamInput)
    (draws : TeamDraws) : Except String (CreateTeamResult × Db) :=
  match created.createMembership creatorID team.id "lead" with
  | .error err => .error err.message
  | .ok led =>
    let (tx, failed) := addInitialMembers env db (.live led) team.id creatorID input.members
    match draws.domainsAssigned, tx.commit with
    | true, some db' => .ok (⟨team, failed⟩, db')
    | _, _ => .error "commit unexpectedly resulted in rollback"

def createTeam (orgID : UUID) (input : CreateTeamInput) (creatorID : UUID)
    (draws : TeamDraws) : Except String (CreateTeamResult × Db) :=
  if input.name = "" then .error "name is required"
  else if 100 < input.name.utf8ByteSize then .error "name must be 100 characters or less"
  else
    match db.getOrg orgID with
    | none => .error RepoError.notFound.message
    | some org =>
      let maxTeams := org.maxTeams.getD env.maxTeams
      if maxTeams ≤ db.countByOrg orgID then
        .error ("team limit reached (" ++ toString maxTeams ++ ")")
      else if db.teams.rows.any fun team => team.orgID = orgID &&
          decide (env.lower team.name = env.lower input.name) then
        .error ("a team named \"" ++ input.name ++ "\" already exists")
      else
        let team : Team := ⟨draws.id, orgID, input.name, teamSlug env input.name, false⟩
        match db.createTeam team with
        | .ok created => finishTeam env db created team creatorID input draws
        | .error .conflict =>
          -- the transaction is rolled back, and another one tries a slug with a suffix
          let team := { team with slug := team.slug ++ "-" ++ draws.suffix }
          match db.createTeam team with
          | .ok created => finishTeam env db created team creatorID input draws
          | .error err => .error ("team slug conflict: " ++ err.message)
        | .error err => .error err.message

/-! ## Adding members -/

def addMember (teamID : UUID) (input : AddTeamMemberInput) : Except String Db :=
  match db.getTeam teamID with
  | none => .error RepoError.notFound.message
  | some team =>
    if team.isArchived then .error "cannot add members to an archived team"
    else if !validTeamRole env input.role then .error ("invalid role: " ++ input.role)
    else
      match resolveUser env db input with
      | .error reason => .error reason
      | .ok userID =>
        match db.createMembership userID teamID input.role with
        | .ok db' => .ok db'
        | .error .conflict => .error "user already a member"
        | .error err => .error err.message

/-- One member of a bulk request. Each is inserted on its own. -/
def bulkAddMember (teamID : UUID) (s : BulkMemberResult × Db) (m : AddTeamMemberInput) :
    BulkMemberResult × Db :=
  let fail (reason : String) : BulkMemberResult :=
    { s.1 with failed := s.1.failed ++ [⟨m.identifier, reason⟩] }
  if !validTeamRole env m.role then (fail ("invalid role: " ++ m.role), s.2)
  else
    match resolveUser env s.2 m with
    | .error reason => (fail reason, s.2)
    | .ok userID =>
      match s.2.createMembership userID teamID m.role with
      | .ok db' => ({ s.1 with addedCount := s.1.addedCount + 1 }, db')
      | .error .conflict =>
        ({ s.1 with skipped := s.1.skipped ++ [⟨m.identifier, "already a member"⟩] }, s.2)
      | .error _ => (fail "failed to add member", s.2)

def bulkAddMembers (teamID : UUID) (members : List AddTeamMemberInput) :
    Except String (BulkMemberResult × Db) :=
  if 100 < members.length then .error "maximum 100 members per bulk operation"
  else
    match db.getTeam teamID with
    | none => .error RepoError.notFound.message
    | some team =>
      if team.isArchived then .error "cannot add members to an archived team"
      else .ok (members.foldl (bulkAddMember env teamID) (⟨0, 0, [], []⟩, db))

/-! ## Changing and removing members -/

def changeRole (teamID userID : UUID) (role : String) : Except String Db :=
  match db.getTeam teamID with
  | none => .error RepoError.notFound.message
  | some team =>
    if team.isArchived then .error "cannot modify an archived team"
    else if !validTeamRole env role then .error ("invalid role: " ++ role)
    else
      match db.getMembership userID teamID with
      | none => .error RepoError.notFound.message
      | some current =>
        if current.role = "lead" && role ≠ "lead" && db.countLeads teamID ≤ 1 then
          .error "cannot change role: this is the last lead of the team"
        else (db.updateMemberRole userID teamID role).mapError RepoError.message

end

end

/-- The membership of a user who goes, unless they are the last lead. -/
def dropMember (db : Db) (teamID userID : UUID) (lastLead : String) : Except String Db :=
  match db.getMembership userID teamID with
  | none => .error "not a member of this team"
  | some m =>
    if m.role = "lead" && db.countLeads teamID ≤ 1 then .error lastLead
    else .ok (db.deleteMembership userID teamID)

def removeMember (db : Db) (teamID userID : UUID) : Except String Db :=
  match db.getTeam teamID with
  | none => .error RepoError.notFound.message
  | some team =>
    if team.isArchived then .error "cannot modify an archived team"
    else dropMember db teamID userID "cannot remove the last team lead"

/-- Unlike the other operations, this one is allowed in an archived team. -/
def leaveTeam (db : Db) (orgID teamID userID : UUID) : Except String Db :=
  match db.getTeam teamID with
  | none => .error RepoError.notFound.message
  | some team =>
    if team.orgID ≠ orgID then .error "team not found"
    else dropMember db teamID userID "cannot leave: you are the last lead of this team"

/-- The deletions themselves do not fail. -/
def bulkRemoveMembers (db : Db) (teamID : UUID) (userIDs : List UUID) :
    Except String (BulkMemberResult × Db) :=
  if 100 < userIDs.length then .error "maximum 100 members per bulk operation"
  else
    match db.getTeam teamID with
    | none => .error RepoError.notFound.message
    | some team =>
      if team.isArchived then .error "cannot modify an archived team"
      else
        let toRemove := userIDs.filterMap fun userID => db.getMembership userID teamID
        let leadsToRemove := (toRemove.filter fun m => m.role = "lead").length
        let skipped := userIDs.filter fun userID => (db.getMembership userID teamID).isNone
        -- an identifier that occurs twice is counted twice
        if db.countLeads teamID ≤ leadsToRemove then
          .error "cannot remove: would leave the team with zero leads"
        else
          .ok (⟨0, toRemove.length,
            skipped.map fun userID => ⟨toString userID, "not a member"⟩, []⟩,
            toRemove.foldl (fun db m => db.deleteMembership m.userID teamID) db)

/-! ## Transfers -/

structure TransferRemoved where
  userID : UUID
  email : String
  displayName : String

structure TransferTeamResult where
  team : Option Team
  removedMembers : List TransferRemoved

/-- The members who do not belong to the target organization. -/
def strangers (db : Db) (teamID targetOrgID : UUID) : List UUID :=
  (db.listMemberUserIDs teamID).filter fun userID =>
    (db.getOrgMembership userID targetOrgID).isNone

def transferRemoved (db : Db) (userID : UUID) : TransferRemoved :=
  match db.svc.accounts.getByID userID with
  | none => ⟨userID, "", ""⟩
  | some user => ⟨userID, user.email, user.displayName⟩

/-- Members from outside of the target organization are removed, leads as well. -/
def transferTeam (env : Env) (db : Db) (orgID teamID targetOrgID : UUID) :
    Except String (TransferTeamResult × Db) :=
  match db.getTeam teamID with
  | none => .error RepoError.notFound.message
  | some team =>
    if team.orgID ≠ orgID then .error "team not found in this organization"
    else if team.isArchived then .error "cannot transfer an archived team"
    else
      match db.getOrg targetOrgID with
      | none => .error "target organization not found"
      | some targetOrg =>
        let maxTeams := targetOrg.maxTeams.getD env.maxTeams
        if maxTeams ≤ db.countByOrg targetOrgID then
          .error ("target organization has reached its team limit (" ++ toString maxTeams ++ ")")
        else
          let removed := strangers db teamID targetOrgID
          match (db.bulkDeleteMemberships teamID removed).setTeamOrg teamID targetOrgID with
          | .error err => .error err.message
          | .ok db' => .ok (⟨db'.getTeam teamID, removed.map (transferRemoved db)⟩, db')

/-! ## Removal from an organization -/

/-- The user leaves all teams of the organization, and is asked for as an owner of the
organization but not as a lead of its teams. -/
def deactivateUser (db : Db) (orgID targetUserID : UUID) : Except String Db :=
  match db.getOrgMembership targetUserID orgID with
  | none => .error "user is not a member of this organization"
  | some m =>
    if m.role = "owner" && db.countOwners orgID ≤ 1 then .error "cannot deactivate the last owner"
    else .ok ((db.deleteFromTeams targetUserID orgID).deleteOrgMembership targetUserID orgID)

end BurnerByte.Teams
