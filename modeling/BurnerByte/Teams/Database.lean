import BurnerByte.Core.References
import BurnerByte.Sso.Directory

/-!
# Teams and their members

The rows of organizations, teams, memberships and invitations, with the statements that
write them. A team belongs to an organization, and its slug is unique there. A membership
refers to its user and to its organization or team. No constraint relates the two kinds of
memberships to each other. An invitation may name a single team, and any number of teams by
assignments, whose roles are not restricted to those that a membership can have.

Settings and domains of a team are left out.
-/

namespace BurnerByte.Teams

open Sql Rbac Account

structure Organization where
  id : UUID
  /-- The limit on teams that the organization sets itself. -/
  maxTeams : Option Int

structure Team where
  id : UUID
  orgID : UUID
  name : String
  slug : String
  isArchived : Bool

theorem Team.withOrg_id (orgID : UUID) (team : Team) : { team with orgID }.id = team.id := rfl

abbrev slugKey (team : Team) : UUID × String := (team.orgID, team.slug)

structure Invite where
  id : UUID
  orgID : UUID
  teamID : Option UUID
  email : String
  orgRole : String
  orgRole_mem : orgRole ∈ orgRoles
  teamRole : Option String
  teamRole_mem : ∀ role ∈ teamRole, role ∈ teamRoles
  allowedAuth : List String
  tokenHash : String
  invitedBy : Option UUID
  acceptedAt : Option Nat
  expiresAt : Nat

structure InviteTeamAssign where
  inviteID : UUID
  teamID : UUID
  teamRole : String

abbrev assignmentKey (a : InviteTeamAssign) : UUID × UUID := (a.inviteID, a.teamID)

/-- The organizations are in the order in which they are listed. -/
structure Db where
  svc : Service
  orgs : Table Organization UUID Organization.id
  teams : UniqueTable Team UUID (UUID × String) Team.id slugKey
  orgMembers : Table OrgMembership (UUID × UUID) Sso.orgMemberKey
  teamMembers : Table TeamMembership (UUID × UUID) Sso.teamMemberKey
  invites : UniqueTable Invite UUID String Invite.id Invite.tokenHash
  assignments : Table InviteTeamAssign (UUID × UUID) assignmentKey
  team_org : References teams.rows Team.orgID orgs
  orgMember_user : References orgMembers.rows OrgMembership.userID svc.accounts.table
  orgMember_org : References orgMembers.rows OrgMembership.orgID orgs
  teamMember_user : References teamMembers.rows TeamMembership.userID svc.accounts.table
  teamMember_team : References teamMembers.rows TeamMembership.teamID teams.toTable
  invite_org : References invites.rows Invite.orgID orgs
  invite_team : References (invites.rows.filterMap Invite.teamID) id teams.toTable
  assignment_invite : References assignments.rows InviteTeamAssign.inviteID invites.toTable
  assignment_team : References assignments.rows InviteTeamAssign.teamID teams.toTable

namespace Db

section

variable (db : Db)

def getTeam (id : UUID) : Option Team := db.teams.find? id

def getOrg (id : UUID) : Option Organization := db.orgs.find? id

def getOrgMembership (userID orgID : UUID) : Option OrgMembership :=
  db.orgMembers.find? (userID, orgID)

def getMembership (userID teamID : UUID) : Option TeamMembership :=
  db.teamMembers.find? (userID, teamID)

def countByOrg (orgID : UUID) : Nat :=
  (db.teams.rows.filter fun team => team.orgID = orgID).length

def countOwners (orgID : UUID) : Nat :=
  (db.orgMembers.rows.filter fun m => m.orgID = orgID && m.role = "owner").length

def countLeads (teamID : UUID) : Nat :=
  (db.teamMembers.rows.filter fun m => m.teamID = teamID && m.role = "lead").length

def listMemberUserIDs (teamID : UUID) : List UUID :=
  (db.teamMembers.rows.filter fun m => m.teamID = teamID).map TeamMembership.userID

/-! ## Statements -/

/-- Insert a team. Its name has at most 100 bytes, so that it fits its column. -/
def createTeam (team : Team) : Except RepoError Db :=
  if Sso.hasZero team.name then .error (.other "create team: invalid byte sequence")
  else
    match hinsert : db.teams.insert team with
    | none => .error .conflict
    | some teams =>
      if horg : ∃ org ∈ db.orgs, org.id = team.orgID then
        .ok { db with
          teams
          team_org := db.team_org.of_mem horg (UniqueTable.mem_insert hinsert)
          teamMember_team := db.teamMember_team.of_parent_mem (UniqueTable.mem_insert hinsert)
          invite_team := db.invite_team.of_parent_mem (UniqueTable.mem_insert hinsert)
          assignment_team := db.assignment_team.of_parent_mem (UniqueTable.mem_insert hinsert) }
      else .error (.other "create team: foreign key violation")

/-- Insert a membership of a team. -/
def createMembership (userID teamID : UUID) (role : String) : Except RepoError Db :=
  if hrole : role ∈ teamRoles then
    match hinsert : db.teamMembers.insert ⟨userID, teamID, role, hrole⟩ with
    | none => .error .conflict
    | some teamMembers =>
      if h : (∃ account ∈ db.svc.accounts.table, account.id = userID) ∧
          ∃ team ∈ db.teams.toTable, team.id = teamID then
        .ok { db with
          teamMembers
          teamMember_user := db.teamMember_user.of_mem h.1 (Table.insert_eq_some hinsert).2
          teamMember_team := db.teamMember_team.of_mem h.2 (Table.insert_eq_some hinsert).2 }
      else .error (.other "create team membership: foreign key violation")
  else .error (.other "create team membership: check violation")

/-- Insert a membership of an organization. -/
def createOrgMembership (userID orgID : UUID) (role : String) : Except RepoError Db :=
  if hrole : role ∈ orgRoles then
    match hinsert : db.orgMembers.insert ⟨userID, orgID, role, hrole⟩ with
    | none => .error .conflict
    | some orgMembers =>
      if h : (∃ account ∈ db.svc.accounts.table, account.id = userID) ∧
          ∃ org ∈ db.orgs, org.id = orgID then
        .ok { db with
          orgMembers
          orgMember_user := db.orgMember_user.of_mem h.1 (Table.insert_eq_some hinsert).2
          orgMember_org := db.orgMember_org.of_mem h.2 (Table.insert_eq_some hinsert).2 }
      else .error (.other "create membership: foreign key violation")
  else .error (.other "create membership: check violation")

def updateMemberRole (userID teamID : UUID) (role : String) : Except RepoError Db :=
  if hrole : role ∈ teamRoles then
    if (db.getMembership userID teamID).isNone then .error .notFound
    else
      .ok { db with
        teamMembers := db.teamMembers.updateWhere (fun m => Sso.teamMemberKey m = (userID, teamID))
          (fun m => { m with role := role, role_mem := hrole }) fun _ => rfl
        teamMember_user := db.teamMember_user.update _ _ fun _ => rfl
        teamMember_team := db.teamMember_team.update _ _ fun _ => rfl }
  else .error (.other "update team role: check violation")

/-- Delete memberships of teams. -/
def deleteTeamMembers (p : TeamMembership → Bool) : Db :=
  { db with
    teamMembers := db.teamMembers.deleteWhere p
    teamMember_user := db.teamMember_user.filter _
    teamMember_team := db.teamMember_team.filter _ }

def deleteMembership (userID teamID : UUID) : Db :=
  db.deleteTeamMembers fun m => Sso.teamMemberKey m = (userID, teamID)

def bulkDeleteMemberships (teamID : UUID) (userIDs : List UUID) : Db :=
  db.deleteTeamMembers fun m => m.teamID = teamID && userIDs.contains m.userID

/-- Delete the user's memberships in all teams of the organization. -/
def deleteFromTeams (userID orgID : UUID) : Db :=
  db.deleteTeamMembers fun m => m.userID = userID &&
    db.teams.rows.any fun team => team.orgID = orgID && team.id = m.teamID

def deleteOrgMembership (userID orgID : UUID) : Db :=
  { db with
    orgMembers := db.orgMembers.deleteWhere fun m => Sso.orgMemberKey m = (userID, orgID)
    orgMember_user := db.orgMember_user.filter _
    orgMember_org := db.orgMember_org.filter _ }

/-- Give the team to another organization, where its slug must be free. -/
def setTeamOrg (teamID orgID : UUID) : Except RepoError Db :=
  match hupdate : db.teams.tryUpdate (fun team => team.id = teamID)
      (fun team => { team with orgID }) (Team.withOrg_id orgID) with
  | none => .error (.other "duplicate key value violates unique constraint")
  | some teams =>
    if horg : ∃ org ∈ db.orgs, org.id = orgID then
      .ok { db with
        teams
        team_org := by
          intro team hteam
          rw [UniqueTable.tryUpdate_eq_some hupdate] at hteam
          obtain ⟨old, hold, rfl⟩ := List.mem_map.mp hteam
          split
          · exact horg
          · exact db.team_org old hold
        teamMember_team := by
          rw [UniqueTable.tryUpdate_eq_some hupdate]
          exact db.teamMember_team.update_parents _ _ _
        invite_team := by
          rw [UniqueTable.tryUpdate_eq_some hupdate]
          exact db.invite_team.update_parents _ _ _
        assignment_team := by
          rw [UniqueTable.tryUpdate_eq_some hupdate]
          exact db.assignment_team.update_parents _ _ _ }
    else .error (.other "foreign key violation")

/-! ## Invitations -/

def getInviteByToken (tokenHash : String) : Option Invite := db.invites.findBy tokenHash

/-- The assignments of an invitation with the teams that still exist. -/
def getInviteTeamAssignments (inviteID : UUID) : List InviteTeamAssign :=
  db.assignments.rows.filter fun a => a.inviteID = inviteID && (db.getTeam a.teamID).isSome

/-- The assignments of a deleted invitation are deleted with it. -/
def deleteInvites (p : Invite → Bool) : Db :=
  { db with
    invites := db.invites.deleteWhere p
    assignments := db.assignments.deleteWhere fun a =>
      db.invites.rows.any fun inv => p inv && inv.id = a.inviteID
    invite_org := db.invite_org.filter _
    invite_team := db.invite_team.subset (List.filter_sublist.filterMap _).subset
    assignment_invite := db.assignment_invite.deleteWhere fun _ _ _ hparent hkey hp =>
      any_parent hparent hp hkey
    assignment_team := db.assignment_team.filter _ }

def deletePendingInviteByEmail (orgID : UUID) (email : String) : Db :=
  db.deleteInvites fun inv => inv.orgID = orgID && inv.email = email && inv.acceptedAt.isNone

/-- The columns of a new invitation. -/
structure NewInvite where
  id : UUID
  orgID : UUID
  teamID : Option UUID
  email : String
  orgRole : String
  teamRole : Option String
  allowedAuth : List String
  tokenHash : String
  invitedBy : UUID
  expiresAt : Nat

/-- The row, with the address as the column holds it. -/
def NewInvite.row (new : NewInvite) (email : String)
    (hroles : new.orgRole ∈ orgRoles ∧ ∀ role ∈ new.teamRole, role ∈ teamRoles) : Invite :=
  ⟨new.id, new.orgID, new.teamID, email, new.orgRole, hroles.1, new.teamRole, hroles.2,
    new.allowedAuth, new.tokenHash, some new.invitedBy, none, new.expiresAt⟩

/-- Insert an invitation. Its roles must be roles of the database. -/
def createInvite (new : NewInvite) : Except RepoError Db :=
  if hroles : new.orgRole ∈ orgRoles ∧ ∀ role ∈ new.teamRole, role ∈ teamRoles then
    match Sso.varchar 255 new.email with
    | none => .error (.other "create invite: value too long for type")
    | some email =>
      match hinsert : db.invites.insert (new.row email hroles) with
      | none => .error (.other "create invite: unique violation")
      | some invites =>
        if h : (∃ org ∈ db.orgs, org.id = new.orgID) ∧
            (∀ teamID ∈ new.teamID, ∃ team ∈ db.teams.toTable, team.id = teamID) ∧
            ∃ account ∈ db.svc.accounts.table, account.id = new.invitedBy then
          .ok { db with
            invites
            invite_org := db.invite_org.of_mem h.1 (UniqueTable.mem_insert hinsert)
            invite_team := by
              intro teamID hteam
              obtain ⟨inv, hinv, hid⟩ := List.mem_filterMap.mp hteam
              rcases (UniqueTable.mem_insert hinsert inv).mp hinv with rfl | hold
              · exact h.2.1 teamID hid
              · exact db.invite_team teamID (List.mem_filterMap.mpr ⟨inv, hold, hid⟩)
            assignment_invite :=
              db.assignment_invite.of_parent_mem (UniqueTable.mem_insert hinsert) }
        else .error (.other "create invite: foreign key violation")
  else .error (.other "create invite: check violation")

/-- Insert an assignment. Any role is stored that fits the column. -/
def createInviteTeamAssignment (inviteID teamID : UUID) (teamRole : String) : Except RepoError Db :=
  match Sso.varchar 50 teamRole with
  | none => .error (.other "create invite team assignment: value too long for type")
  | some teamRole =>
    match hinsert : db.assignments.insert ⟨inviteID, teamID, teamRole⟩ with
    | none => .error .conflict
    | some assignments =>
      if h : (∃ inv ∈ db.invites.toTable, inv.id = inviteID) ∧
          ∃ team ∈ db.teams.toTable, team.id = teamID then
        .ok { db with
          assignments
          assignment_invite := db.assignment_invite.of_mem h.1 (Table.insert_eq_some hinsert).2
          assignment_team := db.assignment_team.of_mem h.2 (Table.insert_eq_some hinsert).2 }
      else .error (.other "create invite team assignment: foreign key violation")

/-- Set the time of the acceptance. -/
def markInviteAccepted (id : UUID) (now : Nat) : Db :=
  { db with
    invites := db.invites.updateWhere (fun inv => inv.id = id)
      (fun inv => { inv with acceptedAt := some now }) (fun _ => rfl) fun _ => rfl
    invite_org := db.invite_org.update _ _ fun _ => rfl
    invite_team := db.invite_team.update_filterMap _ _ fun _ => rfl
    assignment_invite := db.assignment_invite.update_unique_parents _ _ _ _ }

/-- Rewrite the row of a user. -/
def updateUser (id : UUID) (user : User) : Db :=
  { db with
    svc := { db.svc with accounts := db.svc.accounts.update id user }
    orgMember_user := db.orgMember_user.update_parents _ _ (Account.UserRow.withUser_id user)
    teamMember_user := db.teamMember_user.update_parents _ _ (Account.UserRow.withUser_id user) }

/-! ## Deleting a user -/

/-- Sessions, identities and memberships of the user are deleted with the row, and invitations
forget who sent them. -/
def deleteUser (userID : UUID) : Db :=
  { db with
    svc :=
      { db.svc with
        accounts := db.svc.accounts.delete userID
        sessions := db.svc.sessions.deleteWhere fun session => session.userID = userID
        identities := db.svc.identities.filter fun identity => identity.userID ≠ userID }
    orgMembers := db.orgMembers.deleteWhere fun m => m.userID = userID
    teamMembers := db.teamMembers.deleteWhere fun m => m.userID = userID
    orgMember_user := db.orgMember_user.deleteKey userID
    orgMember_org := db.orgMember_org.filter _
    teamMember_user := db.teamMember_user.deleteKey userID
    teamMember_team := db.teamMember_team.filter _
    invites := db.invites.updateWhere (fun inv => inv.invitedBy = some userID)
      (fun inv => { inv with invitedBy := none }) (fun _ => rfl) fun _ => rfl
    invite_org := db.invite_org.update _ _ fun _ => rfl
    invite_team := db.invite_team.update_filterMap _ _ fun _ => rfl
    assignment_invite := db.assignment_invite.update_unique_parents _ _ _ _ }

end

end Db

end BurnerByte.Teams
