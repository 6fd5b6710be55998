import BurnerByte.Core.Table
import BurnerByte.Core.Trace
import BurnerByte.Handler.Checks

/-!
# Members and invitations of an org

The requests that manage the members of an org: adding a user directly, inviting
one or many by e-mail, accepting an invitation, changing a role and deactivating a
member. Each is decided by the memberships of the state it finds. The teams that
an invitation may also name are reduced to the verdicts of their checks.
-/

namespace BurnerByte.Org

open Sql Handler Rbac

structure User where
  id : UUID
  email : String

structure Invite where
  id : UUID
  orgID : UUID
  email : String
  orgRole : String
  role_mem : orgRole ∈ orgRoles
  tokenHash : String
  invitedBy : Option UUID
  accepted : Bool
  expiresAt : Nat

abbrev membershipKey (m : OrgMembership) : UUID × UUID := (m.userID, m.orgID)

structure Db where
  users : Table User UUID User.id
  memberships : Table OrgMembership (UUID × UUID) membershipKey
  invites : Table Invite UUID Invite.id

/-- What the requests use besides the database: the roles, the hash of invitation
tokens, and the checks of e-mail addresses and authentication methods. -/
structure Env where
  cache : PermissionCache
  hashToken : String → String
  normalizeEmail : String → String
  emailError : String → Option String
  authError : List String → Option String
  equalFold : String → String → Bool
  inviteExpiry : Nat

/-- The role checker as it sees the database. -/
def Db.checker (db : Db) (env : Env) : Checker where
  orgMembership userID orgID := db.memberships.find? (userID, orgID)
  teamMembership _ _ := none
  teamOrgID _ := none
  cache := env.cache

/-- As in `ValidOrgRole`, the cache knows the value, in whatever scope. -/
def validOrgRole (env : Env) (role : String) : Bool := env.cache.hasRole role

/-! ## Repositories -/

/-- Insert a membership. The role must be one of the database's roles, the user
must exist, and must not be a member yet. -/
def Db.createMembership (db : Db) (userID orgID : UUID) (role : String) : Except RepoError Db :=
  if h : role ∈ orgRoles then
    match db.memberships.insert ⟨userID, orgID, role, h⟩ with
    | none => .error .conflict
    | some memberships =>
      if (db.users.find? userID).isNone then
        .error (.other "create membership: foreign key violation")
      else .ok { db with memberships }
  else .error (.other "create membership: check violation")

/-- Change the role of a membership. -/
def Db.updateMemberRole (db : Db) (userID orgID : UUID) (role : String) : Except RepoError Db :=
  if h : role ∈ orgRoles then
    if (db.memberships.find? (userID, orgID)).isNone then .error .notFound
    else
      .ok { db with
        memberships := db.memberships.updateWhere (fun m => membershipKey m = (userID, orgID))
          (fun m => { m with role := role, role_mem := h }) fun _ => rfl }
  else .error (.other "update role: check violation")

def Db.deleteMembership (db : Db) (userID orgID : UUID) : Db :=
  { db with memberships := db.memberships.deleteWhere fun m => membershipKey m = (userID, orgID) }

def Db.countOwners (db : Db) (orgID : UUID) : Nat :=
  (db.memberships.rows.filter fun m => m.orgID = orgID && m.role = "owner").length

def Db.deletePendingInviteByEmail (db : Db) (orgID : UUID) (email : String) : Db :=
  { db with
    invites := db.invites.deleteWhere fun inv =>
      inv.orgID = orgID && inv.email = email && !inv.accepted }

/-- Insert an invitation. The role must be one of the database's roles. -/
def Db.createInvite (db : Db) (id orgID : UUID) (email orgRole tokenHash : String)
    (invitedBy : UUID) (expiresAt : Nat) : Option Db :=
  if h : orgRole ∈ orgRoles then
    (db.invites.insert ⟨id, orgID, email, orgRole, h, tokenHash, some invitedBy, false,
      expiresAt⟩).map fun invites => { db with invites }
  else none

/-! ## Requests -/

structure InviteInput where
  email : String
  orgRole : String
  allowedAuth : List String
  /-- The verdict of `validateTeamAssignments`. -/
  assignmentsError : Option String
  /-- The verdict on the single team, which is checked later. -/
  teamError : Option String

structure BulkInviteInput where
  emails : List String
  orgRole : String
  allowedAuth : List String
  assignmentsError : Option String

inductive Request where
  | directAdd (uc : UserContext) (orgParam : Option UUID) (userText : IdText) (role : String)
  | invite (uc : UserContext) (orgParam : Option UUID) (input : InviteInput) (id : UUID)
    (token : String)
  | bulkInvite (uc : UserContext) (orgParam : Option UUID) (input : BulkInviteInput)
    (fresh : Nat → UUID × String)
  | changeRole (uc : UserContext) (orgParam userParam : Option UUID) (role : String)
  | deactivate (uc : UserContext) (orgParam userParam : Option UUID)
  /-- The flag `committed` says whether the rest of the transaction succeeds. -/
  | accept (uc : UserContext) (token : String) (committed : Bool)

section

variable (env : Env) (now : Nat)

section

variable (uc : UserContext) (orgParam userParam : Option UUID) (db : Db)

def directAddMember (orgID userID : UUID) (role : String) : Except String Db :=
  if !validOrgRole env role then .error ("invalid role: " ++ role)
  else if (db.users.find? userID).isNone then .error "user not found"
  else
    match db.createMembership userID orgID role with
    | .ok db' => .ok db'
    | .error .conflict => .error "user is already a member of this organization"
    | .error err => .error err.message

def handleDirectAdd (userText : IdText) (role : String) (db : Db) : Except HttpError Db := do
  match orgParam with
  | none => .error (badRequest "invalid org ID")
  | some orgID =>
    checkOrgPermission (db.checker env) (some uc) orgID "org.members.add"
    if userText = .empty ∨ role = "" then .error (badRequest "user_id and role are required")
    else
      match userText with
      | .empty => .error (badRequest "invalid user_id")
      | .malformed => .error (badRequest "invalid user_id")
      | .id userID =>
        match directAddMember env db orgID userID role with
        | .ok db' => .ok db'
        | .error msg =>
          .error (if msg = "user is already a member of this organization" then conflict msg
            else serviceError msg)

def defaultAuth (allowedAuth : List String) : List String :=
  if allowedAuth.isEmpty then ["any"] else allowedAuth

/-- The service's `InviteMember`. A pending invitation of the same address is deleted before the
single team is checked, so a request that fails there still loses it. -/
def inviteMember (orgID : UUID) (input : InviteInput) (inviterID id : UUID)
    (token : String) : Except String Unit × Db :=
  if input.email = "" then (.error "email is required", db)
  else
    let email := env.normalizeEmail input.email
    match env.emailError email with
    | some msg => (.error msg, db)
    | none =>
      if !validOrgRole env input.orgRole then
        (.error ("invalid org_role: " ++ input.orgRole), db)
      else
        match env.authError (defaultAuth input.allowedAuth), input.assignmentsError with
        | some msg, _ => (.error msg, db)
        | none, some msg => (.error msg, db)
        | none, none =>
          let db := db.deletePendingInviteByEmail orgID email
          match input.teamError with
          | some msg => (.error msg, db)
          | none =>
            match db.createInvite id orgID email input.orgRole (env.hashToken token) inviterID
                (now + env.inviteExpiry) with
            | none => (.error "create invite: constraint violation", db)
            | some db' => (.ok (), db')

def handleInvite (input : InviteInput) (id : UUID)
    (token : String) (db : Db) : Except HttpError Unit × Db :=
  match orgParam with
  | none => (.error (badRequest "invalid org ID"), db)
  | some orgID =>
    match checkOrgPermission (db.checker env) (some uc) orgID "org.members.invite" with
    | .error err => (.error err, db)
    | .ok () =>
      match inviteMember env now db orgID input uc.userID id token with
      | (.ok (), db') => (.ok (), db')
      | (.error msg, db') => (.error (serviceError msg), db')

def isOrgMember (orgID : UUID) (email : String) : Bool :=
  match db.users.rows.find? fun u => u.email = email with
  | none => false
  | some user => (db.memberships.find? (user.id, orgID)).isSome

/-- A pending invitation of the address counts in whatever org it is. -/
def hasPendingInvite (email : String) : Bool :=
  db.invites.rows.any fun inv => inv.email = email && !inv.accepted && decide (now < inv.expiresAt)

/-- The addresses of a bulk invitation that are invited: well formed, the first of
their kind in the request, and neither members nor invited. -/
def validEmails (orgID : UUID) (emails : List String) : List String :=
  (((emails.map env.normalizeEmail).filter fun email => email ≠ "").eraseDups).filter fun email =>
    (env.emailError email).isNone && !isOrgMember db orgID email && !hasPendingInvite now db email

/-- Create the invitations of a bulk request in one transaction, which a failed
insertion aborts. -/
def createInvites (orgID inviterID : UUID) (orgRole : String)
    (fresh : Nat → UUID × String) (emails : List String) : Option Db :=
  emails.zipIdx.foldlM (fun db (email, i) =>
    (db.deletePendingInviteByEmail orgID email).createInvite (fresh i).1 orgID email orgRole
      (env.hashToken (fresh i).2) inviterID (now + env.inviteExpiry)) db

def bulkInviteMembers (orgID : UUID) (input : BulkInviteInput) (inviterID : UUID)
    (fresh : Nat → UUID × String) : Except String Db :=
  if 100 < input.emails.length then .error "bulk invite request cannot exceed 100 emails"
  else if !validOrgRole env input.orgRole then .error ("invalid org_role: " ++ input.orgRole)
  else
    match env.authError (defaultAuth input.allowedAuth), input.assignmentsError with
    | some msg, _ => .error msg
    | none, some msg => .error msg
    | none, none =>
      match createInvites env now db orgID inviterID input.orgRole fresh
          (validEmails env now db orgID input.emails) with
      | none => .error "commit bulk invites: transaction aborted"
      | some db' => .ok db'

def handleBulkInvite (input : BulkInviteInput)
    (fresh : Nat → UUID × String) (db : Db) : Except HttpError Db := do
  match orgParam with
  | none => .error (badRequest "invalid org ID")
  | some orgID =>
    checkOrgPermission (db.checker env) (some uc) orgID "org.members.invite"
    match bulkInviteMembers env now db orgID input uc.userID fresh with
    | .ok db' => .ok db'
    | .error msg => .error (serviceError msg)

def changeRole (orgID targetUserID : UUID) (role : String) : Except String Db :=
  if !validOrgRole env role then .error ("invalid role: " ++ role)
  else
    match db.memberships.find? (targetUserID, orgID) with
    | none => .error RepoError.notFound.message
    | some current =>
      if current.role = "owner" && role ≠ "owner" && db.countOwners orgID ≤ 1 then
        .error "cannot remove the last owner"
      else
        match db.updateMemberRole targetUserID orgID role with
        | .ok db' => .ok db'
        | .error err => .error err.message

def handleChangeRole (role : String) (db : Db) : Except HttpError Db := do
  match orgParam with
  | none => .error (badRequest "invalid org ID")
  | some orgID =>
    checkOrgPermission (db.checker env) (some uc) orgID "org.members.role"
    match userParam with
    | none => .error (badRequest "invalid user ID")
    | some userID =>
      checkOrgRankAbove (db.checker env) (some uc) orgID userID
      match changeRole env db orgID userID role with
      | .ok db' => .ok db'
      | .error msg => .error (serviceError msg)

def deactivateUser (orgID targetUserID : UUID) : Except String Db :=
  match db.memberships.find? (targetUserID, orgID) with
  | none => .error "user is not a member of this organization"
  | some m =>
    if m.role = "owner" && db.countOwners orgID ≤ 1 then .error "cannot deactivate the last owner"
    else .ok (db.deleteMembership targetUserID orgID)

/-- Unlike `handleChangeRole`, this handler compares no ranks. -/
def handleDeactivate : Except HttpError Db := do
  match orgParam with
  | none => .error (badRequest "invalid org ID")
  | some orgID =>
    checkOrgPermission (db.checker env) (some uc) orgID "org.members.remove"
    match userParam with
    | none => .error (badRequest "invalid user ID")
    | some userID =>
      if userID = uc.userID then .error (badRequest "cannot deactivate yourself")
      else
        match deactivateUser db orgID userID with
        | .ok db' => .ok db'
        | .error msg => .error (serviceError msg)

/-- The service's `AcceptInvite`. A user who is a member already makes the insertion fail, and
with it the whole transaction, although the code means to go on in that case. -/
def acceptInvite (token : String) (userID : UUID) (userEmail : String)
    (committed : Bool) : Except String Db :=
  match db.invites.rows.find? fun inv => inv.tokenHash = env.hashToken token with
  | none => .error "invite not found"
  | some invite =>
    if invite.accepted then .ok db
    else if invite.expiresAt < now then .error "invite expired"
    else if !env.equalFold invite.email userEmail then
      .error "email mismatch: this invite was sent to a different email address"
    else
      match db.createMembership userID invite.orgID invite.orgRole with
      | .error .conflict => .error "current transaction is aborted"
      | .error err => .error err.message
      | .ok db =>
        if !committed then .error "current transaction is aborted"
        else
          .ok { db with
            invites := db.invites.updateWhere (fun inv => inv.id = invite.id)
              (fun inv => { inv with accepted := true }) fun _ => rfl }

def handleAccept (token : String) (committed : Bool) (db : Db) : Except HttpError Db :=
  match acceptInvite env now db token uc.userID uc.email committed with
  | .ok db' => .ok db'
  | .error msg =>
    .error (if msg = "invite not found" ∨ msg = "invite expired" then ⟨404, msg⟩
      else if msg = "email mismatch: this invite was sent to a different email address" then
        forbidden msg
      else serviceError msg)

end

end

/-- The database after a request at a time. -/
def step (env : Env) (db : Db) : Nat × Request → Db
  | (_, .directAdd uc orgParam userText role) =>
    (handleDirectAdd env uc orgParam userText role db).toOption.getD db
  | (now, .invite uc orgParam input id token) =>
    (handleInvite env now uc orgParam input id token db).2
  | (now, .bulkInvite uc orgParam input fresh) =>
    (handleBulkInvite env now uc orgParam input fresh db).toOption.getD db
  | (_, .changeRole uc orgParam userParam role) =>
    (handleChangeRole env uc orgParam userParam role db).toOption.getD db
  | (_, .deactivate uc orgParam userParam) =>
    (handleDeactivate env uc orgParam userParam db).toOption.getD db
  | (now, .accept uc token committed) =>
    (handleAccept env now uc token committed db).toOption.getD db

end BurnerByte.Org
