import BurnerByte.Teams.Members

/-!
# Invitations to an organization and its teams

`InviteMember` and `BulkInviteMembers` check the teams of an invitation and their roles,
and store the roles as they were given. `AcceptInvite` adds the user to the organization
and to the teams in one transaction. It means to go on when the user is a member already.
But the failed insertion aborts the transaction, so that nothing else succeeds in it.
-/

namespace BurnerByte.Teams

open Sql

/-- A team of an invitation and the role in it. -/
structure TeamAssign where
  teamID : UUID
  teamRole : String

structure InviteMemberInput where
  email : String
  orgRole : String
  allowedAuth : List String
  teamID : Option IdText
  teamRole : Option String
  teamAssignments : List TeamAssign

structure BulkInviteMemberInput where
  emails : List String
  orgRole : String
  allowedAuth : List String
  teamAssignments : List TeamAssign

section

variable (env : Org.Env)

/-! ## Creating -/

section

variable (now : Nat) (db : Db)

/-- An empty role is checked as that of a plain member. -/
def validateTeamAssign (orgID : UUID) (a : TeamAssign) : Except String Unit :=
  match db.getTeam a.teamID with
  | none => .error ("team not found: " ++ toString a.teamID)
  | some team =>
    let role := if a.teamRole = "" then "member" else a.teamRole
    if team.orgID ≠ orgID then
      .error ("team " ++ toString a.teamID ++ " does not belong to this organization")
    else if team.isArchived then .error ("team " ++ toString a.teamID ++ " is archived")
    else if !env.cache.hasRole role then .error ("invalid team_role: " ++ role)
    else .ok ()

/-- The teams that come first are seen. -/
def validateTeamAssignments (db : Db) (orgID : UUID) (seen : List UUID) :
    List TeamAssign → Except String Unit
  | [] => .ok ()
  | a :: assignments =>
    if seen.contains a.teamID then
      .error ("duplicate team_id in team_assignments: " ++ toString a.teamID)
    else do
      validateTeamAssign env db orgID a
      validateTeamAssignments db orgID (a.teamID :: seen) assignments

/-- The single team of an invitation, and the role there. A role without a team is not
checked. -/
def checkSingleTeam (orgID : UUID) (input : InviteMemberInput) :
    Except String (Option UUID × Option String) :=
  match input.teamID with
  | none => .ok (none, input.teamRole)
  | some (.id teamID) =>
    match db.getTeam teamID with
    | none => .error "team not found"
    | some team =>
      if team.orgID ≠ orgID then .error "team does not belong to this organization"
      else
        match input.teamRole with
        | none => .ok (some teamID, some "member")
        | some role =>
          if !env.cache.hasRole role then .error ("invalid team_role: " ++ role)
          else .ok (some teamID, some role)
  | some _ => .error "invalid team_id"

/-- The roles are stored as they are given. -/
def createInviteTeamAssignments (inviteID : UUID) (assignments : List TeamAssign) :
    Except RepoError Db :=
  assignments.foldlM (fun db a => db.createInviteTeamAssignment inviteID a.teamID a.teamRole) db

/-- The service's `InviteMember`. A pending invitation of the address is deleted before the
single team is checked. -/
def inviteMember (orgID : UUID) (input : InviteMemberInput)
    (inviterID id : UUID) (token : String) : Except String Db.NewInvite × Db :=
  if input.email = "" then (.error "email is required", db)
  else
    let email := env.normalizeEmail input.email
    match env.emailError email with
    | some msg => (.error msg, db)
    | none =>
      if !env.cache.hasRole input.orgRole then (.error ("invalid org_role: " ++ input.orgRole), db)
      else
        match env.authError (Org.defaultAuth input.allowedAuth),
            validateTeamAssignments env db orgID [] input.teamAssignments with
        | some msg, _ => (.error msg, db)
        | none, .error msg => (.error msg, db)
        | none, .ok () =>
          let db := db.deletePendingInviteByEmail orgID email
          match checkSingleTeam env db orgID input with
          | .error msg => (.error msg, db)
          | .ok (teamID, teamRole) =>
            let new : Db.NewInvite := ⟨id, orgID, teamID, email, input.orgRole, teamRole,
              Org.defaultAuth input.allowedAuth, env.hashToken token, inviterID,
              now + env.inviteExpiry⟩
            match db.createInvite new with
            | .error err => (.error err.message, db)
            | .ok created =>
              match createInviteTeamAssignments created id input.teamAssignments with
              | .error err => (.error ("create team assignments: " ++ err.message), db)
              | .ok assigned => (.ok new, assigned)

/-! ## Creating many -/

/-- An address that was skipped or failed, and why. -/
structure EmailNote where
  email : String
  reason : String
  deriving DecidableEq

structure BulkInviteResult where
  created : Nat
  skipped : List EmailNote
  failed : List EmailNote
  deriving DecidableEq

/-- The addresses that were looked at, those that will be invited, and the notes on others. -/
structure Screening where
  seen : List String
  valid : List String
  result : BulkInviteResult

def isOrgMember (orgID : UUID) (email : String) : Bool :=
  match db.svc.accounts.getByEmail email with
  | none => false
  | some account => (db.getOrgMembership account.id orgID).isSome

/-- A pending invitation of the address counts in whatever organization it is. -/
def hasPendingInvite (email : String) : Bool :=
  db.invites.rows.any fun inv =>
    inv.email = email && inv.acceptedAt.isNone && decide (now < inv.expiresAt)

def screenEmail (orgID : UUID) (s : Screening) (raw : String) : Screening :=
  let email := env.normalizeEmail raw
  let skip (reason : String) : BulkInviteResult :=
    { s.result with skipped := s.result.skipped ++ [⟨email, reason⟩] }
  if email = "" then s
  else if s.seen.contains email then { s with result := skip "duplicate_in_request" }
  else
    let s := { s with seen := email :: s.seen }
    match env.emailError email with
    | some reason =>
      { s with result := { s.result with failed := s.result.failed ++ [⟨email, reason⟩] } }
    | none =>
      if isOrgMember db orgID email then { s with result := skip "already_member" }
      else if hasPendingInvite now db email then { s with result := skip "already_invited" }
      else { s with valid := s.valid ++ [email] }

/-- The invitation of one address. A failure is noted, and the loop goes on. -/
def bulkInvite (orgID inviterID : UUID) (input : BulkInviteMemberInput)
    (fresh : String → UUID × String) (s : Tx Db × BulkInviteResult) (email : String) :
    Tx Db × BulkInviteResult :=
  let fail (reason : String) : BulkInviteResult :=
    { s.2 with failed := s.2.failed ++ [⟨email, reason⟩] }
  let deleted := (s.1.exec abortedError fun db => .ok (db.deletePendingInviteByEmail orgID email)).2
  let new : Db.NewInvite := ⟨(fresh email).1, orgID, none, email, input.orgRole, none,
    Org.defaultAuth input.allowedAuth, env.hashToken (fresh email).2, inviterID,
    now + env.inviteExpiry⟩
  match deleted.exec abortedError fun db => db.createInvite new with
  | (.error _, tx) => (tx, fail "failed to create invite")
  | (.ok (), tx) =>
    match tx.exec abortedError fun db =>
        createInviteTeamAssignments db new.id input.teamAssignments with
    | (.error _, tx) => (tx, fail "failed to create team assignments")
    | (.ok (), tx) => (tx, { s.2 with created := s.2.created + 1 })

def bulkInviteMembers (orgID : UUID) (input : BulkInviteMemberInput)
    (inviterID : UUID) (fresh : String → UUID × String) : Except String (BulkInviteResult × Db) :=
  if 100 < input.emails.length then .error "bulk invite request cannot exceed 100 emails"
  else if !env.cache.hasRole input.orgRole then .error ("invalid org_role: " ++ input.orgRole)
  else
    match env.authError (Org.defaultAuth input.allowedAuth),
        validateTeamAssignments env db orgID [] input.teamAssignments with
    | some msg, _ => .error msg
    | none, .error msg => .error msg
    | none, .ok () =>
      let screening := input.emails.foldl (screenEmail env now db orgID) ⟨[], [], ⟨0, [], []⟩⟩
      let (tx, result) := screening.valid.foldl
        (bulkInvite env now orgID inviterID input fresh) (.live db, screening.result)
      match tx.commit with
      | none => .error "commit bulk invites: commit unexpectedly resulted in rollback"
      | some db' => .ok (result, db')

/-! ## Accepting -/

/-- The code goes on after a conflict. -/
def tolerate (r : Except RepoError Unit × Tx Db) : Except RepoError (Tx Db) :=
  match r with
  | (.ok (), tx) => .ok tx
  | (.error .conflict, tx) => .ok tx
  | (.error err, _) => .error err

structure JoinedTeam where
  teamID : UUID
  teamRole : String
  teamName : String

/-- A team that is gone or archived is skipped. -/
def joinTeam (userID : UUID) (tx : Tx Db) (a : TeamAssign) :
    Except String (Tx Db × Option JoinedTeam) :=
  match tx.query abortedError fun db => (db.getTeam a.teamID).elim (.error .notFound) .ok with
  | .error .notFound => .ok (tx, none)
  | .error err => .error ("look up team: " ++ err.message)
  | .ok team =>
    if team.isArchived then .ok (tx, none)
    else
      match tolerate (tx.exec abortedError fun db =>
          db.createMembership userID a.teamID a.teamRole) with
      | .error err => .error ("create team membership: " ++ err.message)
      | .ok tx => .ok (tx, some ⟨a.teamID, a.teamRole, team.name⟩)

def joinAssignments (userID : UUID) :
    Tx Db → List TeamAssign → Except String (Tx Db × List JoinedTeam)
  | tx, [] => .ok (tx, [])
  | tx, a :: assignments => do
    let (tx, joined) ← joinTeam userID tx a
    let (tx, rest) ← joinAssignments userID tx assignments
    return (tx, joined.toList ++ rest)

/-- The organization that was joined, the single team of an older invitation, and the teams
of the assignments. -/
structure AcceptInviteResult where
  orgID : UUID
  teamID : Option UUID
  teamName : String
  teamRole : String
  teamAssignments : List JoinedTeam

/-- The single team counts only if there are no assignments, or their query fails. -/
def joinTeams (userID : UUID) (invite : Invite) (tx : Tx Db) :
    Except String (Tx Db × AcceptInviteResult) :=
  let assignments := (tx.query abortedError fun db =>
    .ok (db.getInviteTeamAssignments invite.id)).toOption.getD []
  match assignments, invite.teamID with
  | [], none => .ok (tx, ⟨invite.orgID, none, "", "", []⟩)
  | [], some teamID => do
    let (tx, joined) ← joinTeam userID tx ⟨teamID, invite.teamRole.getD "member"⟩
    match joined with
    | none => return (tx, ⟨invite.orgID, none, "", "", []⟩)
    | some team => return (tx, ⟨invite.orgID, some team.teamID, team.teamName, team.teamRole, []⟩)
  | assignments, _ => do
    let (tx, joined) ← joinAssignments userID tx (assignments.map fun a => ⟨a.teamID, a.teamRole⟩)
    return (tx, ⟨invite.orgID, none, "", "", joined⟩)

/-- A failure to verify the address is logged. -/
def verifyInvited (userID : UUID) (tx : Tx Db) : Tx Db :=
  match tx.query abortedError fun db =>
      (db.svc.accounts.getByID userID).elim (.error .notFound) .ok with
  | .error _ => tx
  | .ok user =>
    if user.emailVerified then tx
    else
      (tx.exec abortedError fun db =>
        .ok (db.updateUser userID { user with emailVerified := true })).2

/-- The transaction of an acceptance. -/
def acceptPending (invite : Invite) (userID : UUID) : Except String (AcceptInviteResult × Db) := do
  let tx ← (tolerate ((Tx.live db).exec abortedError fun db =>
    db.createOrgMembership userID invite.orgID invite.orgRole)).mapError RepoError.message
  let (tx, result) ← joinTeams userID invite tx
  match (verifyInvited userID tx).exec abortedError fun db =>
      .ok (db.markInviteAccepted invite.id now) with
  | (.error err, _) => .error err.message
  | (.ok (), tx) =>
    match tx.commit with
    | none => .error "commit unexpectedly resulted in rollback"
    | some db' => .ok (result, db')

def acceptInvite (token : String) (userID : UUID) (userEmail : String) :
    Except String (AcceptInviteResult × Db) :=
  match db.getInviteByToken (env.hashToken token) with
  | none => .error "invite not found"
  | some invite =>
    if invite.acceptedAt.isSome then .ok (⟨invite.orgID, none, "", "", []⟩, db)
    else if invite.expiresAt < now then .error "invite expired"
    else if !env.equalFold invite.email userEmail then
      .error "email mismatch: this invite was sent to a different email address"
    else acceptPending now db invite userID

end

end

end BurnerByte.Teams
