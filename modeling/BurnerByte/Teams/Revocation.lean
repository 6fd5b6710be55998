import BurnerByte.Core.ReadCommitted
import BurnerByte.Teams.BulkInvites

/-!
# Revoking an invitation while it is accepted

`AcceptInvite` reads the invitation, and gives the memberships in a transaction that begins after
this. At the end of the transaction it marks the invitation as accepted, which succeeds whether or
not there still is a row to mark. Meanwhile the invitation may be revoked, by itself or together
with its team.

The statements of an acceptance and of any number of revocations are executed in any order. A row
that the acceptance has marked is locked until it commits, and a statement that deletes it waits.
-/

namespace BurnerByte.Teams

open Sql

/-! ## The acceptance -/

inductive Write where
  | orgMember (userID orgID : UUID) (role : String)
  | teamMember (userID teamID : UUID) (role : String)
  | account (id : UUID) (user : Account.User)
  | accept (inviteID : UUID) (now : Nat)

def Write.run : Write → Db → Except RepoError Db
  | .orgMember userID orgID role, db => db.createOrgMembership userID orgID role
  | .teamMember userID teamID role, db => db.createMembership userID teamID role
  | .account id user, db => .ok (db.updateUser id user)
  | .accept inviteID now, db => .ok (db.markInviteAccepted inviteID now)

/-- The code goes on after a conflict, in a transaction that is aborted. -/
def tolerating (r : Except RepoError Unit × Tx (List Write)) :
    Except RepoError (Tx (List Write)) :=
  match r with
  | (.ok (), tx) => .ok tx
  | (.error .conflict, tx) => .ok tx
  | (.error err, _) => .error err

/-- The next statement of the transaction. The flag says that the team is the single one of an
older invitation. -/
inductive Phase where
  | joiningOrg
  | listing
  | lookingUp (single : Bool) (assign : TeamAssign) (todo : List TeamAssign)
  | joining (single : Bool) (assign : TeamAssign) (team : Team) (todo : List TeamAssign)
  | lookingUpUser
  | verifying (user : Account.User)
  | marking
  | committing

/-- Where an acceptance is. -/
inductive Accepting where
  | reading
  | inside (invite : Invite) (tx : Tx (List Write)) (result : AcceptInviteResult) (phase : Phase)
  | returned (answer : Except String AcceptInviteResult)

def Phase.teams (single : Bool) : List TeamAssign → Phase
  | [] => .lookingUpUser
  | assign :: todo => .lookingUp single assign todo

/-- The single team counts only if there are no assignments, or their query fails. -/
def Phase.ofAssignments (invite : Invite) (assignments : List InviteTeamAssign) : Phase :=
  match assignments, invite.teamID with
  | [], none => .lookingUpUser
  | [], some teamID => .teams true [⟨teamID, invite.teamRole.getD "member"⟩]
  | assignments, _ => .teams false (assignments.map fun a => ⟨a.teamID, a.teamRole⟩)

def AcceptInviteResult.join (result : AcceptInviteResult) (single : Bool) (team : JoinedTeam) :
    AcceptInviteResult :=
  if single then
    { result with teamID := some team.teamID, teamName := team.teamName, teamRole := team.teamRole }
  else { result with teamAssignments := result.teamAssignments ++ [team] }

structure Acceptance where
  env : Org.Env
  now : Nat
  token : String
  userID : UUID
  userEmail : String

namespace Acceptance

variable (a : Acceptance)

def read (db : Db) : Accepting :=
  match db.getInviteByToken (a.env.hashToken a.token) with
  | none => .returned (.error "invite not found")
  | some invite =>
    if invite.acceptedAt.isSome then .returned (.ok ⟨invite.orgID, none, "", "", []⟩)
    else if invite.expiresAt < a.now then .returned (.error "invite expired")
    else if !a.env.equalFold invite.email a.userEmail then
      .returned (.error "email mismatch: this invite was sent to a different email address")
    else .inside invite (.live []) ⟨invite.orgID, none, "", "", []⟩ .joiningOrg

/-- Execute the next statement over the committed database. -/
def execute (db : Db) (invite : Invite) (tx : Tx (List Write)) (result : AcceptInviteResult) :
    Phase → Accepting
  | .joiningOrg =>
    match tolerating (tx.write Write.run abortedError db
        (.orgMember a.userID invite.orgID invite.orgRole)) with
    | .error err => .returned (.error err.message)
    | .ok tx => .inside invite tx result .listing
  | .listing =>
    let assignments := (tx.read Write.run abortedError db fun db =>
      .ok (db.getInviteTeamAssignments invite.id)).toOption.getD []
    .inside invite tx result (.ofAssignments invite assignments)
  | .lookingUp single assign todo =>
    match tx.read Write.run abortedError db fun db =>
        (db.getTeam assign.teamID).elim (.error .notFound) .ok with
    | .error .notFound => .inside invite tx result (.teams single todo)
    | .error err => .returned (.error ("look up team: " ++ err.message))
    | .ok team =>
      if team.isArchived then .inside invite tx result (.teams single todo)
      else .inside invite tx result (.joining single assign team todo)
  | .joining single assign team todo =>
    match tolerating (tx.write Write.run abortedError db
        (.teamMember a.userID assign.teamID assign.teamRole)) with
    | .error err => .returned (.error ("create team membership: " ++ err.message))
    | .ok tx =>
      .inside invite tx (result.join single ⟨assign.teamID, assign.teamRole, team.name⟩)
        (.teams single todo)
  | .lookingUpUser =>
    match tx.read Write.run abortedError db fun db =>
        (db.svc.accounts.getByID a.userID).elim (.error .notFound) .ok with
    | .error _ => .inside invite tx result .marking
    | .ok user =>
      if user.emailVerified then .inside invite tx result .marking
      else .inside invite tx result (.verifying user)
  | .verifying user =>
    .inside invite (tx.write Write.run abortedError db
      (.account a.userID { user with emailVerified := true })).2 result .marking
  | .marking =>
    match tx.write Write.run abortedError db (.accept invite.id a.now) with
    | (.error err, _) => .returned (.error err.message)
    | (.ok (), tx) => .inside invite tx result .committing
  | .committing =>
    match tx.commit with
    | none => .returned (.error "commit unexpectedly resulted in rollback")
    | some _ => .returned (.ok result)

end Acceptance

/-- The committed database, and the invitation whose row is locked. -/
structure Shared where
  db : Db
  locked : Option UUID

namespace Acceptance

variable (a : Acceptance)

def next (db : Db) : Accepting → Accepting
  | .reading => a.read db
  | .inside invite tx result phase => a.execute db invite tx result phase
  | .returned answer => .returned answer

/-- What others see of a statement: the lock of the row that it marks, and the commit. -/
def effect (shared : Shared) : Accepting → Shared
  | .inside invite (.live _) _ .marking =>
    if shared.db.invites.rows.any fun inv => inv.id = invite.id then
      { shared with locked := some invite.id }
    else shared
  | .inside _ (.live writes) _ .committing => ⟨replay Write.run shared.db writes, none⟩
  | _ => shared

end Acceptance

/-! ## The revocations -/

def Db.findPendingInvitesWithTeamAssignment (db : Db) (now : Nat) (teamID : UUID) : List Invite :=
  db.invites.rows.filter fun inv => inv.acceptedAt.isNone && decide (now < inv.expiresAt) &&
    db.assignments.rows.any fun a => a.inviteID = inv.id && a.teamID = teamID

def Db.countInviteTeamAssignments (db : Db) (inviteID : UUID) : Nat :=
  (db.assignments.rows.filter fun a => a.inviteID = inviteID).length

def Db.deleteInviteTeamAssignment (db : Db) (inviteID teamID : UUID) : Db :=
  { db with
    assignments := db.assignments.deleteWhere fun a => a.inviteID = inviteID && a.teamID = teamID
    assignment_invite := db.assignment_invite.filter _
    assignment_team := db.assignment_team.filter _ }

/-- `RevokeInvite`, or `CascadeTeamInviteRevocation` at some time. -/
inductive Revocation where
  | invite (orgID inviteID : UUID)
  | team (now : Nat) (teamID : UUID)
  deriving DecidableEq

/-- The next statement of a revocation, with the invitations that are still to be looked at. -/
inductive Revoking where
  | deleting (orgID inviteID : UUID)
  | finding (now : Nat) (teamID : UUID)
  | counting (now : Nat) (teamID : UUID) (invite : Invite) (todo : List Invite)
  | removing (now : Nat) (teamID : UUID) (invite : Invite) (count : Nat) (todo : List Invite)
  | removingLegacy (now : Nat) (teamID : UUID)
  | returned (call : Revocation)

def Revocation.start : Revocation → Revoking
  | .invite orgID inviteID => .deleting orgID inviteID
  | .team now teamID => .finding now teamID

/-- Delete invitations, unless one of them is locked. -/
def Shared.deleteInvites (shared : Shared) (p : Invite → Bool) : Option Shared :=
  if shared.db.invites.rows.any fun inv => p inv && shared.locked = some inv.id then none
  else some { shared with db := shared.db.deleteInvites p }

def Shared.deleteInvite (shared : Shared) (orgID inviteID : UUID) : Option Shared :=
  shared.deleteInvites fun inv => inv.id = inviteID && inv.orgID = orgID

def Shared.revokePendingInvitesByLegacyTeamID (shared : Shared) (teamID : UUID) : Option Shared :=
  shared.deleteInvites fun inv => inv.teamID = some teamID && inv.acceptedAt.isNone

namespace Revoking

def each (now : Nat) (teamID : UUID) : List Invite → Revoking
  | [] => .removingLegacy now teamID
  | invite :: todo => .counting now teamID invite todo

/-- Go on if the statement does not have to wait. -/
def after (waiting next : Revoking) (shared : Shared) : Option Shared → Revoking × Shared
  | none => (waiting, shared)
  | some shared' => (next, shared')

def execute (shared : Shared) : Revoking → Revoking × Shared
  | .deleting orgID inviteID =>
    after (.deleting orgID inviteID) (.returned (.invite orgID inviteID)) shared
      (shared.deleteInvite orgID inviteID)
  | .finding now teamID =>
    (each now teamID (shared.db.findPendingInvitesWithTeamAssignment now teamID), shared)
  | .counting now teamID invite todo =>
    (.removing now teamID invite (shared.db.countInviteTeamAssignments invite.id) todo, shared)
  | .removing now teamID invite count todo =>
    if count ≤ 1 then
      after (.removing now teamID invite count todo) (each now teamID todo) shared
        (shared.deleteInvite invite.orgID invite.id)
    else
      (each now teamID todo,
        { shared with db := shared.db.deleteInviteTeamAssignment invite.id teamID })
  | .removingLegacy now teamID =>
    after (.removingLegacy now teamID) (.returned (.team now teamID)) shared
      (shared.revokePendingInvitesByLegacyTeamID teamID)
  | .returned call => (.returned call, shared)

end Revoking

/-! ## Interleavings -/

inductive Client (κ : Type) where
  | acceptor
  | revoker (k : κ)

structure Race (κ : Type) where
  shared : Shared
  accepting : Accepting
  revoking : κ → Revoking

namespace Race

variable {κ : Type} [DecidableEq κ] (a : Acceptance)

def start (db : Db) (calls : κ → Revocation) : Race κ :=
  ⟨⟨db, none⟩, .reading, fun k => (calls k).start⟩

/-- One of the clients executes its next statement. -/
def step (race : Race κ) : Client κ → Race κ
  | .acceptor =>
    { race with
      shared := Acceptance.effect race.shared race.accepting
      accepting := a.next race.shared.db race.accepting }
  | .revoker k =>
    { race with
      shared := ((race.revoking k).execute race.shared).2
      revoking := Function.update race.revoking k ((race.revoking k).execute race.shared).1 }

/-- The invitation of an acceptance whose next statement commits. -/
def commits (race : Race κ) : Option Invite :=
  match race.accepting with
  | .inside invite (.live _) _ .committing => some invite
  | _ => none

/-- The invitation is gone, or its revocation has returned. -/
def Revoked (race : Race κ) (invite : Invite) : Prop :=
  (∀ inv ∈ race.shared.db.invites, inv.id ≠ invite.id) ∨
    ∃ k, race.revoking k = .returned (.invite invite.orgID invite.id)

/-- No acceptance commits memberships for an invitation that has been revoked. -/
def RevokedGrantsNothing (race : Race κ) (schedule : List (Client κ)) : Prop :=
  ∀ done rest, schedule = done ++ .acceptor :: rest →
    ∀ invite ∈ (Trace.run (step a) race done).commits,
      (Trace.run (step a) race done).Revoked invite →
      ¬ Acquires (Trace.run (step a) race done).shared.db
        ((Trace.run (step a) race done).step a .acceptor).shared.db a.userID

/-- When the acceptance marks the invitation, its row is there. -/
def MarksRow (race : Race κ) : Client κ → Prop
  | .acceptor =>
    match race.accepting with
    | .inside invite (.live _) _ .marking => ∃ inv ∈ race.shared.db.invites, inv.id = invite.id
    | _ => True
  | .revoker _ => True

end Race

/-! ## What a statement leaves alone -/

/-- Every invitation was there before, with the same organization. -/
def Db.InvitesFrom (db db' : Db) : Prop :=
  ∀ inv ∈ db'.invites, ∃ old ∈ db.invites, old.id = inv.id ∧ old.orgID = inv.orgID

theorem Db.InvitesFrom.of_eq {db db' : Db} (h : db'.invites = db.invites) : db.InvitesFrom db' :=
  fun inv hinv => ⟨inv, h ▸ hinv, rfl, rfl⟩

theorem Db.InvitesFrom.trans {db₁ db₂ db₃ : Db} (h : db₁.InvitesFrom db₂)
    (h' : db₂.InvitesFrom db₃) : db₁.InvitesFrom db₃ := by
  intro inv hinv
  obtain ⟨mid, hmid, hid, horg⟩ := h' inv hinv
  obtain ⟨old, hold, hid', horg'⟩ := h mid hmid
  exact ⟨old, hold, hid'.trans hid, horg'.trans horg⟩

def Write.JoinsOrg : Write → Prop
  | .orgMember .. => True
  | _ => False

variable {db db' : Db} {write : Write} {writes : List Write}

theorem Write.invitesFrom (h : write.run db = .ok db') : db.InvitesFrom db' := by
  cases write with
  | orgMember userID orgID role => exact .of_eq (createOrgMembership_eq_ok h).2.2.2.1
  | teamMember userID teamID role => exact .of_eq (createMembership_eq_ok h).1.invites
  | account id user =>
    cases h
    exact .of_eq rfl
  | accept inviteID now =>
    cases h
    intro inv hinv
    obtain ⟨old, hold, rfl⟩ := List.mem_map.mp hinv
    refine ⟨old, hold, ?_⟩
    split <;> exact ⟨rfl, rfl⟩

theorem Write.orgMembers_eq (h : write.run db = .ok db') (hwrite : ¬ write.JoinsOrg) :
    db'.orgMembers = db.orgMembers := by
  cases write with
  | orgMember userID orgID role => exact absurd trivial hwrite
  | teamMember userID teamID role => exact (createMembership_eq_ok h).1.orgMembers
  | _ =>
    cases h
    rfl

theorem replay_orgMembers (db : Db) (hwrites : ∀ write ∈ writes, ¬ write.JoinsOrg) :
    (replay Write.run db writes).orgMembers = db.orgMembers := by
  let same (s : Db) : Prop := s.orgMembers = db.orgMembers
  have hsame : same (replay Write.run db writes) :=
    replay_induct rfl fun write hmem _ _ hs h =>
      (Write.orgMembers_eq h (hwrites write hmem)).trans hs
  exact hsame

/-- The transaction has begun with the membership of the organization, which can be inserted into
the database as it is now. -/
def Acceptance.Joined (a : Acceptance) (invite : Invite) (db : Db) (writes : List Write) : Prop :=
  ∃ db' rest, db.createOrgMembership a.userID invite.orgID invite.orgRole = .ok db' ∧
    writes = .orgMember a.userID invite.orgID invite.orgRole :: rest ∧
    ∀ write ∈ rest, ¬ write.JoinsOrg

namespace Acceptance.Joined

variable {a : Acceptance} {invite : Invite}

/-- A transaction that commits gives a membership. -/
theorem acquires (h : a.Joined invite db writes) :
    Acquires db (replay Write.run db writes) a.userID := by
  obtain ⟨member, rest, hinsert, rfl, hrest⟩ := h
  obtain ⟨_, _, _, _, _, hrole, hnew⟩ := createOrgMembership_eq_ok hinsert
  refine acquires_of_getOrgMembership (exists_createOrgMembership_iff.mp ⟨member, hinsert⟩).2.1 ?_
  have hrun : Write.run (.orgMember a.userID invite.orgID invite.orgRole) db = .ok member := hinsert
  rw [replay_cons_ok hrun]
  have hfind : member.getOrgMembership a.userID invite.orgID =
      some ⟨a.userID, invite.orgID, invite.orgRole, hrole⟩ :=
    Table.find?_eq_some_iff.mpr ⟨((Table.insert_eq_some hnew).2 _).mpr (.inl rfl), rfl⟩
  unfold Db.getOrgMembership at hfind ⊢
  rw [replay_orgMembers member hrest, hfind]
  rfl

theorem of_same (h : a.Joined invite db writes) (hsame : db.SameButInvites db') :
    a.Joined invite db' writes := by
  obtain ⟨member, rest, hinsert, hwrites⟩ := h
  have hcan : ∃ member', db'.createOrgMembership a.userID invite.orgID invite.orgRole =
      .ok member' := by
    rw [exists_createOrgMembership_iff, Db.getOrgMembership, hsame.svc, hsame.orgs,
      hsame.orgMembers]
    exact exists_createOrgMembership_iff.mp ⟨member, hinsert⟩
  obtain ⟨member', hinsert'⟩ := hcan
  exact ⟨member', rest, hinsert', hwrites⟩

theorem concat (h : a.Joined invite db writes) (hwrite : ¬ write.JoinsOrg) :
    a.Joined invite db (writes ++ [write]) := by
  obtain ⟨member, rest, hinsert, rfl, hrest⟩ := h
  refine ⟨member, rest ++ [write], hinsert, rfl, fun w hw => ?_⟩
  rcases List.mem_append.mp hw with hold | hnew
  · exact hrest w hold
  · rwa [List.mem_singleton.mp hnew]

end Acceptance.Joined

/-! ## The statements of an acceptance -/

/-- The phase comes after the first statement and before the commit. -/
def Phase.Between : Phase → Prop
  | .joiningOrg => False
  | .committing => False
  | _ => True

theorem Phase.teams_between (single : Bool) (todo : List TeamAssign) :
    (Phase.teams single todo).Between := by
  cases todo <;> trivial

theorem Phase.ofAssignments_between (invite : Invite) (assignments : List InviteTeamAssign) :
    (Phase.ofAssignments invite assignments).Between := by
  unfold Phase.ofAssignments
  split
  · trivial
  · exact Phase.teams_between _ _
  · exact Phase.teams_between _ _

/-- What a statement adds to the writes of a transaction that stays live. -/
inductive Acceptance.Continues (a : Acceptance) (db : Db) (invite : Invite) :
    List Write → Phase → List Write → Phase → Prop
  | joined {writes : List Write} {db' : Db}
      (h : (replay Write.run db writes).createOrgMembership a.userID invite.orgID invite.orgRole =
        .ok db') :
      a.Continues db invite writes .joiningOrg
        (writes ++ [.orgMember a.userID invite.orgID invite.orgRole]) .listing
  | read {writes : List Write} {phase phase' : Phase} (h : phase.Between) (h' : phase'.Between) :
      a.Continues db invite writes phase writes phase'
  | wrote {writes : List Write} {write : Write} {phase phase' : Phase} (hwrite : ¬ write.JoinsOrg)
      (h : phase.Between) (h' : phase'.Between) :
      a.Continues db invite writes phase (writes ++ [write]) phase'
  | marked {writes : List Write} :
      a.Continues db invite writes .marking (writes ++ [.accept invite.id a.now]) .committing

theorem tolerating_eq_ok {r : Except RepoError Unit × Tx (List Write)} {tx : Tx (List Write)}
    (h : tolerating r = .ok tx) : r.2 = tx := by
  unfold tolerating at h
  split at h
  · exact Except.ok.inj h
  · exact Except.ok.inj h
  · cases h

namespace Acceptance

variable {a : Acceptance} {invite invite' : Invite} {tx tx' : Tx (List Write)}
  {result result' : AcceptInviteResult} {phase phase' : Phase}

/-- Where a statement of the transaction may lead. -/
def Goes (a : Acceptance) (db : Db) (invite : Invite) (tx : Tx (List Write)) (phase : Phase) :
    Accepting → Prop
  | .inside invite' tx' _ phase' =>
    invite' = invite ∧ ∀ writes', tx' = .live writes' →
      ∃ writes, tx = .live writes ∧ a.Continues db invite writes phase writes' phase'
  | _ => True

theorem goes_read (h : phase.Between) (h' : phase'.Between) :
    a.Goes db invite tx phase (.inside invite tx result phase') :=
  ⟨rfl, fun writes' hlive => ⟨writes', hlive, .read h h'⟩⟩

theorem goes_write (hwrite : (tx.write Write.run abortedError db write).2 = tx')
    (h : ∀ writes db', write.run (replay Write.run db writes) = .ok db' →
      a.Continues db invite writes phase (writes ++ [write]) phase') :
    a.Goes db invite tx phase (.inside invite tx' result phase') := by
  refine ⟨rfl, fun writes' hlive => ?_⟩
  obtain ⟨writes, db', rfl, hrun, rfl⟩ := Tx.write_eq_live.mp (hwrite.trans hlive)
  exact ⟨writes, rfl, h writes db' hrun⟩

theorem execute_goes : a.Goes db invite tx phase (a.execute db invite tx result phase) := by
  cases phase with dsimp only [execute]
  | joiningOrg =>
    split
    · trivial
    rename_i hwrite
    exact goes_write (tolerating_eq_ok hwrite) fun _ _ hrun => .joined hrun
  | listing => exact goes_read trivial (Phase.ofAssignments_between _ _)
  | lookingUp single assign todo =>
    split
    · exact goes_read trivial (Phase.teams_between _ _)
    · trivial
    split
    · exact goes_read trivial (Phase.teams_between _ _)
    · exact goes_read trivial trivial
  | joining single assign team todo =>
    split
    · trivial
    rename_i hwrite
    refine goes_write (tolerating_eq_ok hwrite) fun _ _ _ => ?_
    exact .wrote id trivial (Phase.teams_between _ _)
  | lookingUpUser =>
    split
    · exact goes_read trivial trivial
    split <;> exact goes_read trivial trivial
  | verifying user => exact goes_write rfl fun _ _ _ => .wrote id trivial trivial
  | marking =>
    split
    · trivial
    rename_i hwrite
    exact goes_write (congrArg Prod.snd hwrite) fun _ _ _ => .marked
  | committing => split <;> trivial

/-- A statement of the transaction and its outcome. -/
theorem execute_eq_inside
    (h : a.execute db invite tx result phase = .inside invite' tx' result' phase') :
    a.Goes db invite tx phase (.inside invite' tx' result' phase') := h ▸ execute_goes

theorem read_eq_inside (h : a.read db = .inside invite tx result phase) :
    invite ∈ db.invites ∧ tx = .live [] ∧ phase = .joiningOrg := by
  unfold read at h
  split at h
  · cases h
  rename_i found hfind
  iterate 3
    split at h
    · cases h
  cases h
  exact ⟨(UniqueTable.findBy_eq_some_iff.mp hfind).1, rfl, rfl⟩

variable {shared : Shared} {accepting : Accepting}

theorem effect_invitesFrom (shared : Shared) (accepting : Accepting) :
    shared.db.InvitesFrom (effect shared accepting).db := by
  unfold effect
  split
  · split <;> exact .of_eq rfl
  · exact replay_induct (.of_eq rfl) fun _ _ _ _ hs h => hs.trans (Write.invitesFrom h)
  · exact .of_eq rfl

/-- An acceptance that goes on has written nothing for others. -/
theorem effect_db (h : a.next shared.db accepting = .inside invite tx result phase) :
    (effect shared accepting).db = shared.db := by
  unfold effect
  split
  · split <;> rfl
  · cases h
  · rfl

theorem effect_locked {id : UUID} (h : (effect shared accepting).locked = some id)
    (hbefore : shared.locked = some id → ∃ inv ∈ shared.db.invites, inv.id = id) :
    ∃ inv ∈ (effect shared accepting).db.invites, inv.id = id := by
  unfold effect at h ⊢
  split at h
  · split at h
    · rename_i hrow
      rw [if_pos hrow]
      obtain ⟨inv, hinv, hid⟩ := List.any_eq_true.mp hrow
      cases h
      exact ⟨inv, hinv, of_decide_eq_true hid⟩
    rename_i hrow
    rw [if_neg hrow]
    exact hbefore h
  · cases h
  · exact hbefore h

end Acceptance

/-! ## The statements of a revocation -/

/-- The users and their memberships stay, and so does the invitation that is locked. -/
structure Shared.Loses (shared shared' : Shared) : Prop where
  same : shared.db.SameButInvites shared'.db
  locked : shared'.locked = shared.locked
  fewer : ∀ inv ∈ shared'.db.invites, inv ∈ shared.db.invites
  kept : ∀ inv ∈ shared.db.invites, shared.locked = some inv.id → inv ∈ shared'.db.invites

theorem Shared.Loses.refl (shared : Shared) : shared.Loses shared :=
  ⟨⟨rfl, rfl, rfl, rfl, rfl⟩, rfl, fun _ h => h, fun _ h _ => h⟩

theorem Shared.deleteInvites_eq_some {shared shared' : Shared} {p : Invite → Bool}
    (h : shared.deleteInvites p = some shared') :
    shared.Loses shared' ∧ ∀ inv ∈ shared'.db.invites, p inv = false := by
  unfold Shared.deleteInvites at h
  split at h
  · cases h
  rename_i hfree
  cases h
  have hmem : ∀ inv, inv ∈ (shared.db.deleteInvites p).invites ↔
      inv ∈ shared.db.invites ∧ p inv = false := fun inv => UniqueTable.mem_deleteWhere
  refine ⟨⟨⟨rfl, rfl, rfl, rfl, rfl⟩, rfl, fun inv hinv => ((hmem inv).mp hinv).1, ?_⟩,
    fun inv hinv => ((hmem inv).mp hinv).2⟩
  intro inv hinv hlocked
  refine (hmem inv).mpr ⟨hinv, Bool.eq_false_iff.mpr fun hp => hfree ?_⟩
  exact List.any_eq_true.mpr ⟨inv, hinv, by simp [hp, hlocked]⟩

namespace Revoking

variable {shared : Shared}

theorem after_loses {waiting next : Revoking} {deleted : Option Shared}
    (h : ∀ shared', deleted = some shared' → shared.Loses shared') :
    shared.Loses (after waiting next shared deleted).2 := by
  cases deleted with
  | none => exact .refl shared
  | some shared' => exact h shared' rfl

theorem execute_loses (shared : Shared) (r : Revoking) : shared.Loses (r.execute shared).2 := by
  cases r with
  | removing now teamID invite count todo =>
    dsimp only [execute]
    split
    · exact after_loses fun _ h => (Shared.deleteInvites_eq_some h).1
    · exact ⟨⟨rfl, rfl, rfl, rfl, rfl⟩, rfl, fun _ h => h, fun _ h _ => h⟩
  | finding now teamID | counting now teamID invite todo | returned call => exact .refl shared
  | _ => exact after_loses fun _ h => (Shared.deleteInvites_eq_some h).1

theorem each_ne_returned (now : Nat) (teamID : UUID) (todo : List Invite) (call : Revocation) :
    each now teamID todo ≠ .returned call := by
  cases todo <;> exact nofun

theorem after_returned {waiting next : Revoking} {deleted : Option Shared} {call : Revocation}
    (hwaiting : waiting ≠ .returned call)
    (h : (after waiting next shared deleted).1 = .returned call) :
    next = .returned call ∧ ∃ shared', deleted = some shared' := by
  cases deleted with
  | none => exact absurd h hwaiting
  | some shared' => exact ⟨h, shared', rfl⟩

/-- A revocation that returns has deleted the invitation. -/
theorem execute_returned {r : Revoking} {orgID inviteID : UUID}
    (h : (r.execute shared).1 = .returned (.invite orgID inviteID)) :
    r = .returned (.invite orgID inviteID) ∨
      ∀ inv ∈ (r.execute shared).2.db.invites, ¬ (inv.id = inviteID ∧ inv.orgID = orgID) := by
  cases r with dsimp only [execute] at h ⊢
  | deleting orgID' inviteID' =>
    obtain ⟨hnext, shared', hdelete⟩ := after_returned (by simp) h
    cases hnext
    rw [hdelete]
    refine .inr fun inv hinv hkey => ?_
    have hp := (Shared.deleteInvites_eq_some hdelete).2 inv hinv
    simp [hkey] at hp
  | finding now teamID => exact absurd h (each_ne_returned _ _ _ _)
  | counting now teamID invite todo => cases h
  | removing now teamID invite count todo =>
    split at h
    · exact absurd (after_returned (by simp) h).1 (each_ne_returned _ _ _ _)
    · exact absurd h (each_ne_returned _ _ _ _)
  | removingLegacy now teamID => cases (after_returned (by simp) h).1
  | returned call => exact .inl h

end Revoking

end BurnerByte.Teams
