import BurnerByte.Teams.Invites
import BurnerByte.Teams.Leads

/-!
# Accepting an invitation

An acceptance that commits has made each of its statements, since one that fails aborts the
transaction. So the user is a member of the organization and of the teams of the invitation
afterwards, and was a member of none of them before.
-/

namespace BurnerByte.Teams

open Outcome Rbac Sql

/-! ## The teams of an invitation -/

/-- The teams that an acceptance joins: those of the assignments, or else the single team. -/
def Db.inviteTeams (db : Db) (invite : Invite) : List TeamAssign :=
  match db.getInviteTeamAssignments invite.id, invite.teamID with
  | [], none => []
  | [], some teamID => [⟨teamID, invite.teamRole.getD "member"⟩]
  | assignments, _ => assignments.map fun a => ⟨a.teamID, a.teamRole⟩

/-- The team exists and is not archived. -/
def Db.isLive (db : Db) (teamID : UUID) : Bool :=
  (db.getTeam teamID).elim false fun team => !team.isArchived

theorem Db.exists_of_isLive {db : Db} {teamID : UUID} (h : db.isLive teamID = true) :
    ∃ team ∈ db.teams.toTable, team.id = teamID := by
  unfold isLive at h
  cases hteam : db.getTeam teamID with
  | none => simp [hteam] at h
  | some team => exact ⟨team, Table.find?_eq_some_iff.mp hteam⟩

/-- The teams of an invitation are different ones. -/
theorem Db.nodup_inviteTeams (db : Db) (invite : Invite) :
    ((db.inviteTeams invite).map TeamAssign.teamID).Nodup := by
  unfold inviteTeams
  split
  · exact List.nodup_nil
  · exact List.nodup_singleton _
  rw [List.map_map]
  have hkeys : ((db.getInviteTeamAssignments invite.id).map assignmentKey).Nodup :=
    db.assignments.unique.sublist (List.filter_sublist.map _)
  refine List.Nodup.of_map (fun teamID => (invite.id, teamID)) ?_
  rw [List.map_map]
  convert hkeys using 1
  apply List.map_congr_left
  intro a ha
  have hid : a.inviteID = invite.id := by
    simpa using (List.mem_filter.mp ha).2 |> And.left ∘ Bool.and_eq_true_iff.mp
  simp [assignmentKey, hid]

/-! ## One team -/

/-- Join a team in a transaction that nothing has aborted. -/
def Db.join (db : Db) (userID : UUID) (a : TeamAssign) : Except RepoError Db :=
  if db.isLive a.teamID then db.createMembership userID a.teamID a.teamRole else .ok db

section

variable {db db' : Db} {tx : Tx Db} {userID : UUID} {a : TeamAssign}

/-- A conflict is tolerated, but the transaction is aborted. -/
theorem tolerate_eq_live {stmt : Db → Except RepoError Db} :
    tolerate (tx.exec abortedError stmt) = .ok (.live db') ↔
      ∃ db, tx = .live db ∧ stmt db = .ok db' := by
  cases tx with
  | aborted => simp [tolerate, abortedError]
  | live db =>
    cases hstmt : stmt db with
    | ok next => simp [Tx.exec_live_ok _ hstmt, tolerate, hstmt]
    | error err =>
      rw [Tx.exec_live_error _ hstmt]
      cases err <;> simp [tolerate, hstmt]

theorem joinTeam_eq_live :
    (∃ joined, joinTeam userID tx a = .ok (.live db', joined)) ↔
      ∃ db, tx = .live db ∧ db.join userID a = .ok db' := by
  cases tx with
  | aborted => simp [joinTeam, Tx.query, abortedError]
  | live db =>
    unfold joinTeam Tx.query Db.join Db.isLive
    simp only [Tx.live.injEq, exists_eq_left']
    cases hteam : db.getTeam a.teamID with
    | none => simp
    | some team =>
      cases harchived : team.isArchived with
      | true => simp [harchived]
      | false =>
        have htolerate := @tolerate_eq_live db' (.live db)
          (fun db => db.createMembership userID a.teamID a.teamRole)
        simp only [Tx.live.injEq, exists_eq_left'] at htolerate
        simp only [Option.elim_some, harchived, Bool.not_false, if_true,
          Bool.false_eq_true, if_false]
        rw [← htolerate]
        split
        · rename_i err herr
          simp [herr]
        · rename_i next hnext
          simp [hnext]

/-- A team that is joined was not joined before, and its role is one of the database's. -/
theorem exists_join_iff (huser : ∃ account ∈ db.svc.accounts.table, account.id = userID) :
    (∃ db', db.join userID a = .ok db') ↔
      (db.isLive a.teamID = true →
        a.teamRole ∈ teamRoles ∧ db.getMembership userID a.teamID = none) := by
  unfold Db.join
  cases hlive : db.isLive a.teamID with
  | false => simp
  | true =>
    rw [if_pos rfl, exists_createMembership_iff]
    have hteam := Db.exists_of_isLive hlive
    exact ⟨fun h _ => ⟨h.1, h.2.1⟩, fun h => ⟨(h rfl).1, (h rfl).2, huser, hteam⟩⟩

theorem join_eq_ok (h : db.join userID a = .ok db') :
    db.SameButTeamMembers db' ∧ ∀ m, m ∈ db'.teamMembers ↔ m ∈ db.teamMembers ∨
      db.isLive a.teamID = true ∧ m.userID = userID ∧ m.teamID = a.teamID ∧
        m.role = a.teamRole := by
  unfold Db.join at h
  split at h
  · rename_i hlive
    obtain ⟨hsame, hrole, hmem⟩ := createMembership_eq_ok h
    refine ⟨hsame, fun m => ?_⟩
    rw [hmem, or_comm]
    cases m
    simp [hlive]
  rename_i hlive
  cases h
  exact ⟨.refl db, fun m => by simp [hlive]⟩

theorem getMembership_join_of_ne {teamID : UUID} (h : db.join userID a = .ok db')
    (hne : teamID ≠ a.teamID) :
    db'.getMembership userID teamID = db.getMembership userID teamID := by
  ext m
  unfold Db.getMembership
  rw [Table.find?_eq_some_iff, Table.find?_eq_some_iff, (join_eq_ok h).2]
  constructor
  · rintro ⟨hold | ⟨_, _, hteam, _⟩, hkey⟩
    · exact ⟨hold, hkey⟩
    · exact absurd ((congrArg Prod.snd hkey).symm.trans hteam) hne
  · rintro ⟨hold, hkey⟩
    exact ⟨.inl hold, hkey⟩

theorem Db.SameButTeamMembers.isLive (h : db.SameButTeamMembers db') (teamID : UUID) :
    db'.isLive teamID = db.isLive teamID := by
  unfold Db.isLive Db.getTeam
  rw [h.teams]

end

/-! ## All teams -/

section

variable {db db' : Db} {userID : UUID}

def Db.joinAll (db : Db) (userID : UUID) (assignments : List TeamAssign) : Except RepoError Db :=
  assignments.foldlM (fun db a => db.join userID a) db

theorem joinAll_cons_eq_ok {a : TeamAssign} {assignments : List TeamAssign} :
    db.joinAll userID (a :: assignments) = .ok db' ↔
      ∃ next, db.join userID a = .ok next ∧ next.joinAll userID assignments = .ok db' := by
  unfold Db.joinAll
  rw [List.foldlM_cons, bind_eq_ok]

theorem joinAssignments_eq_live {tx : Tx Db} {assignments : List TeamAssign} :
    (∃ joined, joinAssignments userID tx assignments = .ok (.live db', joined)) ↔
      ∃ db, tx = .live db ∧ db.joinAll userID assignments = .ok db' := by
  induction assignments generalizing tx with
  | nil => simp [joinAssignments, Db.joinAll, pure, Except.pure]
  | cons a assignments ih =>
    simp only [joinAll_cons_eq_ok]
    constructor
    · rintro ⟨joined, h⟩
      obtain ⟨⟨tx', first⟩, hfirst, h⟩ := bind_eq_ok.mp h
      obtain ⟨⟨tx'', rest⟩, hrest, h⟩ := bind_eq_ok.mp h
      cases h
      -- the rest leaves the transaction live only if joining the first team did
      obtain ⟨next, rfl, hall⟩ := ih.mp ⟨rest, hrest⟩
      obtain ⟨db, htx, hjoin⟩ := joinTeam_eq_live.mp ⟨first, hfirst⟩
      exact ⟨db, htx, next, hjoin, hall⟩
    · rintro ⟨db, htx, next, hjoin, hall⟩
      obtain ⟨first, hfirst⟩ := joinTeam_eq_live.mpr ⟨db, htx, hjoin⟩
      obtain ⟨rest, hrest⟩ := ih.mpr ⟨next, rfl, hall⟩
      refine ⟨first.toList ++ rest, ?_⟩
      simp only [joinAssignments, hfirst, hrest, ok_bind, pure, Except.pure]

/-- All teams can be joined exactly if each of them can be. -/
theorem exists_joinAll_iff (huser : ∃ account ∈ db.svc.accounts.table, account.id = userID)
    {assignments : List TeamAssign} (hnodup : (assignments.map TeamAssign.teamID).Nodup) :
    (∃ db', db.joinAll userID assignments = .ok db') ↔
      ∀ a ∈ assignments, db.isLive a.teamID = true →
        a.teamRole ∈ teamRoles ∧ db.getMembership userID a.teamID = none := by
  induction assignments generalizing db with
  | nil => simp [Db.joinAll, pure, Except.pure]
  | cons a assignments ih =>
    rw [List.map_cons, List.nodup_cons] at hnodup
    rw [List.forall_mem_cons, ← exists_join_iff huser]
    -- what the other teams need is the same before and after the first one is joined
    have hnext {next : Db} (hjoin : db.join userID a = .ok next) :
        (∃ db', next.joinAll userID assignments = .ok db') ↔
          ∀ b ∈ assignments, db.isLive b.teamID = true →
            b.teamRole ∈ teamRoles ∧ db.getMembership userID b.teamID = none := by
      have hsame := (join_eq_ok hjoin).1
      rw [ih (hsame.svc ▸ huser) hnodup.2]
      refine forall₂_congr fun b hb => ?_
      have hne : b.teamID ≠ a.teamID := by
        intro heq
        exact hnodup.1 (List.mem_map.mpr ⟨b, hb, heq⟩)
      rw [hsame.isLive, getMembership_join_of_ne hjoin hne]
    constructor
    · rintro ⟨db', h⟩
      obtain ⟨next, hjoin, hrest⟩ := joinAll_cons_eq_ok.mp h
      exact ⟨⟨next, hjoin⟩, (hnext hjoin).mp ⟨db', hrest⟩⟩
    · rintro ⟨⟨next, hjoin⟩, hrest⟩
      obtain ⟨db', hall⟩ := (hnext hjoin).mpr hrest
      exact ⟨db', joinAll_cons_eq_ok.mpr ⟨next, hjoin, hall⟩⟩

/-- Joining adds the memberships of the teams that can be joined. -/
theorem joinAll_eq_ok {assignments : List TeamAssign}
    (h : db.joinAll userID assignments = .ok db') :
    db.SameButTeamMembers db' ∧ ∀ m, m ∈ db'.teamMembers ↔ m ∈ db.teamMembers ∨
      ∃ a ∈ assignments, db.isLive a.teamID = true ∧ m.userID = userID ∧ m.teamID = a.teamID ∧
        m.role = a.teamRole := by
  induction assignments generalizing db with
  | nil =>
    obtain rfl := Except.ok.inj h
    exact ⟨.refl db, by simp⟩
  | cons a assignments ih =>
    obtain ⟨next, hjoin, hrest⟩ := joinAll_cons_eq_ok.mp h
    obtain ⟨hsame, hmem⟩ := join_eq_ok hjoin
    obtain ⟨hsame', hmem'⟩ := ih hrest
    refine ⟨hsame.trans hsame', fun m => ?_⟩
    rw [hmem', hmem, or_assoc]
    simp only [hsame.isLive, List.exists_mem_cons_iff]

end

/-! ## The transaction -/

section

variable {db db' : Db} {tx : Tx Db} {userID : UUID} {invite : Invite} {now : Nat}

theorem joinTeams_eq_live :
    (∃ result, joinTeams userID invite tx = .ok (.live db', result)) ↔
      ∃ db, tx = .live db ∧ db.joinAll userID (db.inviteTeams invite) = .ok db' := by
  cases tx with
  | aborted =>
    have hjoin (a : TeamAssign) : joinTeam userID .aborted a =
        .error ("look up team: " ++ abortedError.message) := rfl
    cases hteam : invite.teamID with
    | none => simp [joinTeams, Tx.query, hteam, Except.toOption]
    | some teamID => simp [joinTeams, Tx.query, hteam, Except.toOption, hjoin]
  | live db =>
    have hjoin := @joinAssignments_eq_live db' userID (.live db)
    simp only [Tx.live.injEq, exists_eq_left'] at hjoin ⊢
    unfold joinTeams Db.inviteTeams Tx.query
    simp only [Except.toOption, Option.getD_some]
    generalize db.getInviteTeamAssignments invite.id = assignments
    cases assignments with
    | nil =>
      cases hteam : invite.teamID with
      | none => simp [Db.joinAll, pure, Except.pure]
      | some teamID =>
        rw [← hjoin]
        cases hfirst : joinTeam userID (.live db) ⟨teamID, invite.teamRole.getD "member"⟩ with
        | error msg => simp [joinAssignments, hfirst]
        | ok first =>
          obtain ⟨tx, joined⟩ := first
          cases joined <;> simp [joinAssignments, hfirst, pure, Except.pure]
    | cons a assignments =>
      simp only
      rw [← hjoin]
      cases hall : joinAssignments userID (.live db)
          ((a :: assignments).map fun a => ⟨a.teamID, a.teamRole⟩) with
      | error msg => simp
      | ok all => simp [pure, Except.pure, Prod.ext_iff]

/-- The address of the user is taken as verified. -/
def Db.verified (db : Db) (userID : UUID) : Db :=
  match db.svc.accounts.getByID userID with
  | none => db
  | some user =>
    if user.emailVerified then db else db.updateUser userID { user with emailVerified := true }

theorem verifyInvited_eq_live :
    verifyInvited userID tx = .live db' ↔ ∃ db, tx = .live db ∧ db.verified userID = db' := by
  cases tx with
  | aborted => simp [verifyInvited, Tx.query]
  | live db =>
    unfold verifyInvited Db.verified Tx.query
    cases huser : db.svc.accounts.getByID userID with
    | none => simp [huser]
    | some user => cases hverified : user.emailVerified <;> simp [huser, hverified, Tx.exec]

/-- An acceptance that succeeds has made all its statements. -/
theorem acceptPending_eq_ok :
    (∃ result, acceptPending now db invite userID = .ok (result, db')) ↔
      ∃ member joined, db.createOrgMembership userID invite.orgID invite.orgRole = .ok member ∧
        member.joinAll userID (member.inviteTeams invite) = .ok joined ∧
        (joined.verified userID).markInviteAccepted invite.id now = db' := by
  constructor
  · rintro ⟨result, h⟩
    obtain ⟨tx₁, hmember, h⟩ := bind_eq_ok.mp h
    obtain ⟨⟨tx₂, result'⟩, hjoined, h⟩ := bind_eq_ok.mp h
    -- back from the commit, each statement finds the transaction live
    dsimp only at h
    split at h
    · cases h
    rename_i tx₃ hmark
    split at h
    · cases h
    rename_i last hcommit
    cases h
    have hlive := (congrArg Prod.snd hmark).trans (Tx.commit_eq_some.mp hcommit)
    obtain ⟨verified, hverified, hlast⟩ := Tx.exec_eq_live.mp hlive
    obtain ⟨joined, rfl, rfl⟩ := verifyInvited_eq_live.mp hverified
    obtain ⟨member, rfl, hall⟩ := joinTeams_eq_live.mp ⟨_, hjoined⟩
    obtain ⟨start, hstart, hinsert⟩ := tolerate_eq_live.mp (mapError_eq_ok.mp hmember)
    obtain rfl := Tx.live.inj hstart
    exact ⟨member, joined, hinsert, hall, Except.ok.inj hlast⟩
  · rintro ⟨member, joined, hinsert, hall, rfl⟩
    have hmember : tolerate ((Tx.live db).exec abortedError fun db =>
        db.createOrgMembership userID invite.orgID invite.orgRole) = .ok (.live member) :=
      tolerate_eq_live.mpr ⟨db, rfl, hinsert⟩
    obtain ⟨result, hjoined⟩ := joinTeams_eq_live.mpr ⟨member, rfl, hall⟩
    have hverified : verifyInvited userID (.live joined) = .live (joined.verified userID) :=
      verifyInvited_eq_live.mpr ⟨joined, rfl, rfl⟩
    refine ⟨result, ?_⟩
    unfold acceptPending
    rw [mapError_eq_ok.mpr hmember, ok_bind, hjoined, ok_bind]
    simp only [hverified, Tx.exec, Tx.commit]

theorem verified_same (db : Db) (userID : UUID) :
    (db.verified userID).orgMembers = db.orgMembers ∧
      (db.verified userID).teamMembers = db.teamMembers ∧
      (db.verified userID).invites = db.invites ∧ (db.verified userID).teams = db.teams := by
  unfold Db.verified
  split
  · exact ⟨rfl, rfl, rfl, rfl⟩
  · split <;> exact ⟨rfl, rfl, rfl, rfl⟩

end

/-! ## Accepting -/

/-- After an acceptance the invitation is accepted, and the user is a member of the
organization and of each team of the invitation that existed and was not archived. -/
structure Db.Admits (before after : Db) (invite : Invite) (userID : UUID) : Prop where
  accepted : ∃ inv ∈ after.invites, inv.id = invite.id ∧ inv.acceptedAt.isSome
  org : (after.getOrgMembership userID invite.orgID).isSome
  teams : ∀ a ∈ before.inviteTeams invite, before.isLive a.teamID = true →
    (after.getMembership userID a.teamID).isSome

/-- The user joins the organization and those teams, and the invitation is marked. -/
structure Db.Accepts (db : Db) (invite : Invite) (userID : UUID) (now : Nat) (db' : Db) : Prop where
  invites : db'.invites = (db.markInviteAccepted invite.id now).invites
  teams : db'.teams = db.teams
  org : ∀ m, m ∈ db'.orgMembers ↔
    m = ⟨userID, invite.orgID, invite.orgRole, invite.orgRole_mem⟩ ∨ m ∈ db.orgMembers
  members : ∀ m, m ∈ db'.teamMembers ↔ m ∈ db.teamMembers ∨
    ∃ a ∈ db.inviteTeams invite, db.isLive a.teamID = true ∧ m.userID = userID ∧
      m.teamID = a.teamID ∧ m.role = a.teamRole

section

variable {env : Org.Env} {now : Nat} {db db' : Db} {userID : UUID} {invite : Invite}
  {result : AcceptInviteResult}

theorem accepts_of_acceptPending (h : acceptPending now db invite userID = .ok (result, db')) :
    db.Accepts invite userID now db' := by
  obtain ⟨member, joined, hinsert, hall, rfl⟩ := acceptPending_eq_ok.mp ⟨result, h⟩
  obtain ⟨_, hteams, hmembers, hinvites, hassigned, _, horg⟩ := createOrgMembership_eq_ok hinsert
  obtain ⟨hsame, hjoined⟩ := joinAll_eq_ok hall
  obtain ⟨horgs, hteamMembers, hkept, hverified⟩ := verified_same joined userID
  refine ⟨?_, hverified.trans (hsame.teams.trans hteams), fun m => ?_, fun m => ?_⟩
  · simp only [Db.markInviteAccepted, hkept, hsame.invites, hinvites]
  · change m ∈ (joined.verified userID).orgMembers ↔ _
    rw [horgs, hsame.orgMembers, (Table.insert_eq_some horg).2]
  · change m ∈ (joined.verified userID).teamMembers ↔ _
    rw [hteamMembers, hjoined, hmembers]
    unfold Db.inviteTeams Db.getInviteTeamAssignments Db.isLive Db.getTeam
    rw [hteams, hassigned]

/-- An acceptance commits exactly if the user is a member neither of the organization nor of
a team of the invitation, and the roles there are roles of the database. -/
theorem exists_acceptPending_iff (hinvite : invite ∈ db.invites)
    (huser : ∃ account ∈ db.svc.accounts.table, account.id = userID) :
    (∃ result db', acceptPending now db invite userID = .ok (result, db')) ↔
      db.getOrgMembership userID invite.orgID = none ∧
        ∀ a ∈ db.inviteTeams invite, db.isLive a.teamID = true →
          a.teamRole ∈ teamRoles ∧ db.getMembership userID a.teamID = none := by
  have hjoin {member : Db}
      (hinsert : db.createOrgMembership userID invite.orgID invite.orgRole = .ok member) :
      (∃ joined, member.joinAll userID (member.inviteTeams invite) = .ok joined) ↔
        ∀ a ∈ db.inviteTeams invite, db.isLive a.teamID = true →
          a.teamRole ∈ teamRoles ∧ db.getMembership userID a.teamID = none := by
    obtain ⟨hsvc, hteams, hmembers, _, hassigned, _⟩ := createOrgMembership_eq_ok hinsert
    rw [exists_joinAll_iff (hsvc ▸ huser) (member.nodup_inviteTeams invite)]
    unfold Db.inviteTeams Db.getInviteTeamAssignments Db.isLive Db.getMembership Db.getTeam
    rw [hteams, hmembers, hassigned]
  constructor
  · rintro ⟨result, db', h⟩
    obtain ⟨member, joined, hinsert, hall, _⟩ := acceptPending_eq_ok.mp ⟨result, h⟩
    exact ⟨(exists_createOrgMembership_iff.mp ⟨member, hinsert⟩).2.1,
      (hjoin hinsert).mp ⟨joined, hall⟩⟩
  · rintro ⟨horg, hteams⟩
    obtain ⟨member, hinsert⟩ := exists_createOrgMembership_iff.mpr
      ⟨invite.orgRole_mem, horg, huser, db.invite_org invite hinvite⟩
    obtain ⟨joined, hall⟩ := (hjoin hinsert).mpr hteams
    obtain ⟨result, h⟩ := acceptPending_eq_ok.mpr ⟨member, joined, hinsert, hall, rfl⟩
    exact ⟨result, _, h⟩

/-- An acceptance that commits admits the user. -/
theorem admits_of_acceptPending (hinvite : invite ∈ db.invites)
    (huser : ∃ account ∈ db.svc.accounts.table, account.id = userID)
    (h : acceptPending now db invite userID = .ok (result, db')) : db.Admits db' invite userID := by
  have haccepts := accepts_of_acceptPending h
  refine ⟨⟨{ invite with acceptedAt := some now }, ?_, rfl, rfl⟩, ?_, fun a ha hlive => ?_⟩
  · rw [haccepts.invites, Db.markInviteAccepted, UniqueTable.mem_updateWhere]
    exact ⟨invite, hinvite, if_pos (by simp)⟩
  · have hmember := (haccepts.org _).mpr (.inl rfl)
    exact Option.isSome_iff_exists.mpr ⟨_, Table.find?_eq_some_iff.mpr ⟨hmember, rfl⟩⟩
  · obtain ⟨hrole, _⟩ := ((exists_acceptPending_iff hinvite huser).mp ⟨result, db', h⟩).2 a ha hlive
    have hjoined := (haccepts.members ⟨userID, a.teamID, a.teamRole, hrole⟩).mpr
      (.inr ⟨a, ha, hlive, rfl, rfl, rfl⟩)
    exact Option.isSome_iff_exists.mpr ⟨_, Table.find?_eq_some_iff.mpr ⟨hjoined, rfl⟩⟩

end

/-- The user of a matching address is admitted before the invitation expires exactly if it is
pending, the user is a member neither of the organization nor of a team of the invitation, and
the roles there are roles of the database, or if it was accepted before and the user still is
a member of all of them. -/
theorem acceptInvite_admits_iff (env : Org.Env) (now : Nat) (db : Db) (token : String)
    (invite : Invite) (userID : UUID) (userEmail : String) (hinvite : invite ∈ db.invites)
    (htoken : invite.tokenHash = env.hashToken token) (hexpiry : now ≤ invite.expiresAt)
    (hemail : env.equalFold invite.email userEmail = true)
    (huser : ∃ account ∈ db.svc.accounts.table, account.id = userID) :
    (∃ result db', acceptInvite env now db token userID userEmail = .ok (result, db') ∧
        db.Admits db' invite userID) ↔
      (invite.acceptedAt = none ∧ db.getOrgMembership userID invite.orgID = none ∧
        ∀ a ∈ db.inviteTeams invite, db.isLive a.teamID = true →
          a.teamRole ∈ teamRoles ∧ db.getMembership userID a.teamID = none) ∨
      (invite.acceptedAt.isSome ∧ (db.getOrgMembership userID invite.orgID).isSome ∧
        ∀ a ∈ db.inviteTeams invite, db.isLive a.teamID = true →
          (db.getMembership userID a.teamID).isSome) := by
  have hfind : db.getInviteByToken (env.hashToken token) = some invite :=
    UniqueTable.findBy_eq_some_iff.mpr ⟨hinvite, htoken⟩
  unfold acceptInvite
  simp only [hfind]
  cases haccepted : invite.acceptedAt with
  | some time =>
    simp only [Option.isSome_some, if_true, reduceCtorEq, false_and, true_and, false_or]
    constructor
    · rintro ⟨result, db', h, hadmits⟩
      cases h
      exact ⟨hadmits.org, hadmits.teams⟩
    · rintro ⟨horg, hteams⟩
      exact ⟨_, db, rfl, ⟨invite, hinvite, rfl, by simp [haccepted]⟩, horg, hteams⟩
  | none =>
    have hpending : ¬ invite.expiresAt < now := Nat.not_lt.mpr hexpiry
    simp only [Option.isSome_none, Bool.false_eq_true, if_false, hpending, hemail, Bool.not_true,
      false_and, or_false, true_and]
    rw [← exists_acceptPending_iff hinvite huser]
    constructor
    · rintro ⟨result, db', h, _⟩
      exact ⟨result, db', h⟩
    · rintro ⟨result, db', h⟩
      exact ⟨result, db', h, admits_of_acceptPending hinvite huser h⟩

/-- The user has a membership that they did not have before. -/
def Acquires (db db' : Db) (userID : UUID) : Prop :=
  (∃ m ∈ db'.orgMembers, m.userID = userID ∧ m ∉ db.orgMembers) ∨
    ∃ m ∈ db'.teamMembers, m.userID = userID ∧ m ∉ db.teamMembers

theorem acquires_of_getOrgMembership {db db' : Db} {userID orgID : UUID}
    (hbefore : db.getOrgMembership userID orgID = none)
    (hafter : (db'.getOrgMembership userID orgID).isSome = true) : Acquires db db' userID := by
  obtain ⟨m, hm⟩ := Option.isSome_iff_exists.mp hafter
  obtain ⟨hmem, hkey⟩ := Table.find?_eq_some_iff.mp hm
  refine .inl ⟨m, hmem, congrArg Prod.fst hkey, fun hold => ?_⟩
  have hsome := Table.find?_eq_some_iff.mpr ⟨hold, hkey⟩
  exact Option.some_ne_none m (hsome.symm.trans hbefore)

/-- User 1 invites an address to organization 1 and team 5. -/
def inviteToBlue (db : Db) (email teamRole : String) : Except String Db.NewInvite × Db :=
  inviteMember Org.sampleEnv 0 db 1 ⟨email, "member", [], none, none, [⟨5, teamRole⟩]⟩ 1 9 "t1"

/-- User 4 is invited. -/
def fourInvited : Db := (inviteToBlue sampleDb "d@example.com" "member").2

/-- The invitation of user 4. -/
def blueInvite : Option Invite := fourInvited.getInviteByToken (Org.sampleEnv.hashToken "t1")

theorem blueInvite_isSome : blueInvite.isSome = true := by decide +kernel

/-- User 4, who is a member of nothing yet, is admitted. -/
theorem newcomer_admitted : ∃ invite ∈ fourInvited.invites,
    ∃ result db', acceptInvite Org.sampleEnv 50 fourInvited "t1" 4 "d@example.com" =
        .ok (result, db') ∧ fourInvited.Admits db' invite 4 := by
  obtain ⟨hinvite, htoken⟩ :=
    UniqueTable.findBy_eq_some_iff.mp (Option.some_get blueInvite_isSome).symm
  refine ⟨blueInvite.get blueInvite_isSome, hinvite, ?_⟩
  exact (acceptInvite_admits_iff Org.sampleEnv 50 _ "t1" _ 4 "d@example.com" hinvite htoken
    (by decide +kernel) (by decide +kernel) (by decide +kernel)).mpr (by decide +kernel)

/-- User 4 is added to team 5 without being a member of the organization. -/
def addedToBlue : Db :=
  (addMember sampleEnv sampleDb 5 ⟨"d@example.com", "", "member"⟩).toOption.getD sampleDb

/-- The invitation is created, and the user cannot accept it at time 50. -/
def invitedInVain (db : Db) (email teamRole : String) (userID : UUID) : Bool :=
  (inviteToBlue db email teamRole).1.toOption.isSome &&
    (acceptInvite Org.sampleEnv 50 (inviteToBlue db email teamRole).2 "t1" userID
      email).toOption.isNone

/-- Invitations of user 2, who is a member of the organization; of user 4 after they were added
to the team; and of user 4 with an empty role or the one of an owner in the team, are created,
but cannot be accepted. -/
theorem invited_refused :
    invitedInVain sampleDb "b@example.com" "member" 2 = true ∧
      invitedInVain addedToBlue "d@example.com" "member" 4 = true ∧
      invitedInVain sampleDb "d@example.com" "" 4 = true ∧
      invitedInVain sampleDb "d@example.com" "owner" 4 = true := by
  decide +kernel

end BurnerByte.Teams
