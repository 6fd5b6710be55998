import BurnerByte.Teams.InviteEffects
import BurnerByte.Teams.Requests
import BurnerByte.Tenancy.Assignments

/-!
# The organization without its teams, and the teams without their members

`BurnerByte.Org` models the members of an organization and leaves its teams out: whether the
statements about teams succeed is part of a request there. `BurnerByte.Tenancy` models the domains
of teams and leaves out their members and the checks that refuse a request. Both are views of the
database of teams. A function that is modelled here and in a view does there what it does here.
-/

namespace BurnerByte.Teams

open Sql

variable {db db' : Db} {orgID userID : UUID}

/-! ## Members and invitations of an organization -/

def Invite.toOrg (inv : Invite) : Org.Invite where
  id := inv.id
  orgID := inv.orgID
  email := inv.email
  orgRole := inv.orgRole
  role_mem := inv.orgRole_mem
  tokenHash := inv.tokenHash
  invitedBy := inv.invitedBy
  accepted := inv.acceptedAt.isSome
  expiresAt := inv.expiresAt

def Db.toOrg (db : Db) : Org.Db where
  users := ⟨db.svc.accounts.table.rows.map fun account => ⟨account.id, account.user.email⟩,
    by rw [List.map_map]; exact db.svc.accounts.table.unique⟩
  memberships := db.orgMembers
  invites := ⟨db.invites.rows.map Invite.toOrg, by rw [List.map_map]; exact db.invites.unique⟩

theorem deactivateUser_toOrg :
    (deactivateUser db orgID userID).map Db.toOrg = Org.deactivateUser db.toOrg orgID userID := by
  unfold deactivateUser Org.deactivateUser
  have hmembers : db.toOrg.memberships = db.orgMembers := rfl
  have howners : db.toOrg.countOwners orgID = db.countOwners orgID := rfl
  rw [hmembers, howners, Db.getOrgMembership]
  cases db.orgMembers.find? (userID, orgID) with
  | none => rfl
  | some m =>
    dsimp only
    split <;> rfl

theorem createOrgMembership_toOrg {role : String}
    (h : db.createOrgMembership userID orgID role = .ok db') :
    db.toOrg.createMembership userID orgID role = .ok db'.toOrg := by
  obtain ⟨hsvc, _, _, hinvites, _, hrole, hinsert⟩ := createOrgMembership_eq_ok h
  obtain ⟨_, _, ⟨account, haccount, hid⟩, _⟩ := exists_createOrgMembership_iff.mp ⟨db', h⟩
  have huser : db.toOrg.users.find? userID = some ⟨account.id, account.user.email⟩ :=
    Table.find?_eq_some_iff.mpr ⟨List.mem_map.mpr ⟨account, haccount, rfl⟩, hid⟩
  have hmembers : db.toOrg.memberships = db.orgMembers := rfl
  simp only [Org.Db.createMembership, dif_pos hrole, hmembers, hinsert, huser]
  simp [Db.toOrg, hsvc, hinvites]

theorem verified_toOrg (db : Db) (userID : UUID) : (db.verified userID).toOrg = db.toOrg := by
  unfold Db.verified
  split
  · rfl
  split
  · rfl
  · simp [Db.toOrg, Db.updateUser, Account.Accounts.update, Table.updateWhere, Function.comp_def,
      apply_ite]

theorem markInviteAccepted_toOrg (db : Db) (id : UUID) (now : Nat) :
    (db.markInviteAccepted id now).toOrg =
      { db.toOrg with
        invites := db.toOrg.invites.updateWhere (fun inv => inv.id = id)
          (fun inv => { inv with accepted := true }) fun _ => rfl } := by
  simp only [Db.toOrg, Db.markInviteAccepted, UniqueTable.updateWhere, Table.updateWhere,
    List.map_map]
  congr 3
  exact funext fun _ => apply_ite Invite.toOrg ..

/-- An acceptance fails in the view if and only if it does so here, where the statements about
teams decide whether the transaction commits. -/
theorem acceptInvite_toOrg (env : Org.Env) (now : Nat) (db : Db) (token : String) (userID : UUID)
    (userEmail : String) :
    ∃ committed, (Org.acceptInvite env now db.toOrg token userID userEmail committed).toOption =
      (acceptInvite env now db token userID userEmail).toOption.map fun r => r.2.toOrg := by
  have hfind : (db.toOrg.invites.rows.find? fun inv => inv.tokenHash = env.hashToken token) =
      (db.getInviteByToken (env.hashToken token)).map Invite.toOrg := List.find?_map ..
  unfold acceptInvite Org.acceptInvite
  rw [hfind]
  cases db.getInviteByToken (env.hashToken token) with
  | none => exact ⟨true, rfl⟩
  | some invite =>
    simp only [Option.map_some, Invite.toOrg]
    iterate 3
      split
      · exact ⟨true, rfl⟩
    cases hpending : acceptPending now db invite userID with
    | error msg =>
      refine ⟨false, ?_⟩
      split <;> rfl
    | ok r =>
      obtain ⟨result, db'⟩ := r
      obtain ⟨member, joined, hinsert, hall, rfl⟩ := acceptPending_eq_ok.mp ⟨result, hpending⟩
      have hsame := (joinAll_eq_ok hall).1
      have hjoined : joined.toOrg = member.toOrg := by
        simp only [Db.toOrg, hsame.svc, hsame.orgMembers, hsame.invites]
      refine ⟨true, ?_⟩
      rw [createOrgMembership_toOrg hinsert, ← hjoined, ← verified_toOrg joined userID]
      exact congrArg some (markInviteAccepted_toOrg _ invite.id now).symm

theorem deletePendingInviteByEmail_toOrg (db : Db) (orgID : UUID) (email : String) :
    (db.deletePendingInviteByEmail orgID email).toOrg =
      db.toOrg.deletePendingInviteByEmail orgID email := by
  simp [Db.toOrg, Db.deletePendingInviteByEmail, Db.deleteInvites, UniqueTable.deleteWhere,
    Org.Db.deletePendingInviteByEmail, Table.deleteWhere, List.filter_map, Function.comp_def,
    Invite.toOrg]
  rfl

theorem createInvite_toOrg {new : Db.NewInvite} (h : db.createInvite new = .ok db')
    (hemail : ∀ email ∈ Sso.varchar 255 new.email, email = new.email) :
    db.toOrg.createInvite new.id new.orgID new.email new.orgRole new.tokenHash new.invitedBy
      new.expiresAt = some db'.toOrg := by
  obtain ⟨hsame, _, _, email, hroles, hstored, hrows⟩ := createInvite_eq_ok h
  obtain rfl := hemail email hstored
  have hfresh : new.id ∉ db.toOrg.invites.rows.map Org.Invite.id := by
    have hids : db.toOrg.invites.rows.map Org.Invite.id = db.invites.rows.map Invite.id :=
      List.map_map
    have hunique := db'.invites.unique
    rw [hrows, List.map_cons, List.nodup_cons, ← hids] at hunique
    exact hunique.1
  unfold Org.Db.createInvite
  rw [dif_pos hroles.1, Table.insert, dif_neg hfresh]
  simp only [Option.map_some, Db.toOrg, hsame.svc, hsame.orgMembers, hrows, List.map_cons]
  rfl

/-- The verdicts on the teams are those of the view's request. The column keeps an address of up to
255 characters as it is. -/
theorem inviteMember_toOrg (env : Org.Env) (now : Nat) (db : Db) (orgID : UUID)
    (input : InviteMemberInput) (inviterID id : UUID) (token : String)
    (hemail : ∀ email ∈ Sso.varchar 255 (env.normalizeEmail input.email),
      email = env.normalizeEmail input.email) :
    ∃ assignmentsError teamError,
      let r := Org.inviteMember env now db.toOrg orgID ⟨input.email, input.orgRole,
        input.allowedAuth, assignmentsError, teamError⟩ inviterID id token
      r.1.isOk = (inviteMember env now db orgID input inviterID id token).1.isOk ∧
        r.2 = (inviteMember env now db orgID input inviterID id token).2.toOrg := by
  obtain ⟨_, _, hcall⟩ | ⟨hpasses, ⟨msg, hcall⟩ | ⟨_, _, created, db', hcreate, hassign, hcall⟩⟩ :=
    inviteMember_cases env now db orgID input inviterID id token
  · refine ⟨some "", none, ?_⟩
    rw [hcall]
    dsimp only [Org.inviteMember]
    iterate 3
      split
      · exact ⟨rfl, rfl⟩
    cases env.authError (Org.defaultAuth input.allowedAuth) <;> exact ⟨rfl, rfl⟩
  · refine ⟨none, some msg, ?_⟩
    simp only [hcall, Org.inviteMember, hpasses.email, hpasses.address, Org.validOrgRole,
      hpasses.role, hpasses.auth, deletePendingInviteByEmail_toOrg, if_false, Bool.not_true,
      Bool.false_eq_true]
    exact ⟨rfl, trivial⟩
  · refine ⟨none, none, ?_⟩
    obtain ⟨hsame, hinvites, _⟩ := createInviteTeamAssignments_eq_ok hassign
    have hassigned : db'.toOrg = created.toOrg := by
      simp only [Db.toOrg, hsame.svc, hsame.orgMembers, hinvites]
    have hcreated := createInvite_toOrg hcreate hemail
    simp only [hcall, Org.inviteMember, hpasses.email, hpasses.address, Org.validOrgRole,
      hpasses.role, hpasses.auth, ← deletePendingInviteByEmail_toOrg, if_false, Bool.not_true,
      Bool.false_eq_true, hcreated, hassigned]
    exact ⟨rfl, trivial⟩

/-! ## The teams of an organization -/

def Team.toTenancy (team : Team) : Tenancy.Team := ⟨team.id, team.orgID, team.isArchived⟩

/-- The organizations and teams of the view are those of the database. -/
structure Db.ShownBy (db : Db) (shown : Tenancy.Db) : Prop where
  orgs : shown.orgs.rows = db.orgs.rows.map Organization.id
  teams : shown.teams.rows = db.teams.rows.map Team.toTenancy

/-- The view creates the team as well, and goes on with its domains. -/
theorem createTeam_shown {env : Env} {input : CreateTeamInput} {creatorID : UUID}
    {draws : TeamDraws} {result : CreateTeamResult} {shown : Tenancy.Db} (hshown : db.ShownBy shown)
    (h : createTeam env db orgID input creatorID draws = .ok (result, db'))
    (domains : List Tenancy.InitialDomain) :
    ∃ teams, db'.ShownBy { shown with teams } ∧
      Tenancy.createTeam shown orgID draws.id domains =
        domains.foldlM (Tenancy.assignInitialDomain draws.id orgID) { shown with teams } := by
  obtain ⟨team, created, hid, rfl, harchived, hcreate, hfinish⟩ := createTeam_eq_ok h
  obtain ⟨hinsert, ⟨org, horg, horgID⟩, horgs, _⟩ := Db.createTeam_eq_ok hcreate
  have hsame := (finishTeam_eq_ok hfinish).1
  have hrow : team.toTenancy = ⟨draws.id, team.orgID, false⟩ := by
    rw [Team.toTenancy, hid, harchived]
  obtain ⟨teams, hteams⟩ : ∃ teams, shown.teams.insert team.toTenancy = some teams := by
    refine Table.exists_insert fun old hold => ?_
    change old ∈ shown.teams.rows at hold
    rw [hshown.teams] at hold
    obtain ⟨row, hrow, rfl⟩ := List.mem_map.mp hold
    exact (UniqueTable.fresh_of_insert hinsert).1 row hrow
  have hlisted : team.orgID ∈ shown.orgs.rows := by
    rw [hshown.orgs]
    exact List.mem_map.mpr ⟨org, horg, horgID⟩
  have hexists : shown.orgs.find? team.orgID = some team.orgID :=
    Table.find?_eq_some_iff.mpr ⟨hlisted, rfl⟩
  refine ⟨teams, ⟨?_, ?_⟩, ?_⟩
  · rw [hsame.orgs, horgs]
    exact hshown.orgs
  · rw [hsame.teams, UniqueTable.rows_insert hinsert, List.map_cons, ← hshown.teams]
    exact Table.rows_insert hteams
  · rw [hrow] at hteams
    simp [Tenancy.createTeam, hexists, hteams]

/-! ## Creating an organization -/

/-- The two statements of the view, with nothing between them. -/
theorem createOrg_shown {casing : Go.Casing} {s s' : Org.Installation} {name : String}
    {creatorID : UUID} {draws : Org.OrgDraws} {shown : Tenancy.Db}
    (hshown : shown.orgs.rows = s.orgs.rows.map Org.Organization.id)
    (h : Org.createOrg casing s name creatorID draws = .ok s') :
    ∃ orgs, Trace.run Tenancy.step shown [.countOrgs draws.id, .createOrg draws.id] =
      { shown with orgs } ∧ orgs.rows = s'.orgs.rows.map Org.Organization.id := by
  obtain ⟨org, created, hid, hcreate, hjoin, hnone⟩ := Org.createOrg_eq_ok h
  obtain ⟨_, row, hrows, hrow⟩ := Org.Installation.createOrg_eq_ok hcreate
  obtain ⟨_, horgs⟩ := Org.Installation.createMembership_eq_ok hjoin
  rw [hnone, List.map_nil] at hshown
  obtain ⟨orgs, hinsert⟩ : ∃ orgs, shown.orgs.insert draws.id = some orgs := by
    refine Table.exists_insert fun old hold => ?_
    change old ∈ shown.orgs.rows at hold
    rw [hshown] at hold
    cases hold
  refine ⟨orgs, ?_, ?_⟩
  · simp [Trace.run, Tenancy.step, hshown, hinsert]
  · rw [horgs, hrows, hnone, List.map_singleton, hrow, hid, Table.rows_insert hinsert, hshown]

end BurnerByte.Teams
