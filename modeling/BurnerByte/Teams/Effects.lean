import BurnerByte.Teams.Members

/-!
# What the operations on teams do

An operation that succeeds has passed its checks and made its statements. Each lemma below
says so for one of them.
-/

namespace BurnerByte.Teams

open Outcome Rbac Sql

/-! ## Statements -/

variable {db db' : Db} {userID teamID orgID : UUID} {role : String}

@[simp] theorem mem_deleteTeamMembers {p : TeamMembership → Bool} {m : TeamMembership} :
    m ∈ (db.deleteTeamMembers p).teamMembers ↔ m ∈ db.teamMembers ∧ p m = false :=
  Table.mem_deleteWhere

/-- What a new membership of a team leaves as it is. -/
structure Db.SameButTeamMembers (db db' : Db) : Prop where
  svc : db'.svc = db.svc
  orgs : db'.orgs = db.orgs
  teams : db'.teams = db.teams
  orgMembers : db'.orgMembers = db.orgMembers
  invites : db'.invites = db.invites
  assignments : db'.assignments = db.assignments

theorem Db.SameButTeamMembers.refl (db : Db) : db.SameButTeamMembers db :=
  ⟨rfl, rfl, rfl, rfl, rfl, rfl⟩

theorem Db.SameButTeamMembers.trans {db₁ db₂ db₃ : Db} (h : db₁.SameButTeamMembers db₂)
    (h' : db₂.SameButTeamMembers db₃) : db₁.SameButTeamMembers db₃ :=
  ⟨h'.svc.trans h.svc, h'.orgs.trans h.orgs, h'.teams.trans h.teams,
    h'.orgMembers.trans h.orgMembers, h'.invites.trans h.invites,
    h'.assignments.trans h.assignments⟩

/-- A membership that exists gets a role of the database; the others stay as they are. -/
theorem updateMemberRole_eq_ok (h : db.updateMemberRole userID teamID role = .ok db') :
    db.SameButTeamMembers db' ∧ ∃ (hrole : role ∈ teamRoles) (current : _),
      db.getMembership userID teamID = some current ∧
        ∀ m, m ∈ db'.teamMembers ↔ m = { current with role, role_mem := hrole } ∨
          m ∈ db.teamMembers ∧ Sso.teamMemberKey m ≠ (userID, teamID) := by
  unfold Db.updateMemberRole at h
  split at h
  · rename_i hrole
    obtain ⟨hmember, h⟩ := guard_eq_ok.mp h
    cases h
    obtain ⟨current, hcurrent⟩ := Option.ne_none_iff_exists'.mp (by simpa using hmember)
    exact ⟨⟨rfl, rfl, rfl, rfl, rfl, rfl⟩, hrole, current, hcurrent,
      fun _ => Table.mem_updateKey (by intro _; rfl) hcurrent⟩
  · cases h

theorem createMembership_eq_ok (h : db.createMembership userID teamID role = .ok db') :
    db.SameButTeamMembers db' ∧ ∃ hrole : role ∈ teamRoles,
      ∀ m, m ∈ db'.teamMembers ↔ m = ⟨userID, teamID, role, hrole⟩ ∨ m ∈ db.teamMembers := by
  unfold Db.createMembership at h
  split at h
  · rename_i hrole
    split at h
    · cases h
    rename_i members hinsert
    split at h
    · cases h
      exact ⟨⟨rfl, rfl, rfl, rfl, rfl, rfl⟩, hrole, (Table.insert_eq_some hinsert).2⟩
    · cases h
  · cases h

theorem createOrgMembership_eq_ok (h : db.createOrgMembership userID orgID role = .ok db') :
    db'.svc = db.svc ∧ db'.teams = db.teams ∧ db'.teamMembers = db.teamMembers ∧
      db'.invites = db.invites ∧ db'.assignments = db.assignments ∧
      ∃ hrole : role ∈ orgRoles,
        db.orgMembers.insert ⟨userID, orgID, role, hrole⟩ = some db'.orgMembers := by
  unfold Db.createOrgMembership at h
  split at h
  · rename_i hrole
    split at h
    · cases h
    rename_i members hinsert
    split at h
    · cases h
      exact ⟨rfl, rfl, rfl, rfl, rfl, hrole, hinsert⟩
    · cases h
  · cases h

theorem exists_createMembership_iff :
    (∃ db', db.createMembership userID teamID role = .ok db') ↔
      role ∈ teamRoles ∧ db.getMembership userID teamID = none ∧
        (∃ account ∈ db.svc.accounts.table, account.id = userID) ∧
        ∃ team ∈ db.teams.toTable, team.id = teamID := by
  unfold Db.createMembership
  by_cases hrole : role ∈ teamRoles
  · have hfree : db.getMembership userID teamID = none ↔
        ∃ members, db.teamMembers.insert ⟨userID, teamID, role, hrole⟩ = some members :=
      db.teamMembers.find?_key_eq_none_iff ⟨userID, teamID, role, hrole⟩
    rw [dif_pos hrole, hfree]
    split
    · rename_i hinsert
      simp [hinsert]
    · rename_i members hinsert
      split <;> rename_i hparents <;> simp [hinsert, hrole, hparents]
  · simp [hrole]

theorem exists_createOrgMembership_iff :
    (∃ db', db.createOrgMembership userID orgID role = .ok db') ↔
      role ∈ orgRoles ∧ db.getOrgMembership userID orgID = none ∧
        (∃ account ∈ db.svc.accounts.table, account.id = userID) ∧
        ∃ org ∈ db.orgs, org.id = orgID := by
  unfold Db.createOrgMembership
  by_cases hrole : role ∈ orgRoles
  · have hfree : db.getOrgMembership userID orgID = none ↔
        ∃ members, db.orgMembers.insert ⟨userID, orgID, role, hrole⟩ = some members :=
      db.orgMembers.find?_key_eq_none_iff ⟨userID, orgID, role, hrole⟩
    rw [dif_pos hrole, hfree]
    split
    · rename_i hinsert
      simp [hinsert]
    · rename_i members hinsert
      split <;> rename_i hparents <;> simp [hinsert, hrole, hparents]
  · simp [hrole]

/-! ## Changing and removing members -/

variable {env : Env}

/-- A role is changed unless that takes the role of the last lead. -/
theorem changeRole_eq_ok (h : changeRole env db teamID userID role = .ok db') :
    ∃ current, db.getMembership userID teamID = some current ∧
      (current.role = "lead" → role = "lead" ∨ 1 < db.countLeads teamID) ∧
      db.updateMemberRole userID teamID role = .ok db' := by
  unfold changeRole at h
  split at h
  · cases h
  obtain ⟨_, h⟩ := guard_eq_ok.mp h
  obtain ⟨_, h⟩ := guard_eq_ok.mp h
  split at h
  · cases h
  rename_i current hcurrent
  obtain ⟨hlast, h⟩ := guard_eq_ok.mp h
  refine ⟨current, hcurrent, ?_, mapError_eq_ok.mp h⟩
  intro hlead
  by_cases hrole : role = "lead"
  · exact .inl hrole
  · exact .inr (by simpa [hlead, hrole] using hlast)

theorem dropMember_eq_ok {lastLead : String} (h : dropMember db teamID userID lastLead = .ok db') :
    ∃ m, db.getMembership userID teamID = some m ∧ (m.role = "lead" → 1 < db.countLeads teamID) ∧
      db' = db.deleteMembership userID teamID := by
  unfold dropMember at h
  split at h
  · cases h
  rename_i m hm
  obtain ⟨hlast, h⟩ := guard_eq_ok.mp h
  refine ⟨m, hm, ?_, (Except.ok.inj h).symm⟩
  intro hlead
  simpa [hlead] using hlast

theorem removeMember_eq_ok (h : removeMember db teamID userID = .ok db') :
    dropMember db teamID userID "cannot remove the last team lead" = .ok db' := by
  unfold removeMember at h
  split at h
  · cases h
  · exact (guard_eq_ok.mp h).2

theorem leaveTeam_eq_ok (h : leaveTeam db orgID teamID userID = .ok db') :
    dropMember db teamID userID "cannot leave: you are the last lead of this team" = .ok db' := by
  unfold leaveTeam at h
  split at h
  · cases h
  · exact (guard_eq_ok.mp h).2

theorem mem_foldl_deleteMembership {gone : List TeamMembership} {m : TeamMembership} :
    m ∈ (gone.foldl (fun db m => db.deleteMembership m.userID teamID) db).teamMembers ↔
      m ∈ db.teamMembers ∧ ∀ g ∈ gone, Sso.teamMemberKey m ≠ (g.userID, teamID) := by
  induction gone generalizing db with
  | nil => simp
  | cons g gone ih =>
    rw [List.foldl_cons, ih, Db.deleteMembership, mem_deleteTeamMembers, List.forall_mem_cons,
      and_assoc, decide_eq_false_iff_not]

theorem foldl_deleteMembership_same (gone : List TeamMembership) :
    db.SameButTeamMembers (gone.foldl (fun db m => db.deleteMembership m.userID teamID) db) := by
  induction gone generalizing db with
  | nil => exact .refl db
  | cons g gone ih =>
    have hfirst : db.SameButTeamMembers (db.deleteMembership g.userID teamID) :=
      ⟨rfl, rfl, rfl, rfl, rfl, rfl⟩
    exact hfirst.trans ih

/-- The memberships of the listed users in the team, as often as they are listed. -/
def Db.listed (db : Db) (teamID : UUID) (userIDs : List UUID) : List TeamMembership :=
  userIDs.filterMap fun userID => db.getMembership userID teamID

variable {userIDs : List UUID} {m : TeamMembership}

theorem mem_listed : m ∈ db.listed teamID userIDs ↔
    m ∈ db.teamMembers ∧ m.teamID = teamID ∧ m.userID ∈ userIDs := by
  rw [Db.listed, List.mem_filterMap]
  constructor
  · rintro ⟨userID, hlisted, hfind⟩
    obtain ⟨hm, hkey⟩ := Table.find?_eq_some_iff.mp hfind
    cases hkey
    exact ⟨hm, rfl, hlisted⟩
  · rintro ⟨hm, rfl, hlisted⟩
    exact ⟨m.userID, hlisted, Table.find?_eq_some_iff.mpr ⟨hm, rfl⟩⟩

/-- The listed members are removed, and with them fewer leads than the team has. -/
theorem bulkRemoveMembers_eq_ok {result : BulkMemberResult}
    (h : bulkRemoveMembers db teamID userIDs = .ok (result, db')) :
    ((db.listed teamID userIDs).filter fun m => m.role = "lead").length < db.countLeads teamID ∧
      db.SameButTeamMembers db' ∧ result.removedCount = (db.listed teamID userIDs).length ∧
      ∀ m, m ∈ db'.teamMembers ↔ m ∈ db.teamMembers ∧ m ∉ db.listed teamID userIDs := by
  obtain ⟨_, h⟩ := guard_eq_ok.mp h
  split at h
  · cases h
  obtain ⟨_, h⟩ := guard_eq_ok.mp h
  obtain ⟨hleads, h⟩ := guard_eq_ok.mp h
  cases h
  refine ⟨Nat.not_le.mp hleads, foldl_deleteMembership_same _, rfl, fun m => ?_⟩
  rw [mem_foldl_deleteMembership]
  refine and_congr_right fun hm => ⟨fun hkept hlisted => ?_, fun hkept g hg hkey => ?_⟩
  · exact hkept m hlisted (by rw [Sso.teamMemberKey, (mem_listed.mp hlisted).2.1])
  · -- a listed membership with the key of the row is the row itself
    obtain ⟨hgmem, rfl, _⟩ := mem_listed.mp hg
    rw [Table.eq_of_key_eq hm hgmem hkey] at hkept
    exact hkept hg

/-! ## Removals from an organization, and transfers -/

/-- The user belongs to the organization and is not its only owner. -/
def Db.Deactivates (db : Db) (orgID userID : UUID) : Prop :=
  ∃ m, db.getOrgMembership userID orgID = some m ∧ (m.role = "owner" → 1 < db.countOwners orgID)

/-- No other team of the target organization has the slug of the team. -/
def Db.slugFree (db : Db) (teamID targetOrgID : UUID) : Bool :=
  (db.teams.tryUpdate (fun team => team.id = teamID)
    (fun team => { team with orgID := targetOrgID }) (Team.withOrg_id targetOrgID)).isSome

structure Db.Transfers (env : Env) (db : Db) (orgID teamID targetOrgID : UUID) : Prop where
  team : ∃ team, db.getTeam teamID = some team ∧ team.orgID = orgID ∧ team.isArchived = false
  target : ∃ org, db.getOrg targetOrgID = some org ∧
    (db.countByOrg targetOrgID : Int) < org.maxTeams.getD env.maxTeams
  slug : db.slugFree teamID targetOrgID = true

variable {targetOrgID : UUID}

theorem deactivateUser_eq_ok_iff :
    deactivateUser db orgID userID = .ok db' ↔ db.Deactivates orgID userID ∧
      db' = (db.deleteFromTeams userID orgID).deleteOrgMembership userID orgID := by
  unfold deactivateUser Db.Deactivates
  cases hm : db.getOrgMembership userID orgID with
  | none => simp
  | some m =>
    by_cases howner : m.role = "owner"
    · by_cases hcount : db.countOwners orgID ≤ 1
      · simp [howner, hcount, Nat.not_lt.mpr hcount]
      · simp [howner, hcount, Nat.not_le.mp hcount, eq_comm]
    simp only [howner, decide_false, Bool.false_and, Bool.false_eq_true, if_false,
      Except.ok.injEq, Option.some.injEq, exists_eq_left', false_implies, true_and]
    exact eq_comm

/-- The moved team keeps its members, except for those who were deleted before. -/
theorem setTeamOrg_eq_ok (h : db.setTeamOrg teamID targetOrgID = .ok db') :
    db'.svc = db.svc ∧ db'.orgs = db.orgs ∧ db'.orgMembers = db.orgMembers ∧
      db'.teamMembers = db.teamMembers ∧
      db'.teams.toTable = db.teams.toTable.updateWhere (fun team => team.id = teamID)
        (fun team => { team with orgID := targetOrgID }) fun _ => rfl := by
  unfold Db.setTeamOrg at h
  split at h
  · cases h
  rename_i teams hupdate
  split at h
  · cases h
    exact ⟨rfl, rfl, rfl, rfl, UniqueTable.tryUpdate_eq_some hupdate⟩
  · cases h

theorem exists_setTeamOrg_iff (db : Db) (horg : ∃ org ∈ db.orgs, org.id = targetOrgID) :
    (∃ db', db.setTeamOrg teamID targetOrgID = .ok db') ↔
      db.slugFree teamID targetOrgID = true := by
  unfold Db.setTeamOrg Db.slugFree
  split
  · rename_i hupdate
    simp [hupdate]
  · rename_i teams hupdate
    simp [hupdate, horg]

theorem transferTeam_eq_ok {result : TransferTeamResult}
    (h : transferTeam env db orgID teamID targetOrgID = .ok (result, db')) :
    db.Transfers env orgID teamID targetOrgID ∧
      (db.bulkDeleteMemberships teamID (strangers db teamID targetOrgID)).setTeamOrg teamID
        targetOrgID = .ok db' := by
  unfold transferTeam at h
  split at h
  · cases h
  rename_i team hteam
  obtain ⟨horg, h⟩ := guard_eq_ok.mp h
  obtain ⟨harchived, h⟩ := guard_eq_ok.mp h
  split at h
  · cases h
  rename_i target htarget
  obtain ⟨hlimit, h⟩ := guard_eq_ok.mp h
  dsimp only at h
  split at h
  · cases h
  rename_i moved hmoved
  cases h
  obtain ⟨hmem, hid⟩ := Table.find?_eq_some_iff.mp htarget
  -- the members that are deleted have no influence on the slug
  have hslug : db.slugFree teamID targetOrgID = true :=
    (exists_setTeamOrg_iff (db.bulkDeleteMemberships teamID _) ⟨target, hmem, hid⟩).mp ⟨_, hmoved⟩
  exact ⟨⟨⟨team, hteam, by simpa using horg, by simpa using harchived⟩,
    ⟨target, htarget, Int.not_le.mp hlimit⟩, hslug⟩, hmoved⟩

theorem exists_transferTeam (h : db.Transfers env orgID teamID targetOrgID) :
    ∃ r, transferTeam env db orgID teamID targetOrgID = .ok r := by
  obtain ⟨⟨team, hteam, horg, harchived⟩, ⟨target, htarget, hlimit⟩, hslug⟩ := h
  obtain ⟨hmem, hid⟩ := Table.find?_eq_some_iff.mp htarget
  obtain ⟨moved, hmoved⟩ := (exists_setTeamOrg_iff (db.bulkDeleteMemberships teamID
    (strangers db teamID targetOrgID)) ⟨target, hmem, hid⟩).mpr hslug
  unfold transferTeam
  simp [hteam, horg, harchived, htarget, Int.not_le.mpr hlimit, hmoved]

end BurnerByte.Teams
