import BurnerByte.Teams.Effects
import BurnerByte.Teams.Permissions
import Mathlib.Data.List.Perm.Subperm

/-!
# Leads of a team

A team is created with a lead, and changing a role, removing members and leaving a team
refuse to take the last lead away. Three other operations take memberships of the team with
them and do not ask: the removal of a user from the organization, a transfer to another
organization, and the deletion of a user.
-/

namespace BurnerByte.Teams

open Outcome Rbac Sql

/-! ## The operations -/

/-- The operations that change or delete memberships of existing teams. -/
inductive Operation where
  | changeRole (teamID userID : UUID) (role : String)
  | removeMember (teamID userID : UUID)
  | leaveTeam (orgID teamID userID : UUID)
  | bulkRemoveMembers (teamID : UUID) (userIDs : List UUID)
  | transferTeam (orgID teamID targetOrgID : UUID)
  | deactivateUser (orgID userID : UUID)
  /-- An account is deleted, by its user or by an administrator. -/
  | deleteUser (userID : UUID)

def step (env : Env) (db : Db) : Operation → Db
  | .changeRole teamID userID role => (changeRole env db teamID userID role).toOption.getD db
  | .removeMember teamID userID => (removeMember db teamID userID).toOption.getD db
  | .leaveTeam orgID teamID userID => (leaveTeam db orgID teamID userID).toOption.getD db
  | .bulkRemoveMembers teamID userIDs =>
    ((bulkRemoveMembers db teamID userIDs).map Prod.snd).toOption.getD db
  | .transferTeam orgID teamID targetOrgID =>
    ((transferTeam env db orgID teamID targetOrgID).map Prod.snd).toOption.getD db
  | .deactivateUser orgID userID => (deactivateUser db orgID userID).toOption.getD db
  | .deleteUser userID => db.deleteUser userID

/-! ## Leads -/

def Db.Led (db : Db) (teamID : UUID) : Prop :=
  ∃ m ∈ db.teamMembers, m.teamID = teamID ∧ m.role = "lead"
  deriving Decidable

variable {env : Env} {db db' : Db} {orgID teamID userID : UUID}

theorem Db.led_iff :
    db.Led teamID ↔ ∃ m ∈ db.teamMembers, (m.teamID = teamID && m.role = "lead") = true := by
  simp [Db.Led]

variable {teamID' : UUID}

/-- The team keeps a lead when one membership of a team changes, if that is none of a lead of
the team or leaves another one. -/
theorem Db.Led.of_other {current : TeamMembership} (h : db.Led teamID)
    (hfind : db.getMembership userID teamID' = some current)
    (hkept : ∀ m ∈ db.teamMembers, Sso.teamMemberKey m ≠ (userID, teamID') → m ∈ db'.teamMembers)
    (hcurrent : current.role = "lead" → 1 < db.countLeads teamID' ∨ db'.Led teamID') :
    db'.Led teamID := by
  rw [Db.led_iff] at h ⊢
  refine Table.exists_of_other h hfind hkept ?_
  intro hlead
  obtain ⟨hteam, hrole⟩ : current.teamID = teamID ∧ current.role = "lead" := by simpa using hlead
  obtain ⟨_, hteam'⟩ := Prod.mk.inj (Table.find?_eq_some_iff.mp hfind).2
  obtain rfl := hteam.symm.trans hteam'
  exact (hcurrent hrole).imp_right Db.led_iff.mp

theorem Db.Led.changeRole {role : String} (h : db.Led teamID)
    (hchange : changeRole env db teamID' userID role = .ok db') : db'.Led teamID := by
  obtain ⟨current, hfind, hlast, hupdate⟩ := changeRole_eq_ok hchange
  obtain ⟨_, _, old, hold, hmem⟩ := updateMemberRole_eq_ok hupdate
  refine h.of_other hfind (fun m hm hkey => (hmem m).mpr (.inr ⟨hm, hkey⟩)) ?_
  intro hlead
  refine (hlast hlead).symm.imp_right ?_
  intro hrole
  exact ⟨_, (hmem _).mpr (.inl rfl), (Prod.mk.inj (Table.find?_eq_some_iff.mp hold).2).2, hrole⟩

theorem Db.Led.dropMember {lastLead : String} (h : db.Led teamID)
    (hdrop : dropMember db teamID' userID lastLead = .ok db') : db'.Led teamID := by
  obtain ⟨current, hfind, hlast, rfl⟩ := dropMember_eq_ok hdrop
  refine h.of_other hfind ?_ fun hlead => .inl (hlast hlead)
  intro m hm hkey
  exact mem_deleteTeamMembers.mpr ⟨hm, decide_eq_false hkey⟩

/-- Where all leads are listed, the entries of leads are at least as many. -/
theorem countLeads_le {userIDs : List UUID}
    (h : ∀ m ∈ db.teamMembers, m.teamID = teamID → m.role = "lead" → m.userID ∈ userIDs) :
    db.countLeads teamID ≤ ((db.listed teamID userIDs).filter fun m => m.role = "lead").length := by
  have hnodup : (db.teamMembers.rows.filter fun m =>
      m.teamID = teamID && m.role = "lead").Nodup := db.teamMembers.unique.of_map.filter _
  refine (List.subperm_of_subset hnodup fun m hm => ?_).length_le
  obtain ⟨hrow, hlead⟩ := List.mem_filter.mp hm
  obtain ⟨hteam, hrole⟩ : m.teamID = teamID ∧ m.role = "lead" := by simpa using hlead
  exact List.mem_filter.mpr
    ⟨mem_listed.mpr ⟨hrow, hteam, h m hrow hteam hrole⟩, by simpa using hrole⟩

/-- Fewer leads than there are do not include all of them. -/
theorem Db.Led.bulkRemoveMembers {userIDs : List UUID} {result : BulkMemberResult}
    (h : db.Led teamID) (hremove : bulkRemoveMembers db teamID' userIDs = .ok (result, db')) :
    db'.Led teamID := by
  obtain ⟨hfewer, _, _, hmem⟩ := bulkRemoveMembers_eq_ok hremove
  by_cases hteam : teamID = teamID'
  · subst hteam
    by_contra hnone
    refine absurd hfewer (Nat.not_lt.mpr (countLeads_le fun m hm hmteam hrole => ?_))
    by_contra hkept
    refine hnone ⟨m, (hmem m).mpr ⟨hm, fun hlisted => ?_⟩, hmteam, hrole⟩
    exact hkept (mem_listed.mp hlisted).2.2
  · obtain ⟨m, hm, hmteam, hrole⟩ := h
    refine ⟨m, (hmem m).mpr ⟨hm, fun hlisted => ?_⟩, hmteam, hrole⟩
    exact hteam (hmteam.symm.trans (mem_listed.mp hlisted).2.1)

/-! ## Operations that do not ask -/

/-- The operation refuses to take the last lead away. -/
def Operation.asks : Operation → Bool
  | .transferTeam _ _ _ | .deactivateUser _ _ | .deleteUser _ => false
  | _ => true

/-- The membership is deleted by an operation that does not ask. -/
def Goes (env : Env) (db : Db) : Operation → TeamMembership → Prop
  | .deactivateUser orgID userID, m =>
    db.Deactivates orgID userID ∧ m.userID = userID ∧ db.Owns orgID m.teamID
  | .deleteUser userID, m => m.userID = userID
  | .transferTeam orgID teamID targetOrgID, m =>
    db.Transfers env orgID teamID targetOrgID ∧ m.teamID = teamID ∧
      db.getOrgMembership m.userID targetOrgID = none
  | _, _ => False

variable {m : TeamMembership}

theorem mem_deleteFromTeams :
    m ∈ (db.deleteFromTeams userID orgID).teamMembers ↔
      m ∈ db.teamMembers ∧ ¬ (m.userID = userID ∧ db.Owns orgID m.teamID) := by
  rw [Db.deleteFromTeams, mem_deleteTeamMembers, Bool.eq_false_iff, Db.Owns]
  simp only [ne_eq, Bool.and_eq_true, decide_eq_true_eq, List.any_eq_true]
  have howns : (∃ team ∈ db.teams.rows, team.orgID = orgID ∧ team.id = m.teamID) ↔
      ∃ team ∈ db.teams, team.id = m.teamID ∧ team.orgID = orgID :=
    exists_congr fun team => and_congr_right fun _ => and_comm
  rw [howns]

theorem mem_strangers {targetOrgID : UUID} (hm : m ∈ db.teamMembers) (hteam : m.teamID = teamID) :
    m.userID ∈ strangers db teamID targetOrgID ↔
      db.getOrgMembership m.userID targetOrgID = none := by
  have hlisted : m.userID ∈ db.listMemberUserIDs teamID :=
    List.mem_map.mpr ⟨m, List.mem_filter.mpr ⟨hm, decide_eq_true hteam⟩, rfl⟩
  rw [strangers, List.mem_filter, Option.isNone_iff_eq_none]
  exact and_iff_right hlisted

/-- What is left of an operation that does not ask. -/
theorem mem_step {op : Operation} (h : op.asks = false) :
    m ∈ (step env db op).teamMembers ↔ m ∈ db.teamMembers ∧ ¬ Goes env db op m := by
  cases op with
  | deactivateUser orgID userID =>
    cases hresult : deactivateUser db orgID userID with
    | error err =>
      have hrefused : ¬ db.Deactivates orgID userID := by
        intro hdeactivates
        rw [deactivateUser_eq_ok_iff.mpr ⟨hdeactivates, rfl⟩] at hresult
        cases hresult
      simp [step, hresult, Goes, hrefused, Except.toOption]
    | ok db' =>
      obtain ⟨hdeactivates, rfl⟩ := deactivateUser_eq_ok_iff.mp hresult
      simp only [step, hresult, Goes, hdeactivates, true_and]
      exact mem_deleteFromTeams
  | deleteUser userID =>
    simp only [step, Db.deleteUser, Table.mem_deleteWhere, decide_eq_false_iff_not, Goes]
  | transferTeam orgID teamID targetOrgID =>
    cases hresult : transferTeam env db orgID teamID targetOrgID with
    | error err =>
      have hrefused : ¬ db.Transfers env orgID teamID targetOrgID := by
        intro htransfers
        obtain ⟨r, hok⟩ := exists_transferTeam htransfers
        rw [hok] at hresult
        cases hresult
      simp [step, hresult, Goes, hrefused, Except.toOption, Except.map]
    | ok r =>
      obtain ⟨htransfers, hset⟩ := transferTeam_eq_ok hresult
      obtain ⟨_, _, _, hmembers, _⟩ := setTeamOrg_eq_ok hset
      simp only [step, hresult, Goes, htransfers, true_and]
      change m ∈ r.2.teamMembers ↔ _
      rw [hmembers, Db.bulkDeleteMemberships, mem_deleteTeamMembers, Bool.eq_false_iff, ne_eq,
        Bool.and_eq_true, decide_eq_true_eq, List.contains_iff_mem]
      exact and_congr_right fun hm =>
        not_congr (and_congr_right fun hteam => mem_strangers hm hteam)
  | _ => cases h

theorem Db.Led.step {op : Operation} (h : db.Led teamID) (hasks : op.asks = true) :
    (step env db op).Led teamID := by
  cases op with
  | changeRole teamID' userID role =>
    exact getD_of_ok (P := (Db.Led · teamID)) h fun _ hok => h.changeRole hok
  | removeMember teamID' userID =>
    exact getD_of_ok (P := (Db.Led · teamID)) h fun _ hok => h.dropMember (removeMember_eq_ok hok)
  | leaveTeam orgID teamID' userID =>
    exact getD_of_ok (P := (Db.Led · teamID)) h fun _ hok => h.dropMember (leaveTeam_eq_ok hok)
  | bulkRemoveMembers teamID' userIDs =>
    exact getD_map_of_ok (P := (Db.Led · teamID)) h fun _ hok => h.bulkRemoveMembers hok
  | _ => cases hasks

/-! ## Teams stay -/

def Db.HasTeam (db : Db) (teamID : UUID) : Prop := ∃ team ∈ db.teams, team.id = teamID
  deriving Decidable

theorem Db.HasTeam.of_eq (h : db.HasTeam teamID) (hteams : db'.teams = db.teams) :
    db'.HasTeam teamID := by
  unfold Db.HasTeam
  rwa [hteams]

theorem Db.HasTeam.dropMember {lastLead : String} (h : db.HasTeam teamID)
    (hdrop : dropMember db teamID' userID lastLead = .ok db') : db'.HasTeam teamID := by
  obtain ⟨_, _, _, rfl⟩ := dropMember_eq_ok hdrop
  exact h

theorem Db.HasTeam.setTeamOrg (h : db.HasTeam teamID)
    (hset : db.setTeamOrg teamID' orgID = .ok db') : db'.HasTeam teamID := by
  obtain ⟨_, _, _, _, hteams⟩ := setTeamOrg_eq_ok hset
  obtain ⟨team, hteam, rfl⟩ := h
  refine ⟨if team.id = teamID' then { team with orgID } else team, ?_, by split <;> rfl⟩
  change _ ∈ db'.teams.toTable
  rw [hteams, Table.mem_updateWhere]
  exact ⟨team, hteam, by simp only [decide_eq_true_eq]⟩

/-- No operation deletes a team. -/
theorem Db.HasTeam.step (h : db.HasTeam teamID) (op : Operation) :
    (step env db op).HasTeam teamID := by
  cases op with
  | changeRole teamID' userID role =>
    refine getD_of_ok (P := (Db.HasTeam · teamID)) h fun _ hok => ?_
    obtain ⟨_, _, _, hupdate⟩ := changeRole_eq_ok hok
    exact h.of_eq (updateMemberRole_eq_ok hupdate).1.teams
  | removeMember teamID' userID =>
    exact getD_of_ok (P := (Db.HasTeam · teamID)) h fun _ hok =>
      h.dropMember (removeMember_eq_ok hok)
  | leaveTeam orgID teamID' userID =>
    exact getD_of_ok (P := (Db.HasTeam · teamID)) h fun _ hok => h.dropMember (leaveTeam_eq_ok hok)
  | bulkRemoveMembers teamID' userIDs =>
    exact getD_map_of_ok (P := (Db.HasTeam · teamID)) h fun _ hok =>
      h.of_eq (bulkRemoveMembers_eq_ok hok).2.1.teams
  | transferTeam orgID teamID' targetOrgID =>
    refine getD_of_ok (P := (Db.HasTeam · teamID)) h fun _ hok => ?_
    obtain ⟨⟨result, moved⟩, htransfer, rfl⟩ := map_eq_ok hok
    have hdeleted : (db.bulkDeleteMemberships teamID'
        (strangers db teamID' targetOrgID)).HasTeam teamID := h
    exact hdeleted.setTeamOrg (transferTeam_eq_ok htransfer).2
  | deactivateUser orgID userID =>
    refine getD_of_ok (P := (Db.HasTeam · teamID)) h fun _ hok => ?_
    obtain ⟨_, rfl⟩ := deactivateUser_eq_ok_iff.mp hok
    exact h
  | deleteUser userID => exact h

/-! ## Runs -/

/-- If the operation does not ask, some lead of the team stays. -/
def Spares (env : Env) (teamID : UUID) (db : Db) (op : Operation) : Prop :=
  op.asks = false →
    ∃ m ∈ db.teamMembers, m.teamID = teamID ∧ m.role = "lead" ∧ ¬ Goes env db op m

theorem spares_iff {op : Operation} (h : db.Led teamID) :
    Spares env teamID db op ↔ (step env db op).Led teamID := by
  unfold Spares
  cases hasks : op.asks with
  | true => exact iff_of_true (fun hfalse => (by cases hfalse)) (h.step hasks)
  | false =>
    simp only [Db.Led, mem_step hasks, true_implies]
    refine exists_congr fun m => ?_
    tauto

/-- A team that has a lead has one in every state of a run in which it exists, exactly if each
operation of the run that does not ask leaves it one. -/
theorem lead_kept_iff (env : Env) (hled : db.Led teamID) (ops : List Operation) :
    (∀ done, done <+: ops → (Trace.run (step env) db done).HasTeam teamID →
      (Trace.run (step env) db done).Led teamID) ↔
      Trace.Guarded (step env) (Spares env teamID) db ops := by
  have hteam : ∀ done, (Trace.run (step env) db done).HasTeam teamID := by
    obtain ⟨m, hm, rfl, _⟩ := hled
    exact @Trace.run_induct _ _ _ (fun db : Db => db.HasTeam m.teamID) (fun _ op h => h.step op) _
      (db.teamMember_team m hm)
  have hstep : ∀ db op, Db.Led db teamID → (Spares env teamID db op ↔
      (step env db op).Led teamID) := fun _ _ h => spares_iff h
  rw [@Trace.Guarded.iff_always _ _ _ _ (fun db : Db => db.Led teamID) _ _ hled hstep]
  exact forall_congr' fun done => imp_congr_right fun _ => ⟨fun h => h (hteam done), fun h _ => h⟩

/-! ## The only lead goes -/

/-- The shipped roles, and identifiers in decimal digits. -/
def sampleEnv : Env where
  cache := shippedRoles.cache
  casing := .ascii
  parseUUID := String.toNat?
  lower := Go.lowerText .ascii
  maxTeams := 10

/-- User 1 leads team 5 besides user 2. -/
def twoLeads : Db := (sampleDb.createMembership 1 5 "lead").toOption.getD sampleDb

/-- After user 2 has been removed from the organization, the other lead cannot leave. -/
theorem second_lead_kept :
    (Trace.run (step sampleEnv) twoLeads [.deactivateUser 1 2, .leaveTeam 1 5 1]).Led 5 := by
  refine (lead_kept_iff sampleEnv (by decide +kernel)
    [.deactivateUser 1 2, .leaveTeam 1 5 1]).mpr ?_ _ (List.prefix_refl _) (by decide +kernel)
  refine ⟨fun _ => ?_, fun hasks => (by cases hasks), trivial⟩
  refine ⟨⟨1, 5, "lead", by decide⟩, by decide +kernel, rfl, rfl, ?_⟩
  rintro ⟨_, huser, _⟩
  exact absurd huser (by decide)

/-- The only lead of a team that is not archived is removed from the organization, or does not
belong to the organization that the team is transferred to, or is deleted. -/
theorem only_lead_goes :
    sampleDb.Led 5 ∧ (sampleDb.getTeam 5).map Team.isArchived = some false ∧
      ∀ op ∈ [Operation.deactivateUser 1 2, .transferTeam 1 5 2, .deleteUser 2],
        (step sampleEnv sampleDb op).HasTeam 5 ∧ ¬ (step sampleEnv sampleDb op).Led 5 := by
  decide +kernel

end BurnerByte.Teams
