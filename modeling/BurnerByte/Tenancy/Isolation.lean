import BurnerByte.Rbac.Scopes
import BurnerByte.Tenancy.Assignments

/-!
# Assignments stay within an org

An assignment is located in an org when its team and its domain both belong to
it. `AssignDomain` binds the domain to the org of the route and `Unassign` binds
nothing; neither binds the team. So assignments stay within one org in the runs
whose assignment requests name a team of the org they are routed through, and
not in others.
-/

namespace BurnerByte.Tenancy

open Sql Rbac Outcome
open Trace (Guarded run)

/-- The team and the domain of the assignment belong to the org. -/
def Db.Located (db : Db) (a : Assignment) (orgID : UUID) : Prop :=
  (∃ team ∈ db.teams, team.id = a.teamID ∧ team.orgID = orgID) ∧
    ∃ d ∈ db.domains, d.id = a.domainID ∧ d.orgID = orgID

/-- There is a domain with the id whose MX and TXT records are verified. -/
def Db.Verified (db : Db) (domainID : UUID) : Prop :=
  ∃ d ∈ db.domains, d.id = domainID ∧ d.mxVerified = true ∧ d.txtVerified = true

/-- Every assignment has `team.org = domain.org`. -/
def Db.Consistent (db : Db) : Prop := ∀ a ∈ db.assignments, ∃ orgID, db.Located a orgID

/-- The org whose routes a request to the assignment handlers goes through. -/
def Request.assignmentOrg : Request → Option UUID
  | .assign route _ _ => some route.orgID
  | .unassign route _ _ => some route.orgID
  | _ => none

/-- A request creates and deletes only assignments of the org, and deletes only
inboxes of such assignments. -/
def OnlyTouches (db : Db) (r : Request) (orgID : UUID) : Prop :=
  (∀ a ∈ (step db r).assignments, a ∉ db.assignments → (step db r).Located a orgID) ∧
    (∀ a ∈ db.assignments, a ∉ (step db r).assignments → db.Located a orgID) ∧
    ∀ inbox ∈ db.inboxes, inbox ∉ (step db r).inboxes →
      ∃ a ∈ db.assignments, a.id = inbox.assignmentID ∧ db.Located a orgID

/-- An assignment request names a team of the org it is routed through, or a team
that does not exist. -/
def TeamInRouteOrg (db : Db) : Request → Prop
  | .assign route _ _ => ∀ team ∈ db.teams, route.teamParam = some team.id →
      team.orgID = route.orgID
  | .unassign route _ _ => ∀ team ∈ db.teams, route.teamParam = some team.id →
      team.orgID = route.orgID
  | _ => True

instance (db : Db) : (r : Request) → Decidable (TeamInRouteOrg db r)
  | .assign route _ _ | .unassign route _ _ =>
    inferInstanceAs (Decidable (∀ team ∈ db.teams, route.teamParam = some team.id →
      team.orgID = route.orgID))
  | .setup _ | .countOrgs _ | .createOrg _ | .deleteOrg _ | .createTeam _ _ _ | .setArchived _ _
  | .transferTeam _ _ _ | .deleteTeam _ | .createDomain _ _ | .verifyDomain _ _ _
  | .transferDomain _ _ _ | .deleteDomain _ | .createInbox _ | .setInboxActive _ _
  | .deleteInbox _ => .isTrue trivial

/-! ## What the requests do -/

variable {db db' : Db} {a : Assignment} {teamID orgID : UUID} {route : Route}

theorem createAssignment_ok (h : db.createAssignment a = .ok db') :
    (∃ team ∈ db.teams, team.id = a.teamID) ∧ (∃ d ∈ db.domains, d.id = a.domainID) ∧
      ∃ assignments, db.assignments.insert a = some assignments ∧
        db' = { db with assignments } := by
  unfold Db.createAssignment at h
  split at h
  · cases h
  rename_i hexists
  simp only [Bool.or_eq_true, Option.isNone_iff_eq_none, not_or] at hexists
  obtain ⟨team, hteam⟩ := Option.ne_none_iff_exists'.mp hexists.1
  obtain ⟨d, hd⟩ := Option.ne_none_iff_exists'.mp hexists.2
  split at h
  · cases h
  split at h
  · cases h
  rename_i assignments hinsert
  exact ⟨⟨team, Table.find?_eq_some_iff.mp hteam⟩, ⟨d, Table.find?_eq_some_iff.mp hd⟩,
    assignments, hinsert, (Except.ok.inj h).symm⟩

variable {newID domainID targetOrgID : UUID} {b : Assignment} {domains : List InitialDomain}

theorem assignDomain_ok {assignedBy : UUID} {input : CreateAssignmentInput}
    (h : assignDomain db teamID input assignedBy orgID newID = .ok db') :
    ∃ a, a.teamID = teamID ∧ (∃ d ∈ db.domains, d.id = a.domainID ∧ d.orgID = orgID) ∧
      db.Verified a.domainID ∧ db.createAssignment a = .ok db' := by
  unfold assignDomain at h
  iterate 3
    split at h
    · cases h
  rename_i domainID _ d hfind
  split at h
  · cases h
  rename_i hverified
  split at h
  · cases h
  rename_i horg
  obtain ⟨hd, hid⟩ := Table.find?_eq_some_iff.mp hfind
  split at h
  · rename_i created hcreate
    cases h
    exact ⟨_, rfl, ⟨d, hd, hid, not_not.mp horg⟩, ⟨d, hd, hid, by simpa using hverified⟩, hcreate⟩
  · cases h
  · cases h

theorem handleAssign_ok {body : Option CreateAssignmentInput}
    (h : handleAssign route body newID db = .ok db') :
    ∃ a, route.teamParam = some a.teamID ∧
      (∃ d ∈ db.domains, d.id = a.domainID ∧ d.orgID = route.orgID) ∧
      db.Verified a.domainID ∧ db.createAssignment a = .ok db' := by
  unfold handleAssign at h
  split at h
  · cases h
  rename_i teamID hteam
  obtain ⟨_, _, hbody⟩ := bind_eq_ok.mp h
  split at hbody
  · cases hbody
  dsimp only at hbody
  split at hbody
  · rename_i created hassign
    cases hbody
    obtain ⟨a, rfl, hdomain, hverified, hcreate⟩ := assignDomain_ok hassign
    exact ⟨a, hteam, hdomain, hverified, hcreate⟩
  · cases hbody

theorem handleUnassign_ok {domainParam : Option UUID} {force : Bool}
    (h : handleUnassign route domainParam force db = .ok db') :
    ∃ a ∈ db.assignments, route.teamParam = some a.teamID ∧
      db' = db.deleteAssignments fun b => b.id = a.id := by
  unfold handleUnassign at h
  split at h
  · cases h
  rename_i teamID hteam
  obtain ⟨_, _, hparam⟩ := bind_eq_ok.mp h
  split at hparam
  · cases hparam
  rename_i domainID
  cases hget : db.getByTeamAndDomain teamID domainID with
  | none =>
    rw [hget] at hparam
    cases hparam
  | some a =>
    simp only [hget, unassign] at hparam
    split at hparam
    · cases hparam
    cases hparam
    have hkeys := List.find?_some hget
    simp only [Bool.and_eq_true, decide_eq_true_eq] at hkeys
    exact ⟨a, List.mem_of_find?_eq_some hget, by rw [hteam, hkeys.1.1], rfl⟩

/-! ## Single requests -/

theorem located_of_createAssignment (h : db.createAssignment a = .ok db') :
    db'.Located b orgID ↔ db.Located b orgID := by
  obtain ⟨_, _, assignments, _, rfl⟩ := createAssignment_ok h
  exact Iff.rfl

theorem mem_of_createAssignment (h : db.createAssignment a = .ok db') :
    b ∈ db'.assignments ↔ b = a ∨ b ∈ db.assignments := by
  obtain ⟨_, _, assignments, hinsert, rfl⟩ := createAssignment_ok h
  exact (Table.insert_eq_some hinsert).2 b

/-- An assignment of a team of the org and a domain of the org can be added. -/
theorem Db.Consistent.createAssignment (hdb : db.Consistent) (h : db.createAssignment a = .ok db')
    (ha : db.Located a orgID) : db'.Consistent := by
  intro b hb
  rcases (mem_of_createAssignment h).mp hb with rfl | hb
  · exact ⟨orgID, (located_of_createAssignment h).mpr ha⟩
  obtain ⟨org, hlocated⟩ := hdb b hb
  exact ⟨org, (located_of_createAssignment h).mpr hlocated⟩

/-- Assignments may go, and whatever stays may stay where it is located. -/
theorem Db.Consistent.of_subset (hdb : db.Consistent)
    (hsub : ∀ a ∈ db'.assignments, a ∈ db.assignments ∧
      ∀ orgID, db.Located a orgID → db'.Located a orgID) : db'.Consistent := by
  intro a ha
  obtain ⟨hmem, hkeep⟩ := hsub a ha
  obtain ⟨orgID, hlocated⟩ := hdb a hmem
  exact ⟨orgID, hkeep orgID hlocated⟩

theorem mem_deleteAssignments {p : Assignment → Bool} :
    a ∈ (db.deleteAssignments p).assignments ↔ a ∈ db.assignments ∧ p a = false :=
  Table.mem_deleteWhere

theorem assignment_located (hteam : route.teamParam = some a.teamID)
    (hdomain : ∃ d ∈ db.domains, d.id = a.domainID ∧ d.orgID = route.orgID)
    (hcreate : db.createAssignment a = .ok db')
    (hroute : ∀ team ∈ db.teams, route.teamParam = some team.id → team.orgID = route.orgID) :
    db.Located a route.orgID := by
  obtain ⟨⟨team, hmem, hid⟩, _⟩ := createAssignment_ok hcreate
  exact ⟨⟨team, hmem, hid, hroute team hmem (by rw [hteam, hid])⟩, hdomain⟩

/-- The domain of an entry that passes the checks. -/
def InitialDomain.assigns (db : Db) (orgID : UUID) (entry : InitialDomain) : Option UUID :=
  entry.domainID.filter fun domainID =>
    decide (entry.level ∈ accessLevels) &&
      (db.domains.find? domainID).any fun d => decide (d.orgID = orgID)

/-- The row of an entry. -/
def InitialDomain.row (teamID : UUID) (entry : InitialDomain) (domainID : UUID) : Assignment where
  id := entry.newID
  teamID := teamID
  domainID := domainID
  accessLevel := entry.level
  assignedBy := none

theorem assignInitialDomain_eq (entry : InitialDomain) :
    assignInitialDomain teamID orgID db entry =
      (entry.assigns db orgID).elim (some db) fun domainID =>
        (db.createAssignment (entry.row teamID domainID)).toOption := by
  unfold assignInitialDomain InitialDomain.assigns
  cases entry.domainID with
  | none => rfl
  | some domainID =>
    by_cases hlevel : entry.level ∈ accessLevels
    · cases hfind : db.domains.find? domainID with
      | none => simp [hlevel, hfind, Option.filter]
      | some d =>
        by_cases horg : d.orgID = orgID
        · simp [hlevel, hfind, horg, Option.filter, InitialDomain.row]
        · simp [hlevel, hfind, horg, Option.filter]
    · simp [hlevel, Option.filter]

/-- The domain is one of the org. -/
theorem exists_domain_of_assigns {entry : InitialDomain}
    (h : entry.assigns db orgID = some domainID) :
    ∃ d ∈ db.domains, d.id = domainID ∧ d.orgID = orgID := by
  obtain ⟨_, hchecks⟩ := Option.filter_eq_some_iff.mp h
  simp only [Bool.and_eq_true, Option.any_eq_true, decide_eq_true_eq] at hchecks
  obtain ⟨_, d, hd, horg⟩ := hchecks
  obtain ⟨hmem, hid⟩ := Table.find?_eq_some_iff.mp hd
  exact ⟨d, hmem, hid, horg⟩

section

variable (hdb : db.Consistent)

include hdb

theorem Db.Consistent.initialDomains
    (hteam : ∃ team ∈ db.teams, team.id = teamID ∧ team.orgID = orgID)
    (h : domains.foldlM (assignInitialDomain teamID orgID) db = some db') : db'.Consistent := by
  induction domains generalizing db with
  | nil =>
    cases h
    exact hdb
  | cons entry domains ih =>
    obtain ⟨mid, hentry, hrest⟩ := Option.bind_eq_some_iff.mp h
    rw [assignInitialDomain_eq] at hentry
    cases hassigns : entry.assigns db orgID with
    | none =>
      rw [hassigns] at hentry
      cases hentry
      exact ih hdb hteam hrest
    | some domainID =>
      rw [hassigns] at hentry
      have hcreate := toOption_eq_some.mp hentry
      refine ih (hdb.createAssignment hcreate ⟨hteam, exists_domain_of_assigns hassigns⟩) ?_ hrest
      obtain ⟨_, _, assignments, _, rfl⟩ := createAssignment_ok hcreate
      exact hteam

theorem Db.Consistent.createTeam
    (h : Tenancy.createTeam db orgID teamID domains = some db') : db'.Consistent := by
  unfold Tenancy.createTeam at h
  split at h
  · cases h
  obtain ⟨teams, hinsert, hdomains⟩ := Option.bind_eq_some_iff.mp h
  obtain ⟨_, hmem⟩ := Table.insert_eq_some hinsert
  have hadded : Db.Consistent { db with teams } := by
    refine hdb.of_subset fun a ha => ⟨ha, ?_⟩
    rintro org ⟨⟨team, hteam, hid⟩, hdomain⟩
    exact ⟨⟨team, (hmem team).mpr (.inr hteam), hid⟩, hdomain⟩
  exact hadded.initialDomains ⟨_, (hmem _).mpr (.inl rfl), rfl, rfl⟩ hdomains

/-- A team may change once its assignments are gone. -/
theorem Db.Consistent.dropTeam
    (hassignments : db'.assignments = (db.deleteAssignments fun a => a.teamID = teamID).assignments)
    (hteams : ∀ team ∈ db.teams, team.id ≠ teamID → team ∈ db'.teams)
    (hdomains : db'.domains = db.domains) : db'.Consistent := by
  apply hdb.of_subset
  intro a ha
  rw [hassignments] at ha
  obtain ⟨hmem, hother⟩ := mem_deleteAssignments.mp ha
  refine ⟨hmem, ?_⟩
  rintro org ⟨⟨team, hteam, hid, horg⟩, hdomain⟩
  have hkeep : team.id ≠ teamID := by simpa [hid] using hother
  rw [← hdomains] at hdomain
  exact ⟨⟨team, hteams team hteam hkeep, hid, horg⟩, hdomain⟩

/-- A domain may change once its assignments are gone. -/
theorem Db.Consistent.dropDomain (hassignments :
      db'.assignments = (db.deleteAssignments fun a => a.domainID = domainID).assignments)
    (hdomains : ∀ d ∈ db.domains, d.id ≠ domainID → d ∈ db'.domains)
    (hteams : db'.teams = db.teams) : db'.Consistent := by
  apply hdb.of_subset
  intro a ha
  rw [hassignments] at ha
  obtain ⟨hmem, hother⟩ := mem_deleteAssignments.mp ha
  refine ⟨hmem, ?_⟩
  rintro org ⟨hteam, d, hd, hid, horg⟩
  have hkeep : d.id ≠ domainID := by simpa [hid] using hother
  rw [← hteams] at hteam
  exact ⟨hteam, d, hdomains d hd hkeep, hid, horg⟩

theorem Db.Consistent.transferTeam
    (h : Tenancy.transferTeam db orgID teamID targetOrgID = some db') : db'.Consistent := by
  unfold Tenancy.transferTeam at h
  split at h
  · cases h
  split at h
  · cases h
  cases h
  refine hdb.dropTeam rfl ?_ rfl
  intro team hteam hkeep
  rw [Table.mem_updateWhere]
  exact ⟨team, hteam, by simp [hkeep]⟩

theorem Db.Consistent.transferDomain
    (h : Tenancy.transferDomain db orgID domainID targetOrgID = some db') : db'.Consistent := by
  unfold Tenancy.transferDomain at h
  split at h
  · cases h
  split at h
  · cases h
  cases h
  refine hdb.dropDomain rfl ?_ rfl
  intro d hd hkeep
  rw [Table.mem_updateWhere]
  exact ⟨d, hd, by simp [hkeep]⟩

theorem Db.Consistent.deleteTeam (teamID : UUID) : (Tenancy.deleteTeam db teamID).Consistent := by
  refine hdb.dropTeam rfl ?_ rfl
  intro team hteam hkeep
  exact Table.mem_deleteWhere.mpr ⟨hteam, by simp [hkeep]⟩

theorem Db.Consistent.deleteDomain (domainID : UUID) :
    (Tenancy.deleteDomain db domainID).Consistent := by
  refine hdb.dropDomain rfl ?_ rfl
  intro d hd hkeep
  exact Table.mem_deleteWhere.mpr ⟨hd, by simp [hkeep]⟩

theorem Db.Consistent.deleteOrg (orgID : UUID) : (Tenancy.deleteOrg db orgID).Consistent := by
  apply hdb.of_subset
  intro a ha
  obtain ⟨hmem, hother⟩ := mem_deleteAssignments.mp ha
  refine ⟨hmem, ?_⟩
  rw [Bool.or_eq_false_iff, List.any_eq_false, List.any_eq_false] at hother
  rintro org ⟨⟨team, hteam, hid, rfl⟩, d, hd, hid', horg'⟩
  have hkeep : ¬ team.orgID = orgID := by simpa [hid] using hother.1 team hteam
  have hkeep' : ¬ d.orgID = orgID := by simpa [hid'] using hother.2 d hd
  exact ⟨⟨team, Table.mem_deleteWhere.mpr ⟨hteam, by simp [hkeep]⟩, hid, rfl⟩,
    d, Table.mem_deleteWhere.mpr ⟨hd, by simp [hkeep']⟩, hid', horg'⟩

/-- An update that keeps the ids and orgs of teams keeps assignments located. -/
theorem Db.Consistent.updateTeams (p : Team → Bool) (f : Team → Team)
    (hid : ∀ t, (f t).id = t.id) (horg : ∀ t, (f t).orgID = t.orgID) :
    Db.Consistent { db with teams := db.teams.updateWhere p f hid } := by
  refine hdb.of_subset fun a ha => ⟨ha, ?_⟩
  rintro org ⟨⟨team, hteam, hteamID, rfl⟩, hdomain⟩
  refine ⟨⟨if p team then f team else team, ?_, ?_, ?_⟩, hdomain⟩
  · rw [Table.mem_updateWhere]
    exact ⟨team, hteam, rfl⟩
  · rw [← hteamID]
    split
    · exact hid team
    · rfl
  · split
    · exact horg team
    · rfl

theorem Db.Consistent.updateDomains (p : Domain → Bool) (f : Domain → Domain)
    (hid : ∀ d, (f d).id = d.id) (horg : ∀ d, (f d).orgID = d.orgID) :
    Db.Consistent { db with domains := db.domains.updateWhere p f hid } := by
  refine hdb.of_subset fun a ha => ⟨ha, ?_⟩
  rintro org ⟨hteam, d, hd, hdomainID, rfl⟩
  refine ⟨hteam, if p d then f d else d, ?_, ?_, ?_⟩
  · rw [Table.mem_updateWhere]
    exact ⟨d, hd, rfl⟩
  · rw [← hdomainID]
    split
    · exact hid d
    · rfl
  · split
    · exact horg d
    · rfl

theorem Db.Consistent.getD {result : Option Db}
    (h : ∀ db', result = some db' → db'.Consistent) : (result.getD db).Consistent := by
  cases result with
  | none => exact hdb
  | some db' => exact h db' rfl

end

/-- Every request keeps the assignments within one org, if assignment requests
name a team of their own org. -/
theorem step_consistent (db : Db) (r : Request) (hdb : db.Consistent) (hr : TeamInRouteOrg db r) :
    (step db r).Consistent := by
  cases r with
  | assign route body newID =>
    apply getD_of_ok hdb
    intro db' hok
    obtain ⟨a, hteam, hdomain, _, hcreate⟩ := handleAssign_ok hok
    exact hdb.createAssignment hcreate (assignment_located hteam hdomain hcreate hr)
  | unassign route domainParam force =>
    apply getD_of_ok hdb
    intro db' hok
    obtain ⟨a, _, _, rfl⟩ := handleUnassign_ok hok
    exact hdb.of_subset fun _ ha => ⟨(mem_deleteAssignments.mp ha).1, fun _ hlocated => hlocated⟩
  | countOrgs orgID | createOrg orgID | createInbox inbox =>
    simp only [step]
    split <;> exact hdb
  | deleteOrg orgID => exact hdb.deleteOrg orgID
  | createTeam orgID teamID domains => exact hdb.getD fun db' h => hdb.createTeam h
  | setArchived teamID archived => exact hdb.updateTeams _ _ _ fun _ => rfl
  | transferTeam orgID teamID targetOrgID => exact hdb.getD fun db' h => hdb.transferTeam h
  | deleteTeam teamID => exact hdb.deleteTeam teamID
  | createDomain orgID domainID =>
    simp only [step]
    split
    · exact hdb
    split
    · rename_i domains hinsert
      obtain ⟨_, hmem⟩ := Table.insert_eq_some hinsert
      refine hdb.of_subset fun a ha => ⟨ha, ?_⟩
      rintro org ⟨hteam, d, hd, hid⟩
      exact ⟨hteam, d, (hmem d).mpr (.inr hd), hid⟩
    · exact hdb
  | verifyDomain domainID mx txt => exact hdb.updateDomains _ _ _ fun _ => rfl
  | transferDomain orgID domainID targetOrgID => exact hdb.getD fun db' h => hdb.transferDomain h
  | deleteDomain domainID => exact hdb.deleteDomain domainID
  | setup orgID =>
    simp only [step]
    split
    · exact hdb
    · split <;> exact hdb
  | _ => exact hdb

theorem onlyTouches_of_unchanged {r : Request} (h : step db r = db) : OnlyTouches db r orgID := by
  unfold OnlyTouches
  rw [h]
  exact ⟨fun a ha hno => absurd ha hno, fun a ha hno => absurd ha hno,
    fun inbox hin hno => absurd hin hno⟩

/-- An assignment request through an org touches only that org's assignments, if
it names a team of the org. -/
theorem step_onlyTouches (db : Db) (r : Request) (orgID : UUID) (hdb : db.Consistent)
    (hr : TeamInRouteOrg db r) (horg : r.assignmentOrg = some orgID) : OnlyTouches db r orgID := by
  cases r with
  | assign route body newID =>
    obtain rfl : route.orgID = orgID := Option.some.inj horg
    rcases getD_cases (handleAssign route body newID db) db with hsame | hok
    · exact onlyTouches_of_unchanged hsame
    obtain ⟨a, hteam, hdomain, _, hcreate⟩ := handleAssign_ok hok
    have hlocated := assignment_located hteam hdomain hcreate hr
    refine ⟨?_, ?_, ?_⟩
    · intro b hb hnew
      rcases (mem_of_createAssignment hcreate).mp hb with rfl | hold
      · exact (located_of_createAssignment hcreate).mpr hlocated
      · exact absurd hold hnew
    · intro b hb hno
      exact absurd ((mem_of_createAssignment hcreate).mpr (.inr hb)) hno
    · intro inbox hin hno
      obtain ⟨_, _, assignments, _, hdb'⟩ := createAssignment_ok hcreate
      rw [step, hdb'] at hno
      exact absurd hin hno
  | unassign route domainParam force =>
    obtain rfl : route.orgID = orgID := Option.some.inj horg
    rcases getD_cases (handleUnassign route domainParam force db) db with hsame | hok
    · exact onlyTouches_of_unchanged hsame
    obtain ⟨a, ha, hteam, hdelete⟩ := handleUnassign_ok hok
    -- the assignment is located in the org of the route, since its team is
    obtain ⟨org, ⟨team, hmem, hid, rfl⟩, hdomain⟩ := hdb a ha
    have horg : team.orgID = route.orgID := hr team hmem (by rw [hteam, hid])
    have hlocated : db.Located a route.orgID := horg ▸ ⟨⟨team, hmem, hid, rfl⟩, hdomain⟩
    unfold OnlyTouches
    rw [step, hdelete]
    refine ⟨?_, ?_, ?_⟩
    · intro b hb hnew
      exact absurd (mem_deleteAssignments.mp hb).1 hnew
    · -- Only the row with the id of `a` is deleted, and that is `a`.
      intro b hb hno
      have hid : b.id = a.id := by
        by_contra hne
        exact hno (mem_deleteAssignments.mpr ⟨hb, by simpa using hne⟩)
      rwa [Table.eq_of_key_eq hb ha hid]
    · intro inbox hin hno
      have hcascade : ∃ b ∈ db.assignments.rows, b.id = a.id ∧ b.id = inbox.assignmentID := by
        by_contra hnone
        refine hno (Table.mem_deleteWhere.mpr ⟨hin, List.any_eq_false.mpr fun b hb hboth => ?_⟩)
        exact hnone ⟨b, hb, by simpa using hboth⟩
      obtain ⟨b, hb, hid, hinbox⟩ := hcascade
      obtain rfl := Table.eq_of_key_eq hb ha hid
      exact ⟨b, hb, hinbox, hlocated⟩
  | _ => cases horg

theorem empty_consistent : Db.empty.Consistent := fun a ha => absurd ha (Table.not_mem_empty a)

/-- A route of org 1, called by an admin of org 1 who is no system admin. -/
def adminRoute (teamID : UUID) : Route where
  checker := orgMemberChecker shippedRoles.cache "admin" admin_mem_orgRoles
  uc := some (plainUser 1)
  orgParam := some 1
  teamParam := some teamID

/-- Org 1 assigns its domain 10 to its team 20, an inbox appears, and the domain is
unassigned again. -/
def ownTeamRun : List Request :=
  [.setup 1, .createTeam 1 20 [], .createDomain 1 10, .verifyDomain 10 true true,
    .assign (adminRoute 20) (some ⟨some 10, "full"⟩) 30, .createInbox ⟨40, 30, true⟩,
    .unassign (adminRoute 20) (some 10) true]

/-- The org of the setup is deleted. Two calls of `CreateOrg` then both find no org, and both
insert one. Org 2 has team 20, which uses the domain 11 of org 2 with one inbox. An admin of
org 1 deletes that assignment through a route of org 1, and assigns the domain 10
of org 1 to the team. -/
def otherTeamRun : List Request :=
  [.setup 3, .deleteOrg 3, .countOrgs 1, .countOrgs 2, .createOrg 1, .createOrg 2,
    .createDomain 2 11, .verifyDomain 11 true true, .createTeam 2 20 [⟨some 11, "full", 31⟩],
    .createInbox ⟨40, 31, true⟩, .createDomain 1 10, .verifyDomain 10 true true,
    .unassign (adminRoute 20) (some 11) true, .assign (adminRoute 20) (some ⟨some 10, "full"⟩) 30]

end BurnerByte.Tenancy
