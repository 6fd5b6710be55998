import BurnerByte.Tenancy.Isolation

/-!
# Assignments of verified domains

`AssignDomain` refuses a domain unless its MX and TXT records are verified. `CreateTeam` inserts
the assignments of its initial domains itself, and asks only whether the domain belongs to the
org. So a new team may start with a domain whose ownership nobody has proved.
-/

namespace BurnerByte.Tenancy

open Sql Outcome

/-! ## The initial domains of a team -/

/-- The rows that a new team starts with. -/
def initialRows (db : Db) (orgID teamID : UUID) (domains : List InitialDomain) : List Assignment :=
  domains.filterMap fun entry => (entry.assigns db orgID).map (entry.row teamID)

/-- Two rows that cannot both be in the table. -/
def Assignment.Collides (a b : Assignment) : Prop :=
  a.id = b.id ∨ a.teamID = b.teamID ∧ a.domainID = b.domainID

theorem Assignment.Collides.symm {a b : Assignment} (h : a.Collides b) : b.Collides a :=
  h.imp Eq.symm fun hsame => ⟨hsame.1.symm, hsame.2.symm⟩

/-- The rows can be inserted one after the other. -/
structure Db.Takes (db : Db) (rows : List Assignment) : Prop where
  distinct : rows.Pairwise fun a b => ¬ a.Collides b
  unused : ∀ row ∈ rows, ∀ old ∈ db.assignments, ¬ row.Collides old

variable {db db' : Db} {orgID teamID : UUID} {domains : List InitialDomain}

/-- The entries that are skipped play no part. -/
theorem foldlM_assignInitialDomain :
    domains.foldlM (assignInitialDomain teamID orgID) db =
      (initialRows db orgID teamID domains).foldlM
        (fun db row => (db.createAssignment row).toOption) db := by
  induction domains generalizing db with
  | nil => rfl
  | cons entry domains ih =>
    rw [List.foldlM_cons, assignInitialDomain_eq, initialRows, List.filterMap_cons]
    cases entry.assigns db orgID with
    | none => exact ih
    | some domainID =>
      simp only [Option.elim_some, Option.map_some, List.foldlM_cons]
      cases hcreate : db.createAssignment (entry.row teamID domainID) with
      | error err => rfl
      | ok mid =>
        obtain ⟨_, _, assignments, _, rfl⟩ := createAssignment_ok hcreate
        have hsame : initialRows { db with assignments } orgID teamID domains =
            initialRows db orgID teamID domains := rfl
        simp only [Except.toOption, Option.bind_eq_bind, Option.bind_some, ih, hsame]
        rfl

variable {a : Assignment} {rows : List Assignment}

theorem exists_createAssignment_iff (hteam : ∃ team ∈ db.teams, team.id = a.teamID)
    (hdomain : ∃ d ∈ db.domains, d.id = a.domainID) :
    (∃ db', db.createAssignment a = .ok db') ↔ ∀ old ∈ db.assignments, ¬ a.Collides old := by
  obtain ⟨team, hteam⟩ := hteam
  obtain ⟨d, hd⟩ := hdomain
  have hpair : (db.assignments.rows.any fun b => b.teamID = a.teamID && b.domainID = a.domainID) =
      true ↔ ∃ old ∈ db.assignments, a.teamID = old.teamID ∧ a.domainID = old.domainID := by
    simp only [List.any_eq_true, Bool.and_eq_true, decide_eq_true_eq, @eq_comm _ a.teamID,
      @eq_comm _ a.domainID]
    rfl
  unfold Db.createAssignment
  rw [Table.find?_eq_some_iff.mpr hteam, Table.find?_eq_some_iff.mpr hd]
  by_cases hused : ∃ old ∈ db.assignments, a.teamID = old.teamID ∧ a.domainID = old.domainID
  · rw [if_pos (hpair.mpr hused)]
    obtain ⟨old, hold, hsame⟩ := hused
    exact iff_of_false (by simp) fun h => h old hold (.inr hsame)
  rw [if_neg (mt hpair.mp hused)]
  cases hinsert : db.assignments.insert a with
  | none =>
    refine iff_of_false (by simp) fun h => ?_
    obtain ⟨_, hsome⟩ : ∃ assignments, db.assignments.insert a = some assignments :=
      Table.exists_insert fun old hold hid => h old hold (.inl hid.symm)
    rw [hinsert] at hsome
    cases hsome
  | some assignments =>
    refine iff_of_true ⟨_, rfl⟩ fun old hold hcollides => ?_
    cases hcollides with
    | inl hid => exact (Table.insert_eq_some hinsert).1 old hold hid.symm
    | inr hsame => exact hused ⟨old, hold, hsame⟩

/-- Rows of an existing team for existing domains are all inserted exactly if none of them
collides with another row. -/
theorem exists_insertRows_iff
    (hrefs : ∀ row ∈ rows, (∃ team ∈ db.teams, team.id = row.teamID) ∧
      ∃ d ∈ db.domains, d.id = row.domainID) :
    (∃ db', rows.foldlM (fun db row => (db.createAssignment row).toOption) db = some db') ↔
      db.Takes rows := by
  induction rows generalizing db with
  | nil => exact iff_of_true ⟨db, rfl⟩ ⟨.nil, fun _ h => absurd h List.not_mem_nil⟩
  | cons row rows ih =>
    obtain ⟨hteam, hdomain⟩ := hrefs row List.mem_cons_self
    have hrest := fun later hlater => hrefs later (List.mem_cons_of_mem row hlater)
    rw [List.foldlM_cons]
    cases hcreate : db.createAssignment row with
    | error err =>
      refine iff_of_false (by rintro ⟨_, h⟩; cases h) fun htakes => ?_
      obtain ⟨_, hok⟩ := (exists_createAssignment_iff hteam hdomain).mpr
        (htakes.unused row List.mem_cons_self)
      rw [hcreate] at hok
      cases hok
    | ok mid =>
      have hfree := (exists_createAssignment_iff hteam hdomain).mp ⟨mid, hcreate⟩
      obtain ⟨_, _, assignments, hinsert, rfl⟩ := createAssignment_ok hcreate
      refine Iff.trans (ih hrest) ?_
      have hmem := (Table.insert_eq_some hinsert).2
      constructor
      · rintro ⟨hdistinct, hunused⟩
        refine ⟨List.pairwise_cons.mpr ⟨fun later hlater hcollides => ?_, hdistinct⟩, ?_⟩
        · exact hunused later hlater row ((hmem row).mpr (.inl rfl)) hcollides.symm
        · intro first hfirst old hold
          rcases List.mem_cons.mp hfirst with rfl | hlater
          · exact hfree old hold
          · exact hunused first hlater old ((hmem old).mpr (.inr hold))
      · rintro ⟨hdistinct, hunused⟩
        obtain ⟨hfirst, hdistinct⟩ := List.pairwise_cons.mp hdistinct
        refine ⟨hdistinct, fun later hlater old hold hcollides => ?_⟩
        rcases (hmem old).mp hold with rfl | hold
        · exact hfirst later hlater hcollides.symm
        · exact hunused later (List.mem_cons_of_mem row hlater) old hold hcollides

theorem mem_insertRows
    (h : rows.foldlM (fun db row => (db.createAssignment row).toOption) db = some db') :
    db'.domains = db.domains ∧ ∀ a, a ∈ db'.assignments ↔ a ∈ rows ∨ a ∈ db.assignments := by
  induction rows generalizing db with
  | nil =>
    cases h
    exact ⟨rfl, by simp⟩
  | cons row rows ih =>
    rw [List.foldlM_cons] at h
    obtain ⟨mid, hcreate, hrest⟩ := Option.bind_eq_some_iff.mp h
    rw [toOption_eq_some] at hcreate
    obtain ⟨hdomains, hmem⟩ := ih hrest
    refine ⟨?_, fun a => ?_⟩
    · obtain ⟨_, _, assignments, _, rfl⟩ := createAssignment_ok hcreate
      exact hdomains
    · rw [hmem, mem_of_createAssignment hcreate, List.mem_cons, or_left_comm, or_assoc]

theorem mem_initialRows : a ∈ initialRows db orgID teamID domains ↔
    ∃ entry ∈ domains, ∃ domainID, entry.assigns db orgID = some domainID ∧
      entry.row teamID domainID = a := by
  simp [initialRows, List.mem_filterMap]

theorem refs_initialRows (hteam : ∃ team ∈ db.teams, team.id = teamID) :
    ∀ row ∈ initialRows db orgID teamID domains,
      (∃ team ∈ db.teams, team.id = row.teamID) ∧ ∃ d ∈ db.domains, d.id = row.domainID := by
  intro row hrow
  obtain ⟨entry, _, domainID, hassigns, rfl⟩ := mem_initialRows.mp hrow
  obtain ⟨d, hd, hid, _⟩ := exists_domain_of_assigns hassigns
  exact ⟨hteam, d, hd, hid⟩

/-- Nothing stands in the way of creating the team: the org exists, the id is unused, and the rows
of the initial domains can be inserted. -/
structure Db.Creates (db : Db) (orgID teamID : UUID) (domains : List InitialDomain) : Prop where
  org : orgID ∈ db.orgs
  unused : ∀ team ∈ db.teams, team.id ≠ teamID
  rows : db.Takes (initialRows db orgID teamID domains)

theorem createTeam_of_creates (h : db.Creates orgID teamID domains) :
    ∃ db', createTeam db orgID teamID domains = some db' := by
  obtain ⟨teams, hinsert⟩ : ∃ teams, db.teams.insert
      { id := teamID, orgID := orgID, isArchived := false } = some teams :=
    Table.exists_insert h.unused
  have hteam : ∃ team ∈ teams, team.id = teamID :=
    ⟨_, ((Table.insert_eq_some hinsert).2 _).mpr (.inl rfl), rfl⟩
  obtain ⟨db', hrows⟩ :=
    (exists_insertRows_iff (@refs_initialRows { db with teams } _ _ _ hteam)).mpr
      ⟨h.rows.distinct, h.rows.unused⟩
  have horg : db.orgs.find? orgID = some orgID := Table.find?_eq_some_iff.mpr ⟨h.org, rfl⟩
  refine ⟨db', ?_⟩
  unfold createTeam
  rw [horg, hinsert]
  simp only [Option.isNone_some, Bool.false_eq_true, if_false, Option.bind_eq_bind,
    Option.bind_some, foldlM_assignInitialDomain]
  exact hrows

/-- A team that is created starts with exactly the rows of its initial domains, and these are
new. -/
theorem createTeam_some (h : createTeam db orgID teamID domains = some db') :
    db.Creates orgID teamID domains ∧ db'.domains = db.domains ∧
      ∀ a, a ∈ db'.assignments ↔ a ∈ initialRows db orgID teamID domains ∨ a ∈ db.assignments := by
  unfold createTeam at h
  split at h
  · cases h
  rename_i hexists
  obtain ⟨org, horg⟩ := Option.ne_none_iff_exists'.mp (mt Option.isNone_iff_eq_none.mpr hexists)
  have horg : orgID ∈ db.orgs := by
    obtain ⟨hmem, hid⟩ := Table.find?_eq_some_iff.mp horg
    have heq : org = orgID := hid
    rwa [heq] at hmem
  obtain ⟨teams, hinsert, hdomains⟩ := Option.bind_eq_some_iff.mp h
  obtain ⟨hunused, hmem⟩ := Table.insert_eq_some hinsert
  have hteam : ∃ team ∈ teams, team.id = teamID := ⟨_, (hmem _).mpr (.inl rfl), rfl⟩
  rw [foldlM_assignInitialDomain] at hdomains
  have htakes := (exists_insertRows_iff (@refs_initialRows { db with teams } _ _ _ hteam)).mp
    ⟨db', hdomains⟩
  obtain ⟨hsame, hrows⟩ := mem_insertRows hdomains
  exact ⟨⟨horg, hunused, htakes.distinct, htakes.unused⟩, hsame, hrows⟩

/-! ## Runs -/

/-- Every assignment that the request creates is for a domain whose MX and TXT records are
verified at that moment. -/
def AssignsVerified (db : Db) (req : Request) : Prop :=
  ∀ a ∈ (step db req).assignments, a ∉ db.assignments → (step db req).Verified a.domainID

/-- A team that is created starts with verified domains only. -/
def StartsVerified (db : Db) : Request → Prop
  | .createTeam orgID teamID domains => db.Creates orgID teamID domains →
      ∀ entry ∈ domains, ∀ domainID, entry.assigns db orgID = some domainID → db.Verified domainID
  | _ => True

theorem assignsVerified_of_subset {req : Request}
    (h : ∀ a ∈ (step db req).assignments, a ∈ db.assignments) : AssignsVerified db req :=
  fun a ha hnew => absurd (h a ha) hnew

theorem assignsVerified_assign (route : Route) (body : Option CreateAssignmentInput)
    (newID : UUID) : AssignsVerified db (.assign route body newID) := by
  rcases getD_cases (handleAssign route body newID db) db with hsame | hok
  · exact assignsVerified_of_subset fun a ha => by rwa [step, hsame] at ha
  obtain ⟨a, _, _, hverified, hcreate⟩ := handleAssign_ok hok
  intro b hb hnew
  rcases (mem_of_createAssignment hcreate).mp hb with rfl | hold
  · obtain ⟨_, _, assignments, _, hdb'⟩ := createAssignment_ok hcreate
    rw [step, hdb']
    exact hverified
  · exact absurd hold hnew

theorem assignsVerified_createTeam :
    AssignsVerified db (.createTeam orgID teamID domains) ↔
      StartsVerified db (.createTeam orgID teamID domains) := by
  cases hcreate : createTeam db orgID teamID domains with
  | none =>
    refine iff_of_true (assignsVerified_of_subset fun a ha => ?_) fun hcreates => ?_
    · rwa [step, hcreate] at ha
    · obtain ⟨db', hsome⟩ := createTeam_of_creates hcreates
      rw [hcreate] at hsome
      cases hsome
  | some db' =>
    obtain ⟨hcreates, hsame, hmem⟩ := createTeam_some hcreate
    have hstep : step db (.createTeam orgID teamID domains) = db' := by rw [step, hcreate]; rfl
    have hverified : ∀ domainID, db'.Verified domainID ↔ db.Verified domainID := by
      intro domainID
      unfold Db.Verified
      rw [hsame]
    unfold AssignsVerified
    simp only [hstep, hverified, hmem]
    constructor
    · intro hall _ entry hentry domainID hassigns
      have hrow : entry.row teamID domainID ∈ initialRows db orgID teamID domains :=
        mem_initialRows.mpr ⟨entry, hentry, domainID, hassigns, rfl⟩
      exact hall (entry.row teamID domainID) (.inl hrow) fun hold =>
        hcreates.rows.unused _ hrow _ hold (.inl rfl)
    · intro hstarts a ha hnew
      obtain ⟨entry, hentry, domainID, hassigns, rfl⟩ := mem_initialRows.mp (ha.resolve_right hnew)
      exact hstarts hcreates entry hentry domainID hassigns

theorem mem_of_getD {result : Option Db}
    (h : ∀ db', result = some db' → ∀ a ∈ db'.assignments, a ∈ db.assignments) :
    ∀ a ∈ (result.getD db).assignments, a ∈ db.assignments := by
  cases result with
  | none => exact fun a ha => ha
  | some db' => exact h db' rfl

theorem mem_of_mem_deleteAssignments {p : Assignment → Bool}
    (h : a ∈ (db.deleteAssignments p).assignments) : a ∈ db.assignments :=
  (mem_deleteAssignments.mp h).1

/-- The other requests create no assignment. -/
theorem assignsVerified_iff (db : Db) (req : Request) :
    AssignsVerified db req ↔ StartsVerified db req := by
  cases req with
  | createTeam orgID teamID domains => exact assignsVerified_createTeam
  | assign route body newID => exact iff_of_true (assignsVerified_assign route body newID) trivial
  | unassign route domainParam force =>
    refine iff_of_true (assignsVerified_of_subset fun a ha => ?_) trivial
    rcases getD_cases (handleUnassign route domainParam force db) db with hsame | hok
    · rwa [step, hsame] at ha
    obtain ⟨_, _, _, hdelete⟩ := handleUnassign_ok hok
    rw [step, hdelete] at ha
    exact mem_of_mem_deleteAssignments ha
  | transferTeam orgID id targetOrgID | transferDomain orgID id targetOrgID =>
    refine iff_of_true (assignsVerified_of_subset (mem_of_getD fun db' h a ha => ?_)) trivial
    simp only [transferTeam, transferDomain] at h
    split at h
    · cases h
    split at h
    · cases h
    cases h
    exact mem_of_mem_deleteAssignments ha
  | countOrgs orgID | createOrg orgID | createInbox inbox =>
    refine iff_of_true (assignsVerified_of_subset fun a ha => ?_) trivial
    simp only [step] at ha
    split at ha <;> exact ha
  | setup orgID | createDomain orgID domainID =>
    refine iff_of_true (assignsVerified_of_subset fun a ha => ?_) trivial
    simp only [step] at ha
    split at ha
    · exact ha
    · split at ha <;> exact ha
  | setArchived teamID archived | verifyDomain domainID mx txt | setInboxActive inboxID active
  | deleteInbox inboxID =>
    exact iff_of_true (assignsVerified_of_subset fun a ha => ha) trivial
  | _ =>
    exact iff_of_true (assignsVerified_of_subset fun a ha => mem_of_mem_deleteAssignments ha)
      trivial

/-- In a run of requests from any database, every assignment is created for a domain that is
verified at that moment exactly if every team that is created starts with verified domains. -/
theorem assigned_verified_iff (db : Db) (reqs : List Request) :
    (∀ done req rest, reqs = done ++ req :: rest → AssignsVerified (Trace.run step db done) req) ↔
      Trace.Guarded step StartsVerified db reqs := by
  simp only [assignsVerified_iff]
  exact Trace.Guarded.iff_forall.symm

/-- Org 1 adds a domain, of which no record is verified, and creates a team that starts with it. -/
def unverifiedStart : List Request :=
  [.setup 1, .createDomain 1 10, .createTeam 1 20 [⟨some 10, "full", 31⟩]]

/-- The assignment is created for the domain, and neither of its records is verified. -/
theorem unverified_assigned :
    (Trace.run step .empty unverifiedStart).assignments.rows = [⟨31, 20, 10, "full", none⟩] ∧
      (Trace.run step .empty unverifiedStart).domains.rows = [⟨10, 1, false, false⟩] ∧
      ¬ AssignsVerified (Trace.run step .empty (unverifiedStart.take 2))
        (.createTeam 1 20 [⟨some 10, "full", 31⟩]) := by
  refine ⟨by decide +kernel, by decide +kernel, fun h => ?_⟩
  obtain ⟨d, hd, _, hmx, _⟩ := h ⟨31, 20, 10, "full", none⟩ (by decide +kernel) (by decide +kernel)
  have hnone : ∀ d ∈ (Trace.run step .empty unverifiedStart).domains, d.mxVerified = false := by
    decide +kernel
  rw [hnone d hd] at hmx
  cases hmx

end BurnerByte.Tenancy
