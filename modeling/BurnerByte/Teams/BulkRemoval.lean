import BurnerByte.Teams.Leads

/-!
# Removing many members at once

`BulkRemoveMembers` goes through its list and counts what it finds there: the leads, to see
whether one is left, and the members, to report how many it has removed. Both counts are of
entries. They are counts of members exactly if no member is listed twice.
-/

namespace BurnerByte.Teams

open Rbac

/-- Without the listed users the team has no lead. -/
def Db.Leaderless (db : Db) (teamID : UUID) (userIDs : List UUID) : Prop :=
  ∀ m ∈ db.teamMembers, m.teamID = teamID → m.role = "lead" → m.userID ∈ userIDs
  deriving Decidable

/-- A bulk removal refuses to leave the team without a lead, and nothing else. Otherwise it removes
the listed members and reports how many memberships are gone. -/
def RemovesListed (db : Db) (teamID : UUID) (userIDs : List UUID) :
    Except String (BulkMemberResult × Db) → Prop
  | .error _ => db.Leaderless teamID userIDs
  | .ok (result, db') => ¬ db.Leaderless teamID userIDs ∧ db.SameButTeamMembers db' ∧
    (∀ m, m ∈ db'.teamMembers ↔ m ∈ db.teamMembers ∧ ¬ (m.teamID = teamID ∧ m.userID ∈ userIDs)) ∧
    result.removedCount = (db.teamMembers.rows.filter fun m => m ∉ db'.teamMembers).length

/-- The request is one that the service looks at. -/
structure Db.LooksAt (db : Db) (teamID : UUID) (userIDs : List UUID) : Prop where
  length : userIDs.length ≤ 100
  team : ∃ team, db.getTeam teamID = some team ∧ team.isArchived = false

variable {db db' : Db} {teamID : UUID} {userIDs : List UUID} {result : BulkMemberResult}

/-- Of leads that are listed once each, fewer are listed than there are, unless all of them are. -/
theorem listed_leads_lt (hnodup : (db.listed teamID userIDs).Nodup)
    (h : ¬ db.Leaderless teamID userIDs) :
    ((db.listed teamID userIDs).filter fun m => m.role = "lead").length < db.countLeads teamID := by
  obtain ⟨m, hm, hteam, hrole, hunlisted⟩ : ∃ m ∈ db.teamMembers, m.teamID = teamID ∧
      m.role = "lead" ∧ m.userID ∉ userIDs := by
    simpa [Db.Leaderless] using h
  have hfresh : m ∉ (db.listed teamID userIDs).filter fun m => m.role = "lead" :=
    fun hlisted => hunlisted (mem_listed.mp (List.mem_filter.mp hlisted).1).2.2
  refine (List.subperm_of_subset ((hnodup.filter _).cons hfresh) ?_).length_le
  refine List.cons_subset.mpr ⟨List.mem_filter.mpr ⟨hm, by simp [hteam, hrole]⟩, ?_⟩
  intro g hg
  obtain ⟨hlisted, hlead⟩ := List.mem_filter.mp hg
  obtain ⟨hgmem, hgteam, _⟩ := mem_listed.mp hlisted
  exact List.mem_filter.mpr ⟨hgmem, by simpa [hgteam] using hlead⟩

theorem length_gone_iff
    (hmem : ∀ m, m ∈ db'.teamMembers ↔ m ∈ db.teamMembers ∧ m ∉ db.listed teamID userIDs) :
    (db.listed teamID userIDs).length =
        (db.teamMembers.rows.filter fun m => m ∉ db'.teamMembers).length ↔
      (db.listed teamID userIDs).Nodup := by
  have hgone : (db.teamMembers.rows.filter fun m => m ∉ db'.teamMembers).Nodup :=
    db.teamMembers.unique.of_map.filter _
  have hlisted (m : TeamMembership) :
      m ∈ db.teamMembers.rows.filter (fun m => m ∉ db'.teamMembers) ↔
        m ∈ db.listed teamID userIDs := by
    rw [List.mem_filter, decide_eq_true_eq, hmem, not_and, not_not]
    exact ⟨fun h => h.2 h.1, fun h => ⟨(mem_listed.mp h).1, fun _ => h⟩⟩
  constructor
  · intro hlength
    have hsub := List.subperm_of_subset hgone fun m hm => (hlisted m).mp hm
    exact (hsub.perm_of_length_le hlength.le).nodup_iff.mp hgone
  · exact fun hnodup => ((List.perm_ext_iff_of_nodup hnodup hgone).mpr
      fun m => (hlisted m).symm).length_eq

/-- A bulk removal does what it should exactly if it should refuse, or looks at the request and
finds no member listed twice. -/
theorem bulk_removal_exact_iff (db : Db) (teamID : UUID) (userIDs : List UUID) :
    RemovesListed db teamID userIDs (bulkRemoveMembers db teamID userIDs) ↔
      db.Leaderless teamID userIDs ∨
        db.LooksAt teamID userIDs ∧ (db.listed teamID userIDs).Nodup := by
  cases hremove : bulkRemoveMembers db teamID userIDs with
  | error msg =>
    rw [RemovesListed, iff_self_or]
    rintro ⟨⟨hlength, team, hteam, harchived⟩, hnodup⟩
    by_contra hled
    have hfewer := Nat.not_le.mpr (listed_leads_lt hnodup hled)
    unfold Db.listed at hfewer
    simp [bulkRemoveMembers, Nat.not_lt.mpr hlength, hteam, harchived, hfewer] at hremove
  | ok r =>
    obtain ⟨result, db'⟩ := r
    obtain ⟨hfewer, hsame, hcount, hmem⟩ := bulkRemoveMembers_eq_ok hremove
    have hled : ¬ db.Leaderless teamID userIDs :=
      fun h => absurd hfewer (Nat.not_lt.mpr (countLeads_le h))
    have hlooks : db.LooksAt teamID userIDs := by
      obtain ⟨hlength, hremove⟩ := Outcome.guard_eq_ok.mp hremove
      split at hremove
      · cases hremove
      rename_i team hteam
      obtain ⟨harchived, _⟩ := Outcome.guard_eq_ok.mp hremove
      exact ⟨Nat.not_lt.mp hlength, team, hteam, Bool.eq_false_iff.mpr harchived⟩
    have hmembers : ∀ m, m ∈ db'.teamMembers ↔
        m ∈ db.teamMembers ∧ ¬ (m.teamID = teamID ∧ m.userID ∈ userIDs) := by
      intro m
      rw [hmem, mem_listed]
      tauto
    rw [RemovesListed, and_iff_right hled, and_iff_right hsame, and_iff_right hmembers, hcount,
      or_iff_right hled, and_iff_right hlooks]
    exact length_gone_iff hmem

/-- A lead who is listed twice is taken for two leads, so the removal is refused though the team
has another one. -/
theorem repeated_lead_refused :
    ¬ twoLeads.Leaderless 5 [1, 1] ∧
      (bulkRemoveMembers twoLeads 5 [1, 1]).toOption.isNone := by
  decide +kernel

end BurnerByte.Teams
