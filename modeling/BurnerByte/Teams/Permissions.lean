import BurnerByte.Handler.Checks
import BurnerByte.Rbac.Scopes
import BurnerByte.Teams.Database

/-!
# Permissions in a team

A check of a team permission names an organization and a team, and a client may pair any
two identifiers. The checker looks up three rows: the organization of the team, and the
memberships of the user in the organization and in the team. Each lookup may fail.
Whatever is granted is granted by a row of the database that belongs to the very
organization or team.
-/

namespace BurnerByte.Teams

open Handler Outcome Rbac Sql

inductive Lookup where
  | teamOrg
  | orgMembership
  | teamMembership

/-- The checker on the database, with the lookups that fail. -/
def Db.checker (db : Db) (cache : PermissionCache) (fails : Lookup → Bool) : Checker where
  orgMembership userID orgID :=
    if fails .orgMembership then none else db.getOrgMembership userID orgID
  teamMembership userID teamID :=
    if fails .teamMembership then none else db.getMembership userID teamID
  teamOrgID teamID := if fails .teamOrg then none else (db.getTeam teamID).map Team.orgID
  cache := cache

/-- The team belongs to the organization. -/
def Db.Owns (db : Db) (orgID teamID : UUID) : Prop :=
  ∃ team ∈ db.teams, team.id = teamID ∧ team.orgID = orgID
  deriving Decidable

/-- The user has a membership of the organization that grants the permission in its teams. -/
def Db.GrantsInOrg (db : Db) (cache : PermissionCache) (userID orgID : UUID) (key : String) :
    Prop :=
  ∃ m ∈ db.orgMembers, m.userID = userID ∧ m.orgID = orgID ∧
    (2 ≤ cache.getRank m.role ∨ cache.hasPermission m.role key = true)

def Db.GrantsInTeam (db : Db) (cache : PermissionCache) (userID teamID : UUID) (key : String) :
    Prop :=
  ∃ m ∈ db.teamMembers, m.userID = userID ∧ m.teamID = teamID ∧
    cache.hasPermission m.role key = true

section

variable {db : Db} {cache : PermissionCache} {fails : Lookup → Bool} {uc : UserContext}
  {orgID teamID : UUID} {key : String}

theorem owns_of_teamOrgID (h : (db.checker cache fails).teamOrgID teamID = some orgID) :
    db.Owns orgID teamID := by
  simp only [Db.checker] at h
  split at h
  · cases h
  obtain ⟨team, hteam, horg⟩ := Option.map_eq_some_iff.mp h
  obtain ⟨hmem, hid⟩ := UniqueTable.find?_eq_some_iff.mp hteam
  exact ⟨team, hmem, hid, horg⟩

theorem grantsInOrg_of_orgFallback (h : (db.checker cache fails).orgFallback uc orgID key = true) :
    db.GrantsInOrg cache uc.userID orgID key := by
  unfold Checker.orgFallback at h
  split at h
  · cases h
  rename_i m hm
  simp only [Db.checker] at hm
  split at hm
  · cases hm
  obtain ⟨hmem, hkey⟩ := Table.find?_eq_some_iff.mp hm
  obtain ⟨huser, horg⟩ := Prod.mk.inj hkey
  refine ⟨m, hmem, huser, horg, ?_⟩
  exact (Bool.or_eq_true _ _ ▸ h).imp_left of_decide_eq_true

theorem grantsInTeam_of_teamMembershipBranch
    (h : (db.checker cache fails).teamMembershipBranch uc teamID key = .ok ()) :
    db.GrantsInTeam cache uc.userID teamID key := by
  obtain ⟨m, hm, hperm⟩ := Checker.teamMembershipBranch_ok_iff.mp h
  simp only [Db.checker] at hm
  split at hm
  · cases hm
  obtain ⟨hmem, hkey⟩ := Table.find?_eq_some_iff.mp hm
  obtain ⟨huser, hteam⟩ := Prod.mk.inj hkey
  exact ⟨m, hmem, huser, hteam, hperm⟩

/-- What the checker grants rests on rows of the database. -/
theorem granted_of_requireTeamPermission (hadmin : uc.isSystemAdmin = false)
    (h : (db.checker cache fails).requireTeamPermission (some uc) orgID teamID key = .ok ()) :
    db.Owns orgID teamID ∧
      (db.GrantsInOrg cache uc.userID orgID key ∨ db.GrantsInTeam cache uc.userID teamID key) := by
  rcases Checker.requireTeamPermission_ok_iff.mp h with htrue | ⟨horg, hgrant⟩
  · rw [hadmin] at htrue
    cases htrue
  refine ⟨owns_of_teamOrgID horg, ?_⟩
  cases hgrant with
  | inl hfallback => exact .inl (grantsInOrg_of_orgFallback hfallback)
  | inr hbranch => exact .inr (grantsInTeam_of_teamMembershipBranch hbranch)

theorem requireTeamPermission_of_check
    (h : checkTeamPermission (db.checker cache fails) (some uc) orgID teamID key = .ok ()) :
    (db.checker cache fails).requireTeamPermission (some uc) orgID teamID key = .ok () := by
  obtain ⟨_, _, hrbac⟩ := bind_eq_ok.mp h
  exact rbacError_ok hrbac

/-- Who is a member neither of the organization nor of the team is refused, by the checker and
by the handlers that use it. -/
theorem refused_of_no_membership (hadmin : uc.isSystemAdmin = false)
    (horgs : ∀ m ∈ db.orgMembers, m.userID = uc.userID → m.orgID ≠ orgID)
    (hteams : ∀ m ∈ db.teamMembers, m.userID = uc.userID → m.teamID ≠ teamID) :
    (db.checker cache fails).requireTeamPermission (some uc) orgID teamID key ≠ .ok () ∧
      checkTeamPermission (db.checker cache fails) (some uc) orgID teamID key ≠ .ok () := by
  have hrefused :
      (db.checker cache fails).requireTeamPermission (some uc) orgID teamID key ≠ .ok () := by
    intro hok
    rcases (granted_of_requireTeamPermission hadmin hok).2 with
      ⟨m, hm, huser, horg, _⟩ | ⟨m, hm, huser, hteam, _⟩
    · exact horgs m hm huser horg
    · exact hteams m hm huser hteam
  exact ⟨hrefused, fun hok => hrefused (requireTeamPermission_of_check hok)⟩

/-- For any database, any pattern of failing lookups and any pair of identifiers, a user who is
no system admin is granted a team permission only in a team of the organization, by a
membership of that organization or of that team; and refused without such a membership. -/
theorem team_permission_grounded (db : Db) (cache : PermissionCache) (fails : Lookup → Bool)
    (uc : UserContext) (orgID teamID : UUID) (key : String) (hadmin : uc.isSystemAdmin = false) :
    ((db.checker cache fails).requireTeamPermission (some uc) orgID teamID key = .ok () ∨
        checkTeamPermission (db.checker cache fails) (some uc) orgID teamID key = .ok () →
      db.Owns orgID teamID ∧
        (db.GrantsInOrg cache uc.userID orgID key ∨
          db.GrantsInTeam cache uc.userID teamID key)) ∧
      ((∀ m ∈ db.orgMembers, m.userID = uc.userID → m.orgID ≠ orgID) →
        (∀ m ∈ db.teamMembers, m.userID = uc.userID → m.teamID ≠ teamID) →
        (db.checker cache fails).requireTeamPermission (some uc) orgID teamID key ≠ .ok () ∧
          checkTeamPermission (db.checker cache fails) (some uc) orgID teamID key ≠ .ok ()) := by
  constructor
  · rintro (hok | hok)
    · exact granted_of_requireTeamPermission hadmin hok
    · exact granted_of_requireTeamPermission hadmin (requireTeamPermission_of_check hok)
  · exact refused_of_no_membership hadmin

end

/-! ## Two organizations -/

/-- Users 1 to 4. -/
def sampleService : Account.Service where
  accounts := ⟨⟨[⟨1, Account.sampleUser⟩, ⟨2, { Account.sampleUser with email := "b@example.com" }⟩,
    ⟨3, { Account.sampleUser with email := "c@example.com" }⟩,
    ⟨4, { Account.sampleUser with email := "d@example.com" }⟩], by decide⟩, by decide, by decide⟩
  sessions := .empty
  setupCompleted := true

/-- Users 1 and 2 belong to organization 1, user 1 as its owner. Team 5 of that organization is
led by user 2. User 3 belongs to organization 2 and leads its team 6. -/
def sampleDb : Db where
  svc := sampleService
  orgs := ⟨[⟨1, none⟩, ⟨2, none⟩], by decide⟩
  teams := ⟨⟨[⟨5, 1, "Blue", "blue", false⟩, ⟨6, 2, "Red", "red", false⟩], by decide⟩, by decide⟩
  orgMembers := ⟨[⟨1, 1, "owner", owner_mem_orgRoles⟩, ⟨2, 1, "member", member_mem_orgRoles⟩,
    ⟨3, 2, "owner", owner_mem_orgRoles⟩], by decide⟩
  teamMembers := ⟨[⟨2, 5, "lead", lead_mem_teamRoles⟩, ⟨3, 6, "lead", lead_mem_teamRoles⟩],
    by decide⟩
  invites := .empty
  assignments := .empty
  team_org := by decide
  orgMember_user := by decide
  orgMember_org := by decide
  teamMember_user := by decide
  teamMember_team := by decide
  invite_org := by decide
  invite_team := by decide
  assignment_invite := by decide
  assignment_team := by decide

/-- User 3 is refused in team 5, whether the client names the organization of the team or the one
of user 3. The lead of the team passes. -/
theorem pairing_refused :
    (∀ orgID ∈ [1, 2], checkTeamPermission (sampleDb.checker shippedRoles.cache fun _ => false)
        (some (plainUser 3)) orgID 5 "team.view" ≠ .ok ()) ∧
      checkTeamPermission (sampleDb.checker shippedRoles.cache fun _ => false)
        (some (plainUser 2)) 1 5 "team.view" = .ok () ∧ sampleDb.Owns 1 5 := by
  have hgranted : checkTeamPermission (sampleDb.checker shippedRoles.cache fun _ => false)
      (some (plainUser 2)) 1 5 "team.view" = .ok () := by decide +kernel
  refine ⟨?_, hgranted, ((team_permission_grounded _ _ _ _ 1 5 _ rfl).1 (.inr hgranted)).1⟩
  intro orgID horg
  rcases List.mem_cons.mp horg with rfl | horg
  · exact ((team_permission_grounded sampleDb _ _ (plainUser 3) 1 5 "team.view" rfl).2
      (by decide) (by decide)).2
  obtain rfl := List.mem_singleton.mp horg
  intro hgranted'
  have howns := ((team_permission_grounded _ _ _ _ 2 5 _ rfl).1 (.inr hgranted')).1
  exact absurd howns (by decide)

end BurnerByte.Teams
