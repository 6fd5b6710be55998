import BurnerByte.Rbac.Checker

/-!
# Scopes of roles

A check about an org membership should be decided by the role of the org scope,
and a check about a team membership by the role of the team scope. The cache
gives these answers exactly when, for the role values that memberships can hold,
the scope whose entry survives in the cache says nothing the right scope does
not say. The roles that ship with the product are not such a table.
-/

namespace BurnerByte.Rbac

/-- Every permission and every rank is taken from the scope of the membership. -/
structure ScopeSound (t : RoleTable) : Prop where
  org : ∀ (c : Checker) (uc : UserContext) (orgID : UUID) (key : String), c.cache = t.cache →
    uc.isSystemAdmin = false → c.requireOrgPermission (some uc) orgID key = .ok () →
      ∃ m, c.orgMembership uc.userID orgID = some m ∧ t.Granted .org m.role key
  team : ∀ (c : Checker) (uc : UserContext) (orgID teamID : UUID) (key : String),
    c.cache = t.cache → uc.isSystemAdmin = false → c.orgFallback uc orgID key = false →
      c.requireTeamPermission (some uc) orgID teamID key = .ok () →
        ∃ tm, c.teamMembership uc.userID teamID = some tm ∧ t.Granted .team tm.role key
  orgRank : ∀ (c : Checker) (m : OrgMembership), c.cache = t.cache →
    c.orgRoleRank m = t.rank .org m.role
  teamRank : ∀ (c : Checker) (m : TeamMembership), c.cache = t.cache →
    c.teamRoleRank m = t.rank .team m.role

/-- A role value of org memberships that also exists as a team role has no more
permissions and no other rank there; a role value of team memberships that does
not exist as a team role has no permissions and no rank as an org role. -/
structure ScopesAgree (t : RoleTable) : Prop where
  org : ∀ value ∈ orgRoles, t.Has .team value →
    (∀ key, t.Granted .team value key → t.Granted .org value key) ∧
      t.rank .team value = t.rank .org value
  team : ∀ value ∈ teamRoles, ¬ t.Has .team value →
    (∀ key, ¬ t.Granted .org value key) ∧ t.rank .org value = 0

/-- What the cache says about a role value is said by the role of the scope. -/
def CacheFaithful (t : RoleTable) (scope : Scope) (value : String) : Prop :=
  (∀ key, t.Granted (t.cachedScope value) value key → t.Granted scope value key) ∧
    t.rank (t.cachedScope value) value = t.rank scope value

variable {t : RoleTable}

/-- If a team role has the value, its entry is the one in the cache. -/
theorem scopesAgree_iff : ScopesAgree t ↔ (∀ value ∈ orgRoles, CacheFaithful t .org value) ∧
    ∀ value ∈ teamRoles, CacheFaithful t .team value := by
  have horg (value : String) : (t.Has .team value →
      (∀ key, t.Granted .team value key → t.Granted .org value key) ∧
        t.rank .team value = t.rank .org value) ↔ CacheFaithful t .org value := by
    by_cases hteam : t.Has .team value
    · simp [CacheFaithful, RoleTable.cachedScope_of_has hteam, hteam]
    · simp [CacheFaithful, RoleTable.cachedScope_of_not_has hteam, hteam]
  have hteam (value : String) : (¬ t.Has .team value → (∀ key, ¬ t.Granted .org value key) ∧
      t.rank .org value = 0) ↔ CacheFaithful t .team value := by
    by_cases hteam : t.Has .team value
    · simp [CacheFaithful, RoleTable.cachedScope_of_has hteam, hteam]
    · simp [CacheFaithful, RoleTable.cachedScope_of_not_has hteam, hteam,
        RoleTable.rank_of_not_has hteam, RoleTable.not_granted_of_not_has hteam]
  simp only [← horg, ← hteam]
  exact ⟨fun h => ⟨h.org, h.team⟩, fun h => ⟨h.1, h.2⟩⟩

/-! ## Checkers with one member -/

/-- User 1 is the only member of org 1, and there are no teams. -/
def orgMemberChecker (cache : PermissionCache) (role : String) (h : role ∈ orgRoles) : Checker where
  orgMembership
    | 1, 1 => some ⟨1, 1, role, h⟩
    | _, _ => none
  teamMembership _ _ := none
  teamOrgID _ := none
  cache := cache

/-- User 1 is the only member of team 1 of org 1, and no member of the org. -/
def teamMemberChecker (cache : PermissionCache) (role : String) (h : role ∈ teamRoles) :
    Checker where
  orgMembership _ _ := none
  teamMembership
    | 1, 1 => some ⟨1, 1, role, h⟩
    | _, _ => none
  teamOrgID
    | 1 => some 1
    | _ => none
  cache := cache

/-- A signed-in user without special rights. -/
def plainUser (userID : UUID) : UserContext where
  userID := userID
  email := "user@example.com"
  displayName := "User"
  isSystemAdmin := false
  apiKeyScopes := none

theorem ScopeSound.faithful_org (h : ScopeSound t) {value : String} (hvalue : value ∈ orgRoles) :
    CacheFaithful t .org value := by
  constructor
  · intro key hgranted
    have hok : (orgMemberChecker t.cache value hvalue).requireOrgPermission
        (some (plainUser 1)) 1 key = .ok () :=
      Checker.requireOrgPermission_ok_iff.mpr
        (.inr ⟨_, rfl, (t.hasPermission_cache value key).mpr hgranted⟩)
    obtain ⟨m, hm, hgrant⟩ := h.org _ _ _ _ rfl rfl hok
    cases hm
    exact hgrant
  · rw [← RoleTable.getRank_cache]
    exact h.orgRank (orgMemberChecker t.cache value hvalue) ⟨1, 1, value, hvalue⟩ rfl

theorem ScopeSound.faithful_team (h : ScopeSound t) {value : String} (hvalue : value ∈ teamRoles) :
    CacheFaithful t .team value := by
  constructor
  · intro key hgranted
    have hok : (teamMemberChecker t.cache value hvalue).requireTeamPermission
        (some (plainUser 1)) 1 1 key = .ok () :=
      Checker.requireTeamPermission_ok_iff.mpr (.inr ⟨rfl, .inr
        (Checker.teamMembershipBranch_ok_iff.mpr
          ⟨_, rfl, (t.hasPermission_cache value key).mpr hgranted⟩)⟩)
    obtain ⟨tm, htm, hgrant⟩ := h.team _ _ _ _ _ rfl rfl rfl hok
    cases htm
    exact hgrant
  · rw [← RoleTable.getRank_cache]
    exact h.teamRank (teamMemberChecker t.cache value hvalue) ⟨1, 1, value, hvalue⟩ rfl

theorem scopeSound_of_faithful (horg : ∀ value ∈ orgRoles, CacheFaithful t .org value)
    (hteam : ∀ value ∈ teamRoles, CacheFaithful t .team value) : ScopeSound t where
  org := by
    intro c uc orgID key hcache hadmin hok
    rcases Checker.requireOrgPermission_ok_iff.mp hok with htrue | ⟨m, hm, hperm⟩
    · rw [hadmin] at htrue
      cases htrue
    · rw [hcache, RoleTable.hasPermission_cache] at hperm
      exact ⟨m, hm, (horg m.role m.role_mem).1 key hperm⟩
  team := by
    intro c uc orgID teamID key hcache hadmin hfallback hok
    rcases Checker.requireTeamPermission_ok_iff.mp hok with htrue | ⟨_, htrue | hbranch⟩
    · rw [hadmin] at htrue
      cases htrue
    · rw [hfallback] at htrue
      cases htrue
    obtain ⟨tm, htm, hperm⟩ := Checker.teamMembershipBranch_ok_iff.mp hbranch
    rw [hcache, RoleTable.hasPermission_cache] at hperm
    exact ⟨tm, htm, (hteam tm.role tm.role_mem).1 key hperm⟩
  orgRank := by
    intro c m hcache
    rw [Checker.orgRoleRank, hcache, RoleTable.getRank_cache, (horg m.role m.role_mem).2]
  teamRank := by
    intro c m hcache
    rw [Checker.teamRoleRank, hcache, RoleTable.getRank_cache, (hteam m.role m.role_mem).2]

/-- The checks respect the scopes of a role table exactly when the scopes agree on
the role values that memberships can hold. -/
theorem scopeSound_iff (t : RoleTable) : ScopeSound t ↔ ScopesAgree t := by
  rw [scopesAgree_iff]
  exact ⟨fun h => ⟨fun _ => h.faithful_org, fun _ => h.faithful_team⟩,
    fun h => scopeSound_of_faithful h.1 h.2⟩

/-! ## The shipped roles -/

def orgPermissions : List String :=
  ["org.settings.manage", "org.delete", "org.members.invite", "org.members.remove",
    "org.members.role", "org.domains.manage", "org.teams.manage", "org.audit.view", "org.view",
    "org.analytics.view", "org.settings.view", "org.members.view", "org.members.add",
    "org.teams.create", "org.teams.delete", "org.audit.export", "org.domains.view"]

def teamPermissions : List String :=
  ["team.settings.manage", "team.members.manage", "team.webhooks.manage", "team.apikeys.manage",
    "team.domains.manage", "team.inboxes.manage", "team.emails.view", "team.view",
    "team.members.view", "team.members.role", "team.domains.view", "team.webhooks.view",
    "team.apikeys.view", "team.inboxes.view", "team.inboxes.create", "team.analytics.view",
    "team.emails.manage"]

/-- The roles the migrations seed. -/
def shippedRoles : RoleTable where
  roles
    | .org =>
      [{ value := "owner", rank := 3, permissions := orgPermissions },
        { value := "admin", rank := 2
          permissions := orgPermissions.filter fun key => key ≠ "org.delete" },
        { value := "member", rank := 1
          permissions := ["org.view", "org.settings.view", "org.members.view", "org.domains.view",
            "org.analytics.view"] }]
    | .team =>
      [{ value := "lead", rank := 2, permissions := teamPermissions },
        { value := "member", rank := 1
          permissions := ["team.inboxes.manage", "team.emails.view", "team.view",
            "team.members.view", "team.domains.view", "team.webhooks.view", "team.apikeys.view",
            "team.inboxes.view", "team.inboxes.create", "team.analytics.view",
            "team.emails.manage"] }]
  unique scope := by cases scope <;> decide

/-- With the shipped roles, a plain org member passes an org check for a permission
that only the team role `member` has. -/
theorem shippedRoles_not_scopeSound : ¬ ScopeSound shippedRoles := by
  intro hsound
  have hok : (orgMemberChecker shippedRoles.cache "member" (by decide)).requireOrgPermission
      (some (plainUser 1)) 1 "team.inboxes.create" = .ok () := by decide +kernel
  obtain ⟨m, hm, role, hrole, hvalue, hkey⟩ := hsound.org _ _ _ _ rfl rfl hok
  cases hm
  have hno : ∀ role ∈ shippedRoles.roles .org, role.value = "member" →
      "team.inboxes.create" ∉ role.permissions := by decide +kernel
  exact hno role hrole hvalue hkey

end BurnerByte.Rbac
