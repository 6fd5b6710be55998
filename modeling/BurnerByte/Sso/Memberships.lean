import BurnerByte.Sso.Login

/-!
# Memberships that a login grants

A login writes memberships only for a user whom it creates. The provider gives the user a
role in the first organization and puts them into teams, each by a statement of its own.
-/

namespace BurnerByte.Sso

open Sql Rbac

/-! ## The teams of a provider -/

/-- The team of a mapping whose claim the user has. -/
def ClaimMapping.grantedTeam (claims : Claims) (mapping : ClaimMapping) : Option UUID :=
  match claims.lookup mapping.claimName, mapping.teamID with
  | some claim, .id teamID =>
    if claim.hasValue mapping.claimValue && teamRoles.contains mapping.teamRole then some teamID
    else none
  | _, _ => none

/-- The teams that a provider puts a new user with the claims into, by default or for a claim,
with a role that the database takes. -/
def SSOProvider.grantedTeams (provider : SSOProvider) (claims : Claims) : List UUID :=
  (provider.defaultTeamID.filter fun _ =>
    teamRoles.contains (defaultRole provider.defaultTeamRole)).toList ++
    provider.claimMappings.filterMap (ClaimMapping.grantedTeam claims)

/-! ## What is granted -/

/-- The user may have got memberships in the teams and in organizations. -/
structure Grants (userID : UUID) (granted : List UUID) (p p' : Platform) : Prop where
  svc : p'.svc = p.svc
  orgs : p'.dir.orgs = p.dir.orgs
  teams : p'.dir.teams = p.dir.teams
  orgMember_kept : ∀ m ∈ p.dir.orgMembers,
    ∃ m' ∈ p'.dir.orgMembers, orgMemberKey m' = orgMemberKey m
  orgMember_new : ∀ m ∈ p'.dir.orgMembers,
    (∃ old ∈ p.dir.orgMembers, orgMemberKey old = orgMemberKey m) ∨
      m.userID = userID ∧ (p.svc.accounts.getByID userID).isSome ∧ m.orgID ∈ p.dir.orgs
  teamMember_new : ∀ m ∈ p'.dir.teamMembers, m ∈ p.dir.teamMembers ∨
    m.userID = userID ∧ (p.svc.accounts.getByID userID).isSome ∧
      (p.dir.getTeam m.teamID).isSome ∧ m.teamID ∈ granted

section

variable {faults : Faults} {p p' : Platform} {userID teamID orgID : UUID} {role : String}
  {granted : List UUID}

theorem Grants.refl (userID : UUID) (granted : List UUID) (p : Platform) :
    Grants userID granted p p where
  svc := rfl
  orgs := rfl
  teams := rfl
  orgMember_kept m hm := ⟨m, hm, rfl⟩
  orgMember_new m hm := .inl ⟨m, hm, rfl⟩
  teamMember_new _ hm := .inl hm

theorem Grants.trans {p'' : Platform} (h : Grants userID granted p p')
    (h' : Grants userID granted p' p'') : Grants userID granted p p'' where
  svc := h'.svc.trans h.svc
  orgs := h'.orgs.trans h.orgs
  teams := h'.teams.trans h.teams
  orgMember_kept m hm := by
    obtain ⟨m', hm', hkey⟩ := h.orgMember_kept m hm
    obtain ⟨m'', hm'', hkey'⟩ := h'.orgMember_kept m' hm'
    exact ⟨m'', hm'', hkey'.trans hkey⟩
  orgMember_new m hm := by
    rcases h'.orgMember_new m hm with ⟨m', hm', hkey⟩ | ⟨huser, hsome, horg⟩
    · rcases h.orgMember_new m' hm' with ⟨old, hold, hkey'⟩ | ⟨huser, hsome, horg⟩
      · exact .inl ⟨old, hold, hkey'.trans hkey⟩
      · obtain ⟨huser', horg'⟩ := Prod.mk.inj hkey
        exact .inr ⟨huser'.symm.trans huser, hsome, horg' ▸ horg⟩
    · exact .inr ⟨huser, h.svc ▸ hsome, h.orgs ▸ horg⟩
  teamMember_new m hm := by
    rcases h'.teamMember_new m hm with hm' | ⟨huser, hsome, hteam, hgranted⟩
    · exact h.teamMember_new m hm'
    refine .inr ⟨huser, h.svc ▸ hsome, ?_, hgranted⟩
    unfold Directory.getTeam at hteam ⊢
    rwa [← h.teams]

theorem createOrgMembership_eq_some (h : p.createOrgMembership userID orgID role = some p') :
    ∃ (hrole : role ∈ orgRoles) (orgMembers : Table OrgMembership (UUID × UUID) orgMemberKey),
      (p.svc.accounts.getByID userID).isSome ∧ orgID ∈ p.dir.orgs ∧
        p.dir.orgMembers.insert ⟨userID, orgID, role, hrole⟩ = some orgMembers ∧
        p' = { p with dir := { p.dir with orgMembers } } := by
  unfold Platform.createOrgMembership at h
  split at h
  · rename_i hrole
    split at h
    · cases h
    rename_i hparents
    obtain ⟨orgMembers, hinsert, rfl⟩ := Option.map_eq_some_iff.mp h
    obtain ⟨huser, horg⟩ : (p.svc.accounts.getByID userID).isSome ∧ orgID ∈ p.dir.orgs := by
      simpa [Option.isSome_iff_ne_none] using hparents
    exact ⟨hrole, orgMembers, huser, horg, hinsert, rfl⟩
  · cases h

theorem createOrgMembership_grants (h : p.createOrgMembership userID orgID role = some p') :
    Grants userID granted p p' := by
  obtain ⟨hrole, orgMembers, huser, horg, hinsert, rfl⟩ := createOrgMembership_eq_some h
  have hmem := (Table.insert_eq_some hinsert).2
  refine ⟨rfl, rfl, rfl, fun m hm => ⟨m, (hmem m).mpr (.inr hm), rfl⟩, ?_, fun _ hm => .inl hm⟩
  intro m hm
  rcases (hmem m).mp hm with rfl | hold
  · exact .inr ⟨rfl, huser, horg⟩
  · exact .inl ⟨m, hold, rfl⟩

theorem updateMemberRole_grants (h : p.updateMemberRole userID orgID role = some p') :
    Grants userID granted p p' := by
  unfold Platform.updateMemberRole at h
  split at h
  · split at h
    · cases h
    cases h
    refine ⟨rfl, rfl, rfl, fun m hm => ?_, fun m hm => .inl ?_, fun _ hm => .inl hm⟩
    · exact (Table.exists_key_updateWhere_iff (by intro _; rfl)).mpr ⟨m, hm, rfl⟩
    · exact (Table.exists_key_updateWhere_iff (by intro _; rfl)).mp ⟨m, hm, rfl⟩
  · cases h

theorem createTeamMembership_grants (h : p.createTeamMembership userID teamID role = some p')
    (hgranted : role ∈ teamRoles → teamID ∈ granted) : Grants userID granted p p' := by
  unfold Platform.createTeamMembership at h
  split at h
  · rename_i hrole
    split at h
    · cases h
    rename_i hparents
    obtain ⟨teamMembers, hinsert, rfl⟩ := Option.map_eq_some_iff.mp h
    obtain ⟨huser, hteam⟩ :
        (p.svc.accounts.getByID userID).isSome ∧ (p.dir.getTeam teamID).isSome := by
      simpa [Option.isSome_iff_ne_none] using hparents
    refine ⟨rfl, rfl, rfl, fun m hm => ⟨m, hm, rfl⟩, fun m hm => .inl ⟨m, hm, rfl⟩, ?_⟩
    intro m hm
    rcases ((Table.insert_eq_some hinsert).2 m).mp hm with rfl | hold
    · exact .inr ⟨rfl, huser, hteam, hgranted hrole⟩
    · exact .inl hold
  · cases h

theorem Grants.attempt (call : Call) {next : Option Platform}
    (h : ∀ {q : Platform}, next = some q → Grants userID granted p q) :
    Grants userID granted p (faults.attempt call p next) := by
  cases faults.attempt_cases call p next with
  | inl heq =>
    rw [heq]
    exact .refl userID granted p
  | inr hnext => exact h hnext

/-! ## The defaults and the claims -/

variable {provider : SSOProvider} {claims : Claims} {result : SSOCallbackResult}

theorem autoProvisionSSOFromProvider_grants
    (hgranted : ∀ teamID ∈ provider.defaultTeamID,
      defaultRole provider.defaultTeamRole ∈ teamRoles → teamID ∈ granted) :
    Grants userID granted p (autoProvisionSSOFromProvider faults userID provider p) := by
  unfold autoProvisionSSOFromProvider
  split
  · split
    · exact .attempt .defaultOrg createOrgMembership_grants
    rename_i teamID hteam
    refine .trans (.attempt .defaultOrg createOrgMembership_grants) (.attempt .defaultTeam ?_)
    intro q hq
    exact createTeamMembership_grants hq (hgranted teamID hteam)
  · exact .refl userID granted p

theorem applyClaimOrg_grants (mapping : ClaimMapping × Nat) :
    Grants userID granted p (applyClaimOrg faults userID p mapping) := by
  unfold applyClaimOrg
  split
  · exact .refl userID granted p
  · exact .attempt _ updateMemberRole_grants
  · exact .refl userID granted p

theorem applyClaimMapping_grants {mapping : ClaimMapping × Nat}
    (hgranted : ∀ teamID ∈ mapping.1.grantedTeam claims, teamID ∈ granted) :
    Grants userID granted p (applyClaimMapping faults userID claims p mapping) := by
  unfold applyClaimMapping
  split
  · exact .refl userID granted p
  rename_i claim hclaim
  split
  · exact .refl userID granted p
  rename_i hvalue
  have horg : Grants userID granted p (applyClaimOrg faults userID p mapping) :=
    applyClaimOrg_grants mapping
  refine horg.trans ?_
  unfold applyClaimTeam
  split
  · exact .refl userID granted _
  · rename_i teamID hteam _
    refine .attempt _ fun hq => createTeamMembership_grants hq fun hrole => ?_
    refine hgranted teamID ?_
    have hhas : claim.hasValue mapping.1.claimValue = true := by simpa using hvalue
    simp [ClaimMapping.grantedTeam, hclaim, hteam, hhas, hrole]
  · exact .refl userID granted _

theorem applyClaimMappings_grants {mappings : List ClaimMapping}
    (hgranted : ∀ mapping ∈ mappings, ∀ teamID ∈ mapping.grantedTeam claims, teamID ∈ granted) :
    Grants userID granted p (applyClaimMappings faults userID claims mappings p) := by
  have hfold (indexed : List (ClaimMapping × Nat)) (hindexed : ∀ m ∈ indexed, m.1 ∈ mappings) :
      ∀ p, Grants userID granted p (indexed.foldl (applyClaimMapping faults userID claims) p) := by
    induction indexed with
    | nil => exact .refl userID granted
    | cons mapping indexed ih =>
      intro p
      have hfirst := hgranted mapping.1 (hindexed mapping List.mem_cons_self)
      exact .trans (applyClaimMapping_grants hfirst)
        (ih (fun m hm => hindexed m (List.mem_cons_of_mem _ hm)) _)
  refine hfold _ (fun m hm => ?_) p
  exact (List.mem_zipIdx' hm).2 ▸ List.getElem_mem _

/-- What a new user gets from the provider. -/
theorem provisionDefaults_grants
    (hgranted : ∀ provider, p.dir.getByName result.provider = some provider →
      provider.autoProvision = true → provider.grantedTeams result.claims ⊆ granted) :
    Grants userID granted p (provisionDefaults faults userID result p) := by
  unfold provisionDefaults
  split
  · exact .refl userID granted p
  rename_i provider hprovider
  split
  · rename_i hauto
    have hteams := hgranted provider (providerByName_eq_ok hprovider) hauto
    refine .trans (autoProvisionSSOFromProvider_grants ?_) (applyClaimMappings_grants ?_)
    · intro teamID hteam hrole
      refine hteams (List.mem_append_left _ ?_)
      simp [Option.mem_toList, Option.mem_def.mp hteam, hrole]
    · intro mapping hmapping teamID hteam
      exact hteams (List.mem_append_right _ (List.mem_filterMap.mpr ⟨mapping, hmapping, hteam⟩))
  · exact .refl userID granted p

/-- Memberships are all that a new user gets from the provider. -/
theorem provisionDefaults_svc : (provisionDefaults faults userID result p).svc = p.svc := by
  have hgrants : Grants userID ((p.dir.getByName result.provider).elim []
      fun provider => provider.grantedTeams result.claims) p
      (provisionDefaults faults userID result p) := by
    refine provisionDefaults_grants fun provider hprovider _ => ?_
    rw [hprovider]
    exact List.Subset.refl _
  exact hgrants.svc

/-- A new user becomes a member of the first organization, unless a statement fails or the role
is none of the database's. -/
theorem provisionDefaults_orgMember
    (hprovider : providerByName faults .providerDefaults p.dir result.provider = .ok provider)
    (hauto : provider.autoProvision = true) (horg : p.dir.orgs.head? = some orgID)
    (horgs : faults .defaultOrgs = none) (hinsert : faults .defaultOrg = none)
    (hrole : defaultRole provider.defaultOrgRole ∈ orgRoles)
    (huser : (p.svc.accounts.getByID userID).isSome)
    (hnew : ∀ m ∈ p.dir.orgMembers, m.userID ≠ userID) :
    ∃ m ∈ (provisionDefaults faults userID result p).dir.orgMembers,
      orgMemberKey m = (userID, orgID) := by
  obtain ⟨rest, hlist⟩ := List.head?_eq_some_iff.mp horg
  have hfree : ∀ old ∈ p.dir.orgMembers, orgMemberKey old ≠
      orgMemberKey ⟨userID, orgID, defaultRole provider.defaultOrgRole, hrole⟩ := by
    intro old hold hkey
    exact hnew old hold (Prod.mk.inj hkey).1
  obtain ⟨orgMembers, hmembers⟩ := Table.exists_insert hfree
  have hcreate : p.createOrgMembership userID orgID (defaultRole provider.defaultOrgRole) =
      some { p with dir := { p.dir with orgMembers } } := by
    have hsome : (p.svc.accounts.getByID userID).isNone = false := by
      rw [← Option.not_isSome, huser]
      rfl
    simp [Platform.createOrgMembership, hrole, hsome, hlist, hmembers]
  have hadded : ∃ m ∈ (autoProvisionSSOFromProvider faults userID provider p).dir.orgMembers,
      orgMemberKey m = (userID, orgID) := by
    have hrow := ((Table.insert_eq_some hmembers).2 _).mpr (.inl rfl)
    have hattempt : faults.attempt .defaultOrg p
        (p.createOrgMembership userID orgID (defaultRole provider.defaultOrgRole)) =
          { p with dir := { p.dir with orgMembers } } := by
      simp [Faults.attempt, hinsert, hcreate]
    unfold autoProvisionSSOFromProvider
    rw [horgs, hlist]
    dsimp only
    rw [hattempt]
    cases provider.defaultTeamID with
    | none => exact ⟨_, hrow, rfl⟩
    | some teamID =>
      have hteam : Grants userID [teamID] { p with dir := { p.dir with orgMembers } }
          (faults.attempt .defaultTeam _ (Platform.createTeamMembership _ userID teamID
            (defaultRole provider.defaultTeamRole))) :=
        .attempt .defaultTeam fun hq => createTeamMembership_grants hq fun _ =>
          List.mem_singleton_self teamID
      exact hteam.orgMember_kept _ hrow
  obtain ⟨m, hm, hkey⟩ := hadded
  unfold provisionDefaults
  simp only [hprovider, hauto, if_true]
  have hclaims : Grants userID (provider.grantedTeams result.claims)
      (autoProvisionSSOFromProvider faults userID provider p)
      (applyClaimMappings faults userID result.claims provider.claimMappings
        (autoProvisionSSOFromProvider faults userID provider p)) :=
    applyClaimMappings_grants fun mapping hmapping teamID hteam =>
      List.mem_append_right _ (List.mem_filterMap.mpr ⟨mapping, hmapping, hteam⟩)
  obtain ⟨m', hm', hkey'⟩ := hclaims.orgMember_kept m hm
  exact ⟨m', hm', hkey'.trans hkey⟩

end

end BurnerByte.Sso
