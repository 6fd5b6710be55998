import BurnerByte.Teams.BulkInvites

/-!
# Members of teams belong to the organization

A transfer removes the members of a team who do not belong to the organization it goes to,
and a user who is removed from an organization leaves its teams. Other operations put users
into teams without asking whether they belong to the organization: the creation of a team,
the operations that add members, an acceptance when the team has been transferred meanwhile,
and a login with SSO.
-/

namespace BurnerByte.Teams

open Handler Outcome Rbac Sql
open Trace (Guarded run)

/-! ## Containment -/

def Db.Belongs (db : Db) (userID orgID : UUID) : Prop :=
  ∃ m ∈ db.orgMembers, m.userID = userID ∧ m.orgID = orgID
  deriving Decidable

/-- Every member of a team belongs to the organization that owns it. -/
def Db.Contained (db : Db) : Prop :=
  ∀ m ∈ db.teamMembers, ∀ team ∈ db.teams, team.id = m.teamID → db.Belongs m.userID team.orgID
  deriving Decidable

section

variable (env : Env) (orgEnv : Org.Env)

/-- Users who are put into a team belong to its organization. An acceptance makes the user a
member of the organization of the invitation. A login makes a new user a member of the first
organization, if the role can be stored and no statement fails. -/
def Meets (db : Db) : Request → Prop
  | .createTeam orgID input creatorID _ =>
    db.Belongs creatorID orgID ∧ ∀ m ∈ input.members, m.role ∈ teamRoles →
      ∀ userID, resolveUser env db m = .ok userID → db.Belongs userID orgID
  | .addMember teamID input =>
    input.role ∈ teamRoles → ∀ userID, resolveUser env db input = .ok userID →
      ∀ team ∈ db.teams, team.id = teamID → db.Belongs userID team.orgID
  | .bulkAddMembers teamID members =>
    ∀ m ∈ members, m.role ∈ teamRoles → ∀ userID, resolveUser env db m = .ok userID →
      ∀ team ∈ db.teams, team.id = teamID → db.Belongs userID team.orgID
  | .acceptInvite _ token userID _ =>
    ∀ invite ∈ db.getInviteByToken (orgEnv.hashToken token), invite.acceptedAt = none →
      ∀ a ∈ db.inviteTeams invite, ∀ team ∈ db.teams, team.id = a.teamID → team.isArchived = false →
        team.orgID = invite.orgID ∨ db.Belongs userID team.orgID
  | .ssoLogin login =>
    ∀ team ∈ db.teams, team.id ∈ login.grantedTeams →
      db.orgs.rows.head?.map Organization.id = some team.orgID ∧
        login.faults .defaultOrgs = none ∧ login.faults .defaultOrg = none ∧
        ∀ provider ∈ login.provider, Sso.defaultRole provider.defaultOrgRole ∈ orgRoles
  | _ => True

end

variable {env : Env} {orgEnv : Org.Env} {db db' : Db} {userID teamID orgID : UUID} {role : String}

theorem Db.Belongs.of_eq (h : db.Belongs userID orgID) (horgs : db'.orgMembers = db.orgMembers) :
    db'.Belongs userID orgID := by
  unfold Db.Belongs
  rwa [horgs]

/-- Members may change their role or go. -/
theorem Db.Contained.of_keys (h : db.Contained) (hteams : db'.teams = db.teams)
    (horgs : db'.orgMembers = db.orgMembers) (hkeys : ∀ m ∈ db'.teamMembers,
      ∃ old ∈ db.teamMembers, Sso.teamMemberKey old = Sso.teamMemberKey m) : db'.Contained := by
  intro m hm team hteam hid
  rw [hteams] at hteam
  obtain ⟨old, hold, hkey⟩ := hkeys m hm
  obtain ⟨huser, hold_team⟩ := Prod.mk.inj hkey
  rw [← huser]
  exact (h old hold team hteam (hid.trans hold_team.symm)).of_eq horgs

theorem Db.Contained.of_same (h : db.Contained) (hteams : db'.teams = db.teams)
    (horgs : db'.orgMembers = db.orgMembers) (hmembers : db'.teamMembers = db.teamMembers) :
    db'.Contained :=
  h.of_keys hteams horgs fun m hm => ⟨m, hmembers ▸ hm, rfl⟩

theorem Db.Contained.createMembership (h : db.Contained)
    (hok : db.createMembership userID teamID role = .ok db')
    (hbelongs : role ∈ teamRoles → ∀ team ∈ db.teams, team.id = teamID →
      db.Belongs userID team.orgID) : db'.Contained := by
  obtain ⟨hsame, hrole, hmem⟩ := createMembership_eq_ok hok
  intro m hm team hteam hid
  rw [hsame.teams] at hteam
  rcases (hmem m).mp hm with rfl | hold
  · exact (hbelongs hrole team hteam hid).of_eq hsame.orgMembers
  · exact (h m hold team hteam hid).of_eq hsame.orgMembers

/-! ## Managing members -/

theorem Db.Contained.dropMember {lastLead : String} (h : db.Contained)
    (hok : dropMember db teamID userID lastLead = .ok db') : db'.Contained := by
  obtain ⟨_, _, _, rfl⟩ := dropMember_eq_ok hok
  exact h.of_keys rfl rfl fun m hm => ⟨m, (mem_deleteTeamMembers.mp hm).1, rfl⟩

variable {result : BulkMemberResult} {members : List AddTeamMemberInput} {creatorID : UUID}
  {input : CreateTeamInput} {draws : TeamDraws}

section

variable (h : db.Contained)

include h

theorem Db.Contained.bulkRemoveMembers {userIDs : List UUID}
    (hok : bulkRemoveMembers db teamID userIDs = .ok (result, db')) : db'.Contained := by
  obtain ⟨_, hsame, _, hmem⟩ := bulkRemoveMembers_eq_ok hok
  exact h.of_keys hsame.teams hsame.orgMembers fun m hm => ⟨m, ((hmem m).mp hm).1, rfl⟩

/-- Members who do not belong to the organization that the team goes to are removed. -/
theorem Db.Contained.transferTeam {targetOrgID : UUID} {result : TransferTeamResult}
    (hok : transferTeam env db orgID teamID targetOrgID = .ok (result, db')) :
    db'.Contained := by
  obtain ⟨_, hset⟩ := transferTeam_eq_ok hok
  obtain ⟨_, _, horgs, hmembers, hteams⟩ := setTeamOrg_eq_ok hset
  intro m hm team hteam hid
  rw [hmembers] at hm
  obtain ⟨hmem, hkept⟩ := mem_deleteTeamMembers.mp hm
  have hteam' : team ∈ db'.teams.toTable := hteam
  rw [hteams] at hteam'
  obtain ⟨old, hold, rfl⟩ := Table.mem_updateWhere.mp hteam'
  by_cases hmoved : old.id = teamID
  · rw [if_pos (decide_eq_true hmoved)] at hid ⊢
    have hm_team : m.teamID = teamID := hid.symm.trans hmoved
    have hstays : m.userID ∉ strangers db teamID targetOrgID := by
      simpa [hm_team] using hkept
    rw [mem_strangers hmem hm_team] at hstays
    obtain ⟨member, hmember⟩ := Option.ne_none_iff_exists'.mp hstays
    obtain ⟨hin, hkey⟩ := Table.find?_eq_some_iff.mp hmember
    exact ⟨member, horgs ▸ hin, Prod.mk.inj hkey⟩
  · have hold_id : old.id = m.teamID := by simpa [hmoved] using hid
    have hbelongs := (h m hmem old hold hold_id).of_eq horgs
    simpa [hmoved] using hbelongs

/-- Whoever leaves the organization leaves its teams. -/
theorem Db.Contained.deactivateUser
    (hok : deactivateUser db orgID userID = .ok db') : db'.Contained := by
  obtain ⟨_, rfl⟩ := deactivateUser_eq_ok_iff.mp hok
  intro m hm team hteam hid
  obtain ⟨hmem, hstays⟩ := mem_deleteFromTeams.mp hm
  obtain ⟨om, hom, huser, horg⟩ := h m hmem team hteam hid
  refine ⟨om, Table.mem_deleteWhere.mpr ⟨hom, decide_eq_false ?_⟩, huser, horg⟩
  intro hkey
  obtain ⟨huser', horg'⟩ := Prod.mk.inj hkey
  exact hstays ⟨huser.symm.trans huser', team, hteam, hid, horg.symm.trans horg'⟩

theorem Db.Contained.deleteUser (userID : UUID) : (db.deleteUser userID).Contained := by
  intro m hm team hteam hid
  obtain ⟨hmem, hother⟩ := Table.mem_deleteWhere.mp hm
  obtain ⟨om, hom, huser, horg⟩ := h m hmem team hteam hid
  refine ⟨om, Table.mem_deleteWhere.mpr ⟨hom, ?_⟩, huser, horg⟩
  rw [huser]
  exact hother

theorem Db.Contained.step (op : Operation) : (step env db op).Contained := by
  cases op with
  | changeRole teamID userID role =>
    refine getD_of_ok h fun _ hok => ?_
    obtain ⟨_, _, _, hupdate⟩ := changeRole_eq_ok hok
    obtain ⟨hsame, _, current, hcurrent, hmem⟩ := updateMemberRole_eq_ok hupdate
    refine h.of_keys hsame.teams hsame.orgMembers fun m hm => ?_
    rcases (hmem m).mp hm with rfl | ⟨hold, _⟩
    · exact ⟨current, (Table.find?_eq_some_iff.mp hcurrent).1, rfl⟩
    · exact ⟨m, hold, rfl⟩
  | removeMember teamID userID =>
    exact getD_of_ok h fun _ hok => h.dropMember (removeMember_eq_ok hok)
  | leaveTeam orgID teamID userID =>
    exact getD_of_ok h fun _ hok => h.dropMember (leaveTeam_eq_ok hok)
  | bulkRemoveMembers teamID userIDs =>
    exact getD_map_of_ok h fun _ hok => h.bulkRemoveMembers hok
  | transferTeam orgID teamID targetOrgID =>
    exact getD_map_of_ok h fun _ hok => h.transferTeam hok
  | deactivateUser orgID userID =>
    exact getD_of_ok h fun _ hok => h.deactivateUser hok
  | deleteUser userID => exact h.deleteUser userID

end

/-! ## Adding members -/

theorem contained_foldl_bulkAddMember
    (hmeets : Meets env orgEnv db (.bulkAddMembers teamID members))
    (s : BulkMemberResult × Db) (hs : s.2.Contained) (hsame : db.SameButTeamMembers s.2) :
    (members.foldl (bulkAddMember env teamID) s).2.Contained := by
  induction members generalizing s with
  | nil => exact hs
  | cons m members ih =>
    have hrest : Meets env orgEnv db (.bulkAddMembers teamID members) :=
      fun m' hm' => hmeets m' (List.mem_cons_of_mem m hm')
    rcases bulkAddMember_cases env teamID s m with heq | ⟨userID, huser, hadd⟩
    · exact ih hrest _ (heq ▸ hs) (heq ▸ hsame)
    refine ih hrest _ ?_ (hsame.trans (createMembership_eq_ok hadd).1)
    refine hs.createMembership hadd fun hrole team hteam hid => ?_
    rw [resolveUser, hsame.svc] at huser
    rw [hsame.teams] at hteam
    exact (hmeets m List.mem_cons_self hrole userID huser team hteam hid).of_eq hsame.orgMembers

theorem Db.Contained.bulkAddMembers (h : db.Contained)
    (hok : bulkAddMembers env db teamID members = .ok (result, db'))
    (hmeets : Meets env orgEnv db (.bulkAddMembers teamID members)) : db'.Contained := by
  obtain ⟨_, hok⟩ := guard_eq_ok.mp hok
  split at hok
  · cases hok
  obtain ⟨_, hok⟩ := guard_eq_ok.mp hok
  have hfold : (members.foldl (bulkAddMember env teamID) (⟨0, 0, [], []⟩, db)).2 = db' :=
    congrArg Prod.snd (Except.ok.inj hok)
  rw [← hfold]
  exact contained_foldl_bulkAddMember hmeets _ h (.refl db)

/-! ## Creating a team -/

theorem Db.Contained.createTeam {result : CreateTeamResult} (h : db.Contained)
    (hok : Teams.createTeam env db orgID input creatorID draws = .ok (result, db'))
    (hmeets : Meets env orgEnv db (.createTeam orgID input creatorID draws)) : db'.Contained := by
  obtain ⟨team, created, _, rfl, _, hcreate, hfinish⟩ := Teams.createTeam_eq_ok hok
  obtain ⟨hinsert, _, _, horgs, hmembers⟩ := Db.createTeam_eq_ok hcreate
  obtain ⟨hsame, hmem⟩ := finishTeam_eq_ok hfinish
  have hrows := UniqueTable.mem_insert hinsert
  intro m hm other hother hid
  rw [hsame.teams] at hother
  refine .of_eq ?_ (hsame.orgMembers.trans horgs)
  rcases hmem m hm with hold | ⟨hmteam, hnew⟩
  · -- the member's team was there before, so that it is not the new one
    rw [hmembers] at hold
    obtain ⟨before, hbefore, hid'⟩ := db.teamMember_team m hold
    obtain rfl : other = before :=
      Table.eq_of_key_eq hother ((hrows before).mpr (.inr hbefore)) (hid.trans hid'.symm)
    exact h m hold other hbefore hid
  obtain rfl : other = team :=
    Table.eq_of_key_eq hother ((hrows team).mpr (.inl rfl)) (hid.trans hmteam)
  rcases hnew with huser | ⟨asked, hasked, hrole, huser⟩
  · rw [huser]
    exact hmeets.1
  · exact hmeets.2 asked hasked hrole m.userID huser

/-! ## Inviting and accepting -/

variable {now : Nat}

theorem Db.Contained.acceptPending {invite : Invite} {result : AcceptInviteResult}
    (h : db.Contained) (hok : acceptPending now db invite userID = .ok (result, db'))
    (hteams : ∀ a ∈ db.inviteTeams invite, ∀ team ∈ db.teams, team.id = a.teamID →
      team.isArchived = false → team.orgID = invite.orgID ∨ db.Belongs userID team.orgID) :
    db'.Contained := by
  have haccepts := accepts_of_acceptPending hok
  have hgrown {userID' orgID' : UUID} (hbelongs : db.Belongs userID' orgID') :
      db'.Belongs userID' orgID' := by
    obtain ⟨m, hm, hkey⟩ := hbelongs
    exact ⟨m, (haccepts.org m).mpr (.inr hm), hkey⟩
  intro m hm team hmem hid
  rw [haccepts.teams] at hmem
  rcases (haccepts.members m).mp hm with hold | ⟨a, ha, hlive, huser, hjoined, _⟩
  · exact hgrown (h m hold team hmem hid)
  have hfound : db.getTeam a.teamID = some team :=
    Table.find?_eq_some_iff.mpr ⟨hmem, hid.trans hjoined⟩
  have harchived : team.isArchived = false := by
    simpa [Db.isLive, hfound] using hlive
  rw [huser]
  rcases hteams a ha team hmem (hid.trans hjoined) harchived with heq | hbelongs
  · rw [heq]
    exact ⟨_, (haccepts.org _).mpr (.inl rfl), rfl, rfl⟩
  · exact hgrown hbelongs

theorem Db.Contained.acceptInvite {token userEmail : String} {result : AcceptInviteResult}
    (h : db.Contained) (hok : acceptInvite orgEnv now db token userID userEmail = .ok (result, db'))
    (hmeets : Meets env orgEnv db (.acceptInvite now token userID userEmail)) : db'.Contained := by
  unfold Teams.acceptInvite at hok
  split at hok
  · cases hok
  rename_i invite hinvite
  split at hok
  · cases hok
    exact h
  rename_i hpending
  obtain ⟨_, hok⟩ := guard_eq_ok.mp hok
  obtain ⟨_, hok⟩ := guard_eq_ok.mp hok
  exact h.acceptPending hok (hmeets invite hinvite (by simpa using hpending))

/-! ## Logins -/

variable {login : SsoLogin}

/-- A membership of an organization stays, if with another role. -/
theorem SsoLogin.keeps_belongs (h : db.Belongs userID orgID) :
    (db.ssoLogin login).Belongs userID orgID := by
  obtain ⟨m, hm, rfl, rfl⟩ := h
  suffices hkept : ∃ m' ∈ (login.after db).dir.orgMembers,
      Sso.orgMemberKey m' = Sso.orgMemberKey m by
    obtain ⟨m', hm', hkey⟩ := hkept
    exact ⟨m', mem_ssoLogin_orgMembers.mpr hm', (Prod.mk.inj hkey).1, (Prod.mk.inj hkey).2⟩
  cases login.after_cases db with
  | inl hsame =>
    rw [hsame.1]
    exact ⟨m, hm, rfl⟩
  | inr hnew =>
    obtain ⟨_, _, q, hq, _, hdir⟩ := hnew
    rw [hdir]
    refine (SsoLogin.grants hq).orgMember_kept m ?_
    rw [hq]
    exact hm

/-- A new user whom the provider puts into teams becomes a member of the first organization. -/
theorem SsoLogin.belongs_of_granted {m : TeamMembership}
    (hm : m ∈ (login.after db).dir.teamMembers) (hnew : m ∉ db.teamMembers)
    (hgranted : teamID ∈ login.grantedTeams)
    (horg : db.orgs.rows.head?.map Organization.id = some orgID)
    (horgs : login.faults .defaultOrgs = none) (hinsert : login.faults .defaultOrg = none)
    (hrole : ∀ provider ∈ login.provider, Sso.defaultRole provider.defaultOrgRole ∈ orgRoles) :
    (db.ssoLogin login).Belongs login.draws.userID orgID := by
  cases login.after_cases db with
  | inl hsame =>
    rw [hsame.2] at hm
    exact absurd hm hnew
  | inr hcreated =>
    obtain ⟨hfresh, _, q, hq, hsome, hdir⟩ := hcreated
    obtain ⟨provider, hprovider, hauto⟩ :
        ∃ provider, login.provider = some provider ∧ provider.autoProvision = true := by
      unfold SsoLogin.grantedTeams at hgranted
      split at hgranted
      · cases hgranted
      rename_i provider hprovider
      split at hgranted
      · rename_i hauto
        exact ⟨provider, hprovider, hauto⟩
      · cases hgranted
    have hstranger : ∀ om ∈ q.dir.orgMembers, om.userID ≠ login.draws.userID := by
      intro om hom huser
      rw [hq] at hom
      have hexists := SsoLogin.isSome_getByID_iff.mpr (db.orgMember_user om hom)
      rw [huser, hfresh] at hexists
      cases hexists
    -- the provider was looked up, or else no membership would be new
    have hlookup : Sso.providerByName login.faults .providerDefaults q.dir
        login.result.provider = .ok provider := by
      cases hresult : Sso.providerByName login.faults .providerDefaults q.dir
          login.result.provider with
      | error err =>
        have hself : (login.after db).dir = q.dir := by
          rw [hdir]
          simp [Sso.provisionDefaults, hresult]
        rw [hself, hq] at hm
        exact absurd hm hnew
      | ok found =>
        have hfound := Sso.providerByName_eq_ok hresult
        rw [hq] at hfound
        rw [Option.some.inj (hfound.symm.trans hprovider)]
    have hhead : q.dir.orgs.head? = some orgID := by
      rw [hq]
      change (db.orgs.rows.map Organization.id).head? = some orgID
      rw [List.head?_map]
      exact horg
    obtain ⟨om, hom, hkey⟩ := Sso.provisionDefaults_orgMember hlookup hauto hhead horgs hinsert
      (hrole provider hprovider) hsome hstranger
    rw [← hdir] at hom
    exact ⟨om, mem_ssoLogin_orgMembers.mpr hom, (Prod.mk.inj hkey).1, (Prod.mk.inj hkey).2⟩

theorem Db.Contained.ssoLogin (h : db.Contained) (hmeets : Meets env orgEnv db (.ssoLogin login)) :
    (db.ssoLogin login).Contained := by
  intro m hm team hteam hid
  have hafter : m ∈ (login.after db).dir.teamMembers := hm
  by_cases hold : m ∈ db.teamMembers
  · exact SsoLogin.keeps_belongs (h m hold team hteam hid)
  obtain ⟨huser, _, _, hgranted⟩ := (SsoLogin.teamMember_new hafter).resolve_left hold
  rw [← hid] at hgranted
  obtain ⟨horg, horgs, hinsert, hrole⟩ := hmeets team hteam hgranted
  rw [huser]
  exact SsoLogin.belongs_of_granted hafter hold hgranted horg horgs hinsert hrole

/-! ## Runs -/

theorem Db.Contained.of_sameButInvites (h : db.Contained) (hsame : db.SameButInvites db') :
    db'.Contained := h.of_same hsame.teams hsame.orgMembers hsame.teamMembers

theorem Db.Contained.serve {req : Request} (h : db.Contained) (hmeets : Meets env orgEnv db req) :
    (serve env orgEnv db req).Contained := by
  cases req with
  | manage op => exact h.step op
  | createTeam orgID input creatorID draws =>
    exact getD_map_of_ok h fun _ hok => h.createTeam hok hmeets
  | addMember teamID input =>
    refine getD_of_ok h fun _ hok => ?_
    obtain ⟨userID, huser, hadd⟩ := addMember_eq_ok hok
    exact h.createMembership hadd fun hrole => hmeets hrole userID huser
  | bulkAddMembers teamID members =>
    exact getD_map_of_ok h fun _ hok => h.bulkAddMembers hok hmeets
  | inviteMember now orgID input inviterID id token =>
    exact h.of_sameButInvites (inviteMember_same input inviterID id token)
  | bulkInviteMembers now orgID input inviterID fresh =>
    exact getD_map_of_ok h fun _ hok => h.of_sameButInvites (bulkInviteMembers_same hok)
  | acceptInvite now token userID userEmail =>
    exact getD_map_of_ok h fun _ hok => h.acceptInvite hok hmeets
  | ssoLogin login => exact h.ssoLogin hmeets

/-- Who does not belong to an organization has no access to its teams. -/
theorem Db.Contained.refused {cache : PermissionCache} {fails : Lookup → Bool} {uc : UserContext}
    {key : String} (h : db.Contained) (hadmin : uc.isSystemAdmin = false)
    (hstranger : ¬ db.Belongs uc.userID orgID) :
    checkTeamPermission (db.checker cache fails) (some uc) orgID teamID key ≠ .ok () := by
  intro hok
  obtain ⟨⟨team, hteam, hid, rfl⟩, hgrant⟩ :=
    granted_of_requireTeamPermission hadmin (requireTeamPermission_of_check hok)
  rcases hgrant with ⟨m, hm, huser, horg, _⟩ | ⟨m, hm, huser, hmteam, _⟩
  · exact hstranger ⟨m, hm, huser, horg⟩
  rw [← huser] at hstranger
  exact hstranger (h m hm team hteam (hid.trans hmteam.symm))

/-- In every state of a run in which the users who are put into teams belong to the organization,
every member of a team belongs to the organization that owns it; and users who do not belong to an
organization are refused in its teams. -/
theorem contained_in_every_run (env : Env) (orgEnv : Org.Env) (db : Db) (hstart : db.Contained)
    (reqs : List Request) (hmeets : Guarded (serve env orgEnv) (Meets env orgEnv) db reqs)
    (done : List Request) (hdone : done <+: reqs) :
    (run (serve env orgEnv) db done).Contained ∧
      ∀ (cache : PermissionCache) (fails : Lookup → Bool) (uc : UserContext) (orgID teamID : UUID)
        (key : String), uc.isSystemAdmin = false →
        ¬ (run (serve env orgEnv) db done).Belongs uc.userID orgID →
        checkTeamPermission ((run (serve env orgEnv) db done).checker cache fails) (some uc)
          orgID teamID key ≠ .ok () := by
  obtain ⟨rest, rfl⟩ := hdone
  have hcontained : (run (serve env orgEnv) db done).Contained :=
    (Guarded.append_iff.mp hmeets).1.invariant hstart fun _ _ h hreq => h.serve hreq
  exact ⟨hcontained, fun _ _ _ _ _ _ hadmin hstranger => hcontained.refused hadmin hstranger⟩

/-! ## A user of another organization -/

/-- The owner of organization 1 joins team 5 before user 2 is removed. -/
def ownerJoins : List Request :=
  [.addMember 5 ⟨"user@example.com", "", "lead"⟩, .manage (.deactivateUser 1 2)]

/-- User 2 has no access to the team after the removal. -/
theorem removed_user_refused :
    (run (serve sampleEnv Org.sampleEnv) sampleDb ownerJoins).Contained ∧
      checkTeamPermission ((run (serve sampleEnv Org.sampleEnv) sampleDb ownerJoins).checker
        shippedRoles.cache fun _ => false) (some (plainUser 2)) 1 5 "team.view" ≠ .ok () := by
  have hmeets : Guarded (serve sampleEnv Org.sampleEnv) (Meets sampleEnv Org.sampleEnv)
      sampleDb ownerJoins := by
    refine ⟨?_, trivial, trivial⟩
    intro _ userID huser
    have howner : resolveUser sampleEnv sampleDb ⟨"user@example.com", "", "lead"⟩ = .ok 1 := by
      decide +kernel
    cases howner.symm.trans huser
    decide +kernel
  have hrun := contained_in_every_run sampleEnv Org.sampleEnv sampleDb (by decide) ownerJoins hmeets
    ownerJoins (List.prefix_refl _)
  exact ⟨hrun.1, hrun.2 _ _ (plainUser 2) 1 5 "team.view" rfl (by decide +kernel)⟩

/-- User 4, who belongs to no organization, is put into a team of organization 1 when members are
added, one or many, and when a team is created. The user has access to the team, and cannot be
removed from the organization. -/
theorem stranger_in_team :
    sampleDb.Contained ∧
      (∀ req ∈ [Request.addMember 5 ⟨"d@example.com", "", "member"⟩,
          .bulkAddMembers 5 [⟨"d@example.com", "", "member"⟩],
          .createTeam 1 ⟨"Green", [⟨"d@example.com", "", "member"⟩]⟩ 1 ⟨7, "x", true⟩],
        ¬ (serve sampleEnv Org.sampleEnv sampleDb req).Contained) ∧
      checkTeamPermission ((run (serve sampleEnv Org.sampleEnv) sampleDb
        [.addMember 5 ⟨"d@example.com", "", "member"⟩, .manage (.deactivateUser 1 4)]).checker
          shippedRoles.cache fun _ => false) (some (plainUser 4)) 1 5 "team.view" = .ok () := by
  refine ⟨by decide, ?_, by decide +kernel⟩
  intro req hreq
  simp only [List.mem_cons, List.not_mem_nil, or_false] at hreq
  rcases hreq with rfl | rfl | rfl <;> decide +kernel

end BurnerByte.Teams
