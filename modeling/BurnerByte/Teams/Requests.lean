import BurnerByte.Sso.Writes
import BurnerByte.Teams.Acceptance

/-!
# Requests that write memberships

Members come to a team and go in several ways: teams are created and transferred, members are
added, invitations are accepted, users log in with SSO, and users are removed. Each request is a
step of the database. The lemmas say which memberships those requests insert that add members.
-/

namespace BurnerByte.Teams

open Outcome Rbac Sql

/-! ## Logins with SSO -/

/-- The database as a login with SSO sees it. -/
def Db.platform (db : Db) (providers : List Sso.SSOProvider)
    (mappings : List Sso.SSODomainMapping) : Sso.Platform where
  svc := db.svc
  dir :=
    { providers
      mappings
      orgs := db.orgs.rows.map Organization.id
      teams := db.teams.rows.map fun team => ⟨team.id, team.isArchived⟩
      invites := db.invites.rows.map fun inv =>
        ⟨inv.email, inv.acceptedAt, inv.expiresAt, inv.allowedAuth⟩
      orgMembers := db.orgMembers
      teamMembers := db.teamMembers }

/-- A login with the providers and rules that are configured at the time. -/
structure SsoLogin where
  cfg : Account.Config
  providers : List Sso.SSOProvider
  mappings : List Sso.SSODomainMapping
  faults : Sso.Faults
  result : Sso.SSOCallbackResult
  draws : Sso.Draws

namespace SsoLogin

/-- The platform after the login. -/
def after (login : SsoLogin) (db : Db) : Sso.Platform :=
  (Sso.ssoLogin login.cfg login.faults (db.platform login.providers login.mappings) login.result
    login.draws).2

def provider (login : SsoLogin) : Option Sso.SSOProvider :=
  login.providers.find? fun provider => provider.name = login.result.provider

/-- The teams that a new user is put into. -/
def grantedTeams (login : SsoLogin) : List UUID :=
  match login.provider with
  | none => []
  | some provider =>
    if provider.autoProvision then provider.grantedTeams login.result.claims else []

variable {login : SsoLogin} {db : Db}

/-- The login writes no membership, or those that the provider gives to a new user. -/
theorem after_cases (login : SsoLogin) (db : Db) :
    (login.after db).dir.orgMembers = db.orgMembers ∧
      (login.after db).dir.teamMembers = db.teamMembers ∨
    db.svc.accounts.getByID login.draws.userID = none ∧
      ((login.after db).svc.accounts.getByID login.draws.userID).isSome ∧
      ∃ q : Sso.Platform, q.dir = (db.platform login.providers login.mappings).dir ∧
        (q.svc.accounts.getByID login.draws.userID).isSome ∧
        (login.after db).dir =
          (Sso.provisionDefaults login.faults login.draws.userID login.result q).dir := by
  unfold after
  refine (Sso.ssoLogin_dir login.cfg login.faults (db.platform login.providers login.mappings)
    login.result login.draws).imp_left fun hdir => ?_
  rw [hdir]
  exact ⟨rfl, rfl⟩

theorem grants {q : Sso.Platform}
    (hdir : q.dir = (db.platform login.providers login.mappings).dir) :
    Sso.Grants login.draws.userID login.grantedTeams q
      (Sso.provisionDefaults login.faults login.draws.userID login.result q) := by
  refine Sso.provisionDefaults_grants fun provider hprovider hauto => ?_
  have hfind : login.provider = some provider := by
    rw [hdir] at hprovider
    exact hprovider
  simp [grantedTeams, hfind, hauto]

theorem isSome_getByID_iff {accounts : Account.Accounts} {id : UUID} :
    (accounts.getByID id).isSome ↔ ∃ account ∈ accounts.table, account.id = id := by
  rw [Option.isSome_iff_exists]
  constructor
  · rintro ⟨user, huser⟩
    exact ⟨_, Account.Accounts.getByID_eq_some.mp huser, rfl⟩
  · rintro ⟨account, haccount, rfl⟩
    exact ⟨account.user, Account.Accounts.getByID_eq_some.mpr haccount⟩

theorem keeps_user {id : UUID} (h : ∃ account ∈ db.svc.accounts.table, account.id = id) :
    ∃ account ∈ (login.after db).svc.accounts.table, account.id = id := by
  unfold after
  exact isSome_getByID_iff.mp (Sso.ssoLogin_keeps_user (isSome_getByID_iff.mpr h))

theorem orgMember_new {m : OrgMembership} (h : m ∈ (login.after db).dir.orgMembers) :
    (∃ old ∈ db.orgMembers, Sso.orgMemberKey old = Sso.orgMemberKey m) ∨
      m.userID = login.draws.userID ∧
        ((login.after db).svc.accounts.getByID login.draws.userID).isSome ∧
        ∃ org ∈ db.orgs, org.id = m.orgID := by
  cases login.after_cases db with
  | inl hsame =>
    rw [hsame.1] at h
    exact .inl ⟨m, h, rfl⟩
  | inr hnew =>
    obtain ⟨_, hsome, q, hq, _, hdir⟩ := hnew
    rw [hdir] at h
    rcases (grants hq).orgMember_new m h with hold | ⟨huser, _, horg⟩
    · rw [hq] at hold
      exact .inl hold
    · rw [hq] at horg
      exact .inr ⟨huser, hsome, List.mem_map.mp horg⟩

theorem teamMember_new {m : TeamMembership} (h : m ∈ (login.after db).dir.teamMembers) :
    m ∈ db.teamMembers ∨
      m.userID = login.draws.userID ∧
        ((login.after db).svc.accounts.getByID login.draws.userID).isSome ∧
        (∃ team ∈ db.teams.toTable, team.id = m.teamID) ∧ m.teamID ∈ login.grantedTeams := by
  cases login.after_cases db with
  | inl hsame =>
    rw [hsame.2] at h
    exact .inl h
  | inr hnew =>
    obtain ⟨_, hsome, q, hq, _, hdir⟩ := hnew
    rw [hdir] at h
    rcases (grants hq).teamMember_new m h with hold | ⟨huser, _, hteam, hgranted⟩
    · rw [hq] at hold
      exact .inl hold
    rw [hq] at hteam
    obtain ⟨found, hfound⟩ := Option.isSome_iff_exists.mp hteam
    obtain ⟨team, hmem, rfl⟩ := List.mem_map.mp (List.mem_of_find?_eq_some hfound)
    exact .inr ⟨huser, hsome, ⟨team, hmem, by simpa using List.find?_some hfound⟩, hgranted⟩

theorem orgMember_references (login : SsoLogin) (db : Db) :
    References (login.after db).dir.orgMembers.rows OrgMembership.userID
        (login.after db).svc.accounts.table ∧
      References (login.after db).dir.orgMembers.rows OrgMembership.orgID db.orgs := by
  refine forall₂_and.mp fun m hm => ?_
  have hmem : m ∈ (login.after db).dir.orgMembers := hm
  rcases orgMember_new hmem with ⟨old, hold, hkey⟩ | ⟨huser, hsome, horg⟩
  · obtain ⟨huser, horg⟩ := Prod.mk.inj hkey
    rw [← huser, ← horg]
    exact ⟨keeps_user (db.orgMember_user old hold), db.orgMember_org old hold⟩
  · rw [huser]
    exact ⟨isSome_getByID_iff.mp hsome, horg⟩

theorem teamMember_references (login : SsoLogin) (db : Db) :
    References (login.after db).dir.teamMembers.rows TeamMembership.userID
        (login.after db).svc.accounts.table ∧
      References (login.after db).dir.teamMembers.rows TeamMembership.teamID db.teams.toTable := by
  refine forall₂_and.mp fun m hm => ?_
  have hmem : m ∈ (login.after db).dir.teamMembers := hm
  rcases teamMember_new hmem with hold | ⟨huser, hsome, hteam, _⟩
  · exact ⟨keeps_user (db.teamMember_user m hold), db.teamMember_team m hold⟩
  rw [huser]
  exact ⟨isSome_getByID_iff.mp hsome, hteam⟩

end SsoLogin

/-- The database after a login. -/
def Db.ssoLogin (db : Db) (login : SsoLogin) : Db :=
  { db with
    svc := (login.after db).svc
    orgMembers := (login.after db).dir.orgMembers
    teamMembers := (login.after db).dir.teamMembers
    orgMember_user := (login.orgMember_references db).1
    orgMember_org := (login.orgMember_references db).2
    teamMember_user := (login.teamMember_references db).1
    teamMember_team := (login.teamMember_references db).2 }

variable {db : Db} {login : SsoLogin}

theorem mem_ssoLogin_orgMembers {m : OrgMembership} :
    m ∈ (db.ssoLogin login).orgMembers ↔ m ∈ (login.after db).dir.orgMembers := by
  simp only [Db.ssoLogin]

/-! ## Requests -/

/-- The requests that write memberships of teams or of organizations, and those that invite. -/
inductive Request where
  | manage (op : Operation)
  | createTeam (orgID : UUID) (input : CreateTeamInput) (creatorID : UUID) (draws : TeamDraws)
  | addMember (teamID : UUID) (input : AddTeamMemberInput)
  | bulkAddMembers (teamID : UUID) (members : List AddTeamMemberInput)
  | inviteMember (now : Nat) (orgID : UUID) (input : InviteMemberInput) (inviterID id : UUID)
      (token : String)
  | bulkInviteMembers (now : Nat) (orgID : UUID) (input : BulkInviteMemberInput)
      (inviterID : UUID) (fresh : String → UUID × String)
  | acceptInvite (now : Nat) (token : String) (userID : UUID) (userEmail : String)
  | ssoLogin (login : SsoLogin)

/-- The database after a request. -/
def serve (env : Env) (orgEnv : Org.Env) (db : Db) : Request → Db
  | .manage op => step env db op
  | .createTeam orgID input creatorID draws =>
    ((createTeam env db orgID input creatorID draws).map Prod.snd).toOption.getD db
  | .addMember teamID input => (addMember env db teamID input).toOption.getD db
  | .bulkAddMembers teamID members =>
    ((bulkAddMembers env db teamID members).map Prod.snd).toOption.getD db
  | .inviteMember now orgID input inviterID id token =>
    (inviteMember orgEnv now db orgID input inviterID id token).2
  | .bulkInviteMembers now orgID input inviterID fresh =>
    ((bulkInviteMembers orgEnv now db orgID input inviterID fresh).map Prod.snd).toOption.getD db
  | .acceptInvite now token userID userEmail =>
    ((acceptInvite orgEnv now db token userID userEmail).map Prod.snd).toOption.getD db
  | .ssoLogin login => db.ssoLogin login

/-! ## Adding members -/

variable {env : Env} {db' : Db} {teamID : UUID}

theorem addMember_eq_ok {input : AddTeamMemberInput} (h : addMember env db teamID input = .ok db') :
    ∃ userID, resolveUser env db input = .ok userID ∧
      db.createMembership userID teamID input.role = .ok db' := by
  unfold addMember at h
  split at h
  · cases h
  obtain ⟨_, h⟩ := guard_eq_ok.mp h
  obtain ⟨_, h⟩ := guard_eq_ok.mp h
  split at h
  · cases h
  rename_i userID huser
  split at h
  · rename_i added hadded
    cases h
    exact ⟨userID, huser, hadded⟩
  · cases h
  · cases h

/-- One member of a bulk request is inserted, or nothing happens. -/
theorem bulkAddMember_cases (env : Env) (teamID : UUID) (s : BulkMemberResult × Db)
    (m : AddTeamMemberInput) :
    (bulkAddMember env teamID s m).2 = s.2 ∨ ∃ userID, resolveUser env s.2 m = .ok userID ∧
      s.2.createMembership userID teamID m.role = .ok (bulkAddMember env teamID s m).2 := by
  unfold bulkAddMember
  split
  · exact .inl rfl
  split
  · exact .inl rfl
  rename_i userID huser
  split
  · rename_i added hadded
    exact .inr ⟨userID, huser, hadded⟩
  · exact .inl rfl
  · exact .inl rfl

/-- One of the first members is inserted, or nothing happens, if the transaction is live
afterwards. -/
theorem addInitialMember_eq_live {outer : Db} {creatorID : UUID} {s : Tx Db × List MemberNote}
    {m : AddTeamMemberInput} (h : (addInitialMember env outer teamID creatorID s m).1 = .live db') :
    ∃ db, s.1 = .live db ∧ (db' = db ∨ ∃ userID, resolveUser env outer m = .ok userID ∧
      db.createMembership userID teamID m.role = .ok db') := by
  unfold addInitialMember at h
  split at h
  · exact ⟨db', h, .inl rfl⟩
  split at h
  · exact ⟨db', h, .inl rfl⟩
  rename_i userID huser
  split at h
  · exact ⟨db', h, .inl rfl⟩
  have hexec : (s.1.exec abortedError fun db =>
      db.createMembership userID teamID m.role).2 = .live db' := by
    split at h <;> rename_i heq <;> rw [heq] <;> exact h
  obtain ⟨db, hlive, hadd⟩ := Tx.exec_eq_live.mp hexec
  exact ⟨db, hlive, .inr ⟨userID, huser, hadd⟩⟩

/-- Every new membership is one of the members that are asked for. -/
theorem foldl_addInitialMember_eq_live {outer : Db} {creatorID : UUID}
    {members : List AddTeamMemberInput} {s : Tx Db × List MemberNote}
    (h : (members.foldl (addInitialMember env outer teamID creatorID) s).1 = .live db') :
    ∃ db, s.1 = .live db ∧ db.SameButTeamMembers db' ∧ ∀ m ∈ db'.teamMembers,
      m ∈ db.teamMembers ∨ m.teamID = teamID ∧ ∃ asked ∈ members, asked.role ∈ teamRoles ∧
        resolveUser env outer asked = .ok m.userID := by
  induction members generalizing s with
  | nil => exact ⟨db', h, .refl db', fun _ hm => .inl hm⟩
  | cons first members ih =>
    obtain ⟨next, hnext, hsame, hmem⟩ := ih h
    simp only [List.exists_mem_cons_iff]
    obtain ⟨db, hlive, rfl | ⟨userID, huser, hadd⟩⟩ := addInitialMember_eq_live hnext
    · exact ⟨next, hlive, hsame, fun m hm => (hmem m hm).imp_right (And.imp_right .inr)⟩
    obtain ⟨hadded, hrole, hrows⟩ := createMembership_eq_ok hadd
    refine ⟨db, hlive, hadded.trans hsame, fun m hm => ?_⟩
    rcases hmem m hm with hnew | ⟨hteam, hasked⟩
    · rcases (hrows m).mp hnew with rfl | hold
      · exact .inr ⟨rfl, .inl ⟨hrole, huser⟩⟩
      · exact .inl hold
    · exact .inr ⟨hteam, .inr hasked⟩

section

variable {db created : Db} {team : Team} {orgID creatorID : UUID} {input : CreateTeamInput}
  {draws : TeamDraws} {result : CreateTeamResult}

theorem Db.createTeam_eq_ok (h : db.createTeam team = .ok db') :
    db.teams.insert team = some db'.teams ∧ (∃ org ∈ db.orgs, org.id = team.orgID) ∧
      db'.orgs = db.orgs ∧ db'.orgMembers = db.orgMembers ∧ db'.teamMembers = db.teamMembers := by
  obtain ⟨_, h⟩ := guard_eq_ok.mp h
  split at h
  · cases h
  rename_i teams hinsert
  split at h
  · rename_i horg
    cases h
    exact ⟨hinsert, horg, rfl, rfl, rfl⟩
  · cases h

theorem finishTeam_eq_ok
    (h : finishTeam env db created team creatorID input draws = .ok (result, db')) :
    created.SameButTeamMembers db' ∧ ∀ m ∈ db'.teamMembers,
      m ∈ created.teamMembers ∨ m.teamID = team.id ∧ (m.userID = creatorID ∨
        ∃ asked ∈ input.members, asked.role ∈ teamRoles ∧
          resolveUser env db asked = .ok m.userID) := by
  unfold finishTeam at h
  split at h
  · cases h
  rename_i led hled
  dsimp only at h
  split at h
  · rename_i last _ hcommit
    cases h
    obtain ⟨start, hstart, hsame, hmem⟩ :=
      foldl_addInitialMember_eq_live (Tx.commit_eq_some.mp hcommit)
    obtain rfl := Tx.live.inj hstart
    obtain ⟨hlead, _, hrows⟩ := createMembership_eq_ok hled
    refine ⟨hlead.trans hsame, fun m hm => ?_⟩
    rcases hmem m hm with hnew | ⟨hteam, hasked⟩
    · rcases (hrows m).mp hnew with rfl | hold
      · exact .inr ⟨rfl, .inl rfl⟩
      · exact .inl hold
    · exact .inr ⟨hteam, .inr hasked⟩
  · cases h

/-- A team is created under its slug, or under the slug with a suffix. -/
theorem createTeam_eq_ok (h : createTeam env db orgID input creatorID draws = .ok (result, db')) :
    ∃ team created, team.id = draws.id ∧ team.orgID = orgID ∧ team.isArchived = false ∧
      db.createTeam team = .ok created ∧
      finishTeam env db created team creatorID input draws = .ok (result, db') := by
  obtain ⟨_, h⟩ := guard_eq_ok.mp h
  obtain ⟨_, h⟩ := guard_eq_ok.mp h
  split at h
  · cases h
  dsimp only at h
  obtain ⟨_, h⟩ := guard_eq_ok.mp h
  obtain ⟨_, h⟩ := guard_eq_ok.mp h
  split at h
  · rename_i created hcreate
    exact ⟨_, created, rfl, rfl, rfl, hcreate, h⟩
  · split at h
    · rename_i created hcreate
      exact ⟨_, created, rfl, rfl, rfl, hcreate, h⟩
    · cases h
  · cases h

end

end BurnerByte.Teams
