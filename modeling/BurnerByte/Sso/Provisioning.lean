import BurnerByte.Handler.Checks
import BurnerByte.Sso.Directory

/-!
# Provisioning new users

A new user gets memberships in one of two ways: by the rules that map the domain of the
e-mail address to teams, or by the defaults and claim mappings of the provider. Every
statement may fail. Most failures are logged and otherwise ignored.

The rules are applied inside a transaction, or so the code means: the user is inserted in
the transaction, but identity and memberships are inserted over other connections, which
do not see the user before the commit. Their foreign keys fail, the errors are swallowed,
and the transaction commits a user without any membership.
-/

namespace BurnerByte.Sso

open Go Sql Account

/-! ## Statements that fail -/

/-- The statements of an SSO login, in the order of the code. -/
inductive Call where
  | providerDomains
  | identity
  | userByID
  | verifyUser
  | relabelUser
  | userByEmail
  | providerRules
  | rules
  | begin
  | createMapped
  | mappedIdentity
  | mappedOrgs
  | mappedOrg
  | mappedTeam (id : UUID)
  | mappedTeamMember (id : UUID)
  | commit
  | invite
  | createUser
  | linkUser
  | createIdentity
  | providerDefaults
  | defaultOrgs
  | defaultOrg
  | defaultTeam
  | claimOrgs (mapping : Nat)
  | claimOrg (mapping : Nat)
  | claimTeam (mapping : Nat)
  | countSessions
  | listSessions
  | revokeOldest
  | signToken
  | drawToken
  | countAgain
  | revokeAgain
  | insertSession
  | lastLogin

/-- The error with which a statement fails, if it does. -/
abbrev Faults := Call → Option String

def noFaults : Faults := fun _ => none

namespace Faults

/-- A statement whose answer the code looks at. -/
def run {α : Type} (faults : Faults) (call : Call) (result : Except String α) : Except String α :=
  match faults call with
  | some err => .error err
  | none => result

/-- A statement whose failure is ignored. -/
def attempt {σ : Type} (faults : Faults) (call : Call) (s : σ) (next : Option σ) : σ :=
  if (faults call).isSome then s else next.getD s

theorem attempt_none {σ : Type} (faults : Faults) (call : Call) (s : σ) :
    faults.attempt call s none = s := by
  unfold attempt
  split <;> rfl

theorem run_eq_ok {α : Type} {faults : Faults} {call : Call} {result : Except String α} {a : α} :
    faults.run call result = .ok a ↔ faults call = none ∧ result = .ok a := by
  unfold run
  cases faults call with
  | _ => simp

end Faults

/-- What a login draws: the identifier and the time for a new user, and what it needs for the
session. -/
structure Draws where
  userID : UUID
  changedAt : Nat
  pendingStored : Bool
  now : Nat
  issue : Issue

def SSOCallbackResult.newUser (result : SSOCallbackResult) (email : String) (changedAt : Nat) :
    User :=
  newSSOUser email result.displayName result.provider changedAt

/-- Insert a user whose values fit the columns. -/
def createUser (svc : Service) (id : UUID) (user : User) : Except RepoError Service :=
  match columns user with
  | none => .error (.other "create user: value too long for type")
  | some row => svc.insertUser id row

def defaultRole (role : String) : String := if role = "" then "member" else role

/-! ## The rules of a domain -/

section

variable (cfg : Config) (faults : Faults)

/-- The membership of one rule. Archived teams are skipped. -/
def provisionTeam (userID : UUID) (p : Platform) (m : SSODomainMapping) : Platform :=
  if (faults (.mappedTeam m.teamID)).isSome then p
  else
    match p.dir.getTeam m.teamID with
    | none => p
    | some team =>
      if team.isArchived then p
      else
        faults.attempt (.mappedTeamMember m.teamID) p
          (p.createTeamMembership userID m.teamID (defaultRole m.teamRole))

/-- The statements between the insertion of the user and the commit, none of which runs in the
transaction. -/
def provisionFromMappings (userID : UUID) (email : String) (result : SSOCallbackResult)
    (rule : SSODomainMapping) (rules : List SSODomainMapping) (p : Platform) : Platform :=
  let p := faults.attempt .mappedIdentity p
    ((createIdentity p.svc userID email result).toOption.map fun svc => { p with svc })
  let p :=
    match faults .mappedOrgs, p.dir.orgs with
    | none, orgID :: _ =>
      faults.attempt .mappedOrg p (p.createOrgMembership userID orgID (defaultRole rule.orgRole))
    | _, _ => p
  (rule :: rules).foldl (provisionTeam faults userID) p

/-- The rules that match, of which there is at least one. -/
def createAndProvisionFromMappings (p : Platform) (result : SSOCallbackResult) (draws : Draws)
    (rule : SSODomainMapping) (rules : List SSODomainMapping) : Except String User × Platform :=
  let email := lowerText cfg.casing result.email
  let user := result.newUser email draws.changedAt
  match faults .begin with
  | some err => (.error ("begin tx: " ++ err), p)
  | none =>
    match faults.run .createMapped
        ((createUser p.svc draws.userID user).mapError RepoError.message) with
    | .error err => (.error ("create domain-mapped SSO user: " ++ err), p)
    | .ok tx =>
      let p := provisionFromMappings faults draws.userID email result rule rules p
      match faults .commit with
      | some err => (.error ("commit domain mapping provisioning: " ++ err), p)
      | none => (.ok user, { p with svc := { p.svc with accounts := tx.accounts } })

end

/-! ## The defaults of a provider -/

section

variable (faults : Faults) (userID : UUID)

def autoProvisionSSOFromProvider (provider : SSOProvider) (p : Platform) : Platform :=
  match faults .defaultOrgs, p.dir.orgs with
  | none, orgID :: _ =>
    let p := faults.attempt .defaultOrg p
      (p.createOrgMembership userID orgID (defaultRole provider.defaultOrgRole))
    match provider.defaultTeamID with
    | none => p
    | some teamID =>
      faults.attempt .defaultTeam p
        (p.createTeamMembership userID teamID (defaultRole provider.defaultTeamRole))
  | _, _ => p

/-- A claim that is the value, or a list with the value in it. -/
def Claim.hasValue (value : String) : Claim → Bool
  | .string s => s = value
  | .array items =>
    items.any fun
      | .string s => s = value
      | _ => false
  | _ => false

/-- The role in the organization that a claim is mapped to. -/
def applyClaimOrg (p : Platform) (mapping : ClaimMapping × Nat) : Platform :=
  match mapping.1.orgRole, faults (.claimOrgs mapping.2), p.dir.orgs with
  | "", _, _ => p
  | role, none, orgID :: _ =>
    faults.attempt (.claimOrg mapping.2) p (p.updateMemberRole userID orgID role)
  | _, _, _ => p

/-- The team that a claim is mapped to. -/
def applyClaimTeam (p : Platform) (mapping : ClaimMapping × Nat) : Platform :=
  match mapping.1.teamID, mapping.1.teamRole with
  | _, "" => p
  | .id teamID, role =>
    faults.attempt (.claimTeam mapping.2) p (p.createTeamMembership userID teamID role)
  | _, _ => p

def applyClaimMapping (claims : Claims) (p : Platform) (mapping : ClaimMapping × Nat) : Platform :=
  match claims.lookup mapping.1.claimName with
  | none => p
  | some claim =>
    if !claim.hasValue mapping.1.claimValue then p
    else applyClaimTeam faults userID (applyClaimOrg faults userID p mapping) mapping

def applyClaimMappings (claims : Claims) (mappings : List ClaimMapping) (p : Platform) : Platform :=
  mappings.zipIdx.foldl (applyClaimMapping faults userID claims) p

end

/-- The row of a provider, by a lookup that may fail. -/
def providerByName (faults : Faults) (call : Call) (dir : Directory) (name : String) :
    Except String SSOProvider :=
  faults.run call
    (match dir.getByName name with
      | none => .error RepoError.notFound.message
      | some provider => .ok provider)

theorem providerByName_eq_ok {faults : Faults} {call : Call} {dir : Directory} {name : String}
    {provider : SSOProvider} (h : providerByName faults call dir name = .ok provider) :
    dir.getByName name = some provider := by
  have hrow := (Faults.run_eq_ok.mp h).2
  split at hrow
  · cases hrow
  rename_i row hname
  rw [hname, Except.ok.inj hrow]

/-- What a new user gets from the provider. -/
def provisionDefaults (faults : Faults) (userID : UUID) (result : SSOCallbackResult)
    (p : Platform) : Platform :=
  match providerByName faults .providerDefaults p.dir result.provider with
  | .error _ => p
  | .ok provider =>
    if provider.autoProvision then
      applyClaimMappings faults userID result.claims provider.claimMappings
        (autoProvisionSSOFromProvider faults userID provider p)
    else p

/-! ## The preview of a domain -/

structure PreviewTeam where
  teamID : UUID
  teamRole : String

structure Preview where
  matchingRules : List SSODomainMapping
  wouldBypassInvite : Bool
  orgRole : String
  teamAssignments : List PreviewTeam

def previewResult (matchingRules : List SSODomainMapping) : Preview where
  matchingRules := matchingRules
  wouldBypassInvite := !matchingRules.isEmpty
  orgRole :=
    match matchingRules with
    | [] => ""
    | rule :: _ => rule.orgRole
  teamAssignments := matchingRules.map fun rule => ⟨rule.teamID, rule.teamRole⟩

/-! ## What a transaction hides -/

section

variable {faults : Faults} {p : Platform} {userID : UUID}

variable {svc tx : Service} {id : UUID} {user : User}

theorem createIdentity_eq_error (h : svc.accounts.getByID userID = none) (email : String)
    (result : SSOCallbackResult) : (createIdentity svc userID email result).toOption = none := by
  unfold createIdentity
  split
  · split
    · rfl
    split
    · rfl
    · simp [h, Except.toOption]
  · rfl

theorem provisionTeam_eq_self (h : p.svc.accounts.getByID userID = none) (m : SSODomainMapping) :
    provisionTeam faults userID p m = p := by
  unfold provisionTeam
  split
  · rfl
  split
  · rfl
  split
  · rfl
  · -- the foreign key of a membership refuses a user who is not there
    simp [Platform.createTeamMembership, h, Faults.attempt_none]

/-- While the user is only in the transaction, nothing is provisioned. -/
theorem provisionFromMappings_eq_self (h : p.svc.accounts.getByID userID = none) (email : String)
    (result : SSOCallbackResult) (rule : SSODomainMapping) (rules : List SSODomainMapping) :
    provisionFromMappings faults userID email result rule rules p = p := by
  have hteams : ∀ rules : List SSODomainMapping,
      rules.foldl (provisionTeam faults userID) p = p := by
    intro rules
    induction rules with
    | nil => rfl
    | cons m rules ih => rw [List.foldl_cons, provisionTeam_eq_self h, ih]
  simp only [provisionFromMappings, createIdentity_eq_error h, Option.map_none, Faults.attempt_none]
  split
  · simpa [Platform.createOrgMembership, h, Faults.attempt_none] using hteams (rule :: rules)
  · exact hteams _

variable {cfg : Config} {result : SSOCallbackResult} {draws : Draws} {rule : SSODomainMapping}
  {rules : List SSODomainMapping}

/-- The transaction cannot begin, insert the user, or commit. -/
def Prevented (cfg : Config) (faults : Faults) (p : Platform) (result : SSOCallbackResult)
    (draws : Draws) : Prop :=
  faults .begin ≠ none ∨ faults .createMapped ≠ none ∨ faults .commit ≠ none ∨
    ∃ err, createUser p.svc draws.userID
      (result.newUser (lowerText cfg.casing result.email) draws.changedAt) = .error err

theorem createUser_eq_ok (h : createUser svc id user = .ok tx) :
    ∃ row accounts, columns user = some row ∧ svc.accounts.create id row = .ok accounts ∧
      tx = { svc with accounts } := by
  unfold createUser at h
  split at h
  · cases h
  rename_i row hrow
  obtain ⟨accounts, hcreate, rfl⟩ := insertUser_eq_ok h
  exact ⟨row, accounts, hrow, hcreate, rfl⟩

theorem createUser_fresh (h : createUser svc id user = .ok tx) :
    svc.accounts.getByID id = none := by
  obtain ⟨row, accounts, _, hcreate, _⟩ := createUser_eq_ok h
  exact Accounts.fresh_of_create hcreate

/-- A transaction that is prevented leaves the database as it was, and one that is not inserts
the user alone. -/
theorem createAndProvisionFromMappings_cases (cfg : Config) (faults : Faults) (p : Platform)
    (result : SSOCallbackResult) (draws : Draws) (rule : SSODomainMapping)
    (rules : List SSODomainMapping) :
    (Prevented cfg faults p result draws ∧
      ∃ err, createAndProvisionFromMappings cfg faults p result draws rule rules =
        (.error err, p)) ∨
    ¬ Prevented cfg faults p result draws ∧
      ∃ tx, createUser p.svc draws.userID
          (result.newUser (lowerText cfg.casing result.email) draws.changedAt) = .ok tx ∧
        createAndProvisionFromMappings cfg faults p result draws rule rules =
          (.ok (result.newUser (lowerText cfg.casing result.email) draws.changedAt),
            { p with svc := tx }) := by
  simp only [createAndProvisionFromMappings, Prevented]
  cases hbegin : faults .begin with
  | some err => exact .inl ⟨.inl (Option.some_ne_none err), _, rfl⟩
  | none =>
    cases hcall : faults .createMapped with
    | some err =>
      simp only [Faults.run, hcall]
      exact .inl ⟨.inr (.inl (Option.some_ne_none err)), _, rfl⟩
    | none =>
      simp only [Faults.run, hcall]
      cases hcreate : createUser p.svc draws.userID
          (result.newUser (lowerText cfg.casing result.email) draws.changedAt) with
      | error err => exact .inl ⟨.inr (.inr (.inr ⟨err, rfl⟩)), _, rfl⟩
      | ok tx =>
        simp only [Except.mapError, provisionFromMappings_eq_self (createUser_fresh hcreate)]
        cases hcommit : faults .commit with
        | some err => exact .inl ⟨.inr (.inr (.inl (Option.some_ne_none err))), _, rfl⟩
        | none =>
          obtain ⟨row, accounts, _, _, rfl⟩ := createUser_eq_ok hcreate
          refine .inr ⟨?_, _, rfl, rfl⟩
          simp

/-! ## What is provisioned -/

/-- A team that exists and is not archived. -/
def Directory.Live (dir : Directory) (teamID : UUID) : Prop :=
  ∃ team, dir.getTeam teamID = some team ∧ team.isArchived = false

/-- The user exists, and has exactly the memberships of the preview: one in the first
organization, and one in every team that is not archived. -/
structure Complete (p : Platform) (userID : UUID) (preview : Preview) : Prop where
  user : (p.svc.accounts.getByID userID).isSome
  orgs : ∀ orgID role,
    (∃ m ∈ p.dir.orgMembers, m.userID = userID ∧ m.orgID = orgID ∧ m.role = role) ↔
      p.dir.orgs.head? = some orgID ∧ role = defaultRole preview.orgRole
  teams : ∀ teamID role,
    (∃ m ∈ p.dir.teamMembers, m.userID = userID ∧ m.teamID = teamID ∧ m.role = role) ↔
      ∃ team ∈ preview.teamAssignments, team.teamID = teamID ∧ role = defaultRole team.teamRole ∧
        p.dir.Live teamID

/-- Neither the user nor a membership of theirs exists. -/
structure Absent (p : Platform) (userID : UUID) : Prop where
  user : p.svc.accounts.getByID userID = none
  orgs : ∀ m ∈ p.dir.orgMembers, m.userID ≠ userID
  teams : ∀ m ∈ p.dir.teamMembers, m.userID ≠ userID

/-- A success has provisioned everything, and an error nothing. -/
structure AllOrNothing (userID : UUID) (preview : Preview) (r : Except String User × Platform) :
    Prop where
  success : ∀ user, r.1 = .ok user → Complete r.2 userID preview
  failure : ∀ err, r.1 = .error err → Absent r.2 userID

/-- Every membership belongs to a user who exists. -/
structure Directory.Refers (dir : Directory) (accounts : Accounts) : Prop where
  orgs : ∀ m ∈ dir.orgMembers, accounts.getByID m.userID ≠ none
  teams : ∀ m ∈ dir.teamMembers, accounts.getByID m.userID ≠ none

theorem Directory.Refers.absent (hrefs : p.dir.Refers p.svc.accounts)
    (hfresh : p.svc.accounts.getByID userID = none) : Absent p userID where
  user := hfresh
  orgs m hm heq := hrefs.orgs m hm (heq ▸ hfresh)
  teams m hm heq := hrefs.teams m hm (heq ▸ hfresh)

/-- There is neither an organization nor a team to be a member of. -/
def NothingToProvision (dir : Directory) (rules : List SSODomainMapping) : Prop :=
  dir.orgs = [] ∧ ∀ m ∈ rules, ¬ dir.Live m.teamID

/-- A user without memberships has those of the preview when there is nothing to provision. -/
theorem complete_iff {q : Platform} (huser : (q.svc.accounts.getByID userID).isSome)
    (hdir : q.dir = p.dir) (habsent : Absent p userID) :
    Complete q userID (previewResult rules) ↔ NothingToProvision p.dir rules := by
  constructor
  · intro h
    constructor
    · cases horgs : p.dir.orgs with
      | nil => rfl
      | cons orgID others =>
        obtain ⟨m, hm, hmine, _⟩ := (h.orgs orgID _).mpr ⟨by rw [hdir, horgs]; rfl, rfl⟩
        exact absurd hmine (habsent.orgs m (hdir ▸ hm))
    · intro rule hrule hlive
      have hteam : (⟨rule.teamID, rule.teamRole⟩ : PreviewTeam) ∈
          (previewResult rules).teamAssignments := List.mem_map.mpr ⟨rule, hrule, rfl⟩
      obtain ⟨m, hm, hmine, _⟩ := (h.teams rule.teamID _).mpr ⟨_, hteam, rfl, rfl, hdir ▸ hlive⟩
      exact absurd hmine (habsent.teams m (hdir ▸ hm))
  · rintro ⟨horgs, hteams⟩
    refine ⟨huser, fun orgID role => ?_, fun teamID role => ?_⟩
    · rw [hdir, horgs]
      constructor
      · rintro ⟨m, hm, hmine, _⟩
        exact absurd hmine (habsent.orgs m hm)
      · rintro ⟨hhead, _⟩
        cases hhead
    · rw [hdir]
      constructor
      · rintro ⟨m, hm, hmine, _⟩
        exact absurd hmine (habsent.teams m hm)
      · rintro ⟨team, hteam, rfl, _, hlive⟩
        obtain ⟨rule, hrule, rfl⟩ := List.mem_map.mp hteam
        exact absurd hlive (hteams rule hrule)

/-- Provisioning a new user by rules is all or nothing if and only if the transaction is
prevented or there is nothing to provision. -/
theorem provisioning_all_or_nothing_iff (cfg : Config) (faults : Faults)
    (result : SSOCallbackResult) (rule : SSODomainMapping) (rules : List SSODomainMapping)
    (hrefs : p.dir.Refers p.svc.accounts) (hfresh : p.svc.accounts.getByID draws.userID = none) :
    AllOrNothing draws.userID (previewResult (rule :: rules))
        (createAndProvisionFromMappings cfg faults p result draws rule rules) ↔
      Prevented cfg faults p result draws ∨ NothingToProvision p.dir (rule :: rules) := by
  have habsent := hrefs.absent hfresh
  cases createAndProvisionFromMappings_cases cfg faults p result draws rule rules with
  | inl h =>
    obtain ⟨hprevented, err, heq⟩ := h
    rw [heq]
    exact ⟨fun _ => .inl hprevented, fun _ => ⟨fun _ hok => (by cases hok), fun _ _ => habsent⟩⟩
  | inr h =>
    obtain ⟨hprevented, tx, hcreate, heq⟩ := h
    have huser : (tx.accounts.getByID draws.userID).isSome := by
      obtain ⟨row, accounts, _, hnew, rfl⟩ := createUser_eq_ok hcreate
      rw [Accounts.getByID_create_self hnew]
      rfl
    have hcomplete : Complete { p with svc := tx } draws.userID (previewResult (rule :: rules)) ↔
        NothingToProvision p.dir (rule :: rules) := complete_iff huser rfl habsent
    rw [heq, or_iff_right hprevented, ← hcomplete]
    exact ⟨fun h => h.success _ rfl, fun h => ⟨fun _ _ => h, fun _ herr => by cases herr⟩⟩

end

/-! ## A rule that does nothing -/

def sampleResult : SSOCallbackResult where
  email := "Ann@corp.example"
  emailVerified := true
  displayName := "Ann"
  provider := "google"
  subject := "g2"
  claims := []

def sampleDraws : Draws := ⟨2, 1, true, 1, ⟨1, 1, 11, "h11", 11⟩⟩

/-- Addresses at `corp.example` belong to the team 5. -/
def sampleRule : SSODomainMapping := ⟨1, "corp.example", "member", 5, "member"⟩

/-- A platform with the given organizations, and the team 5. -/
def samplePlatform (orgs : List UUID) (isArchived : Bool) : Platform where
  svc := sampleService
  dir := {
    providers := []
    mappings := [sampleRule]
    orgs := orgs
    teams := [⟨5, isArchived⟩]
    invites := []
    orgMembers := .empty
    teamMembers := .empty }

/-- What the rule does for Ann. -/
abbrev sampleProvisioning (orgs : List UUID) (isArchived : Bool) : Except String User × Platform :=
  createAndProvisionFromMappings sampleConfig noFaults (samplePlatform orgs isArchived) sampleResult
    sampleDraws sampleRule []

/-- Without an organization, and with an archived team, the user is all there is to create. -/
theorem archived_team_all_or_nothing :
    AllOrNothing sampleDraws.userID (previewResult [sampleRule]) (sampleProvisioning [] true) := by
  have hfresh : (samplePlatform [] true).svc.accounts.getByID sampleDraws.userID = none := by
    decide +kernel
  have hnothing : NothingToProvision (samplePlatform [] true).dir [sampleRule] := by
    refine ⟨rfl, fun m hm hlive => ?_⟩
    obtain rfl := List.mem_singleton.mp hm
    obtain ⟨team, hteam, harchived⟩ := hlive
    obtain rfl : team = ⟨5, true⟩ := (Option.some.inj hteam).symm
    cases harchived
  exact (provisioning_all_or_nothing_iff sampleConfig noFaults sampleResult sampleRule []
    ⟨fun _ h => absurd h (Table.not_mem_empty _), fun _ h => absurd h (Table.not_mem_empty _)⟩
    hfresh).mpr (.inr hnothing)

/-- Ann is created with success, but is a member of neither the organization nor the team. -/
theorem mapped_user_without_membership :
    (sampleProvisioning [1] false).1.toOption.isSome = true ∧
      ¬ AllOrNothing sampleDraws.userID (previewResult [sampleRule])
        (sampleProvisioning [1] false) := by
  obtain ⟨user, p, hanswer, hmembers, hteams⟩ : ∃ user p,
      sampleProvisioning [1] false = (.ok user, p) ∧ p.dir.teamMembers.rows = [] ∧
        p.dir.teams = [⟨5, false⟩] := ⟨_, _, rfl, by decide +kernel, by decide +kernel⟩
  rw [hanswer]
  refine ⟨rfl, fun h => ?_⟩
  have hlive : p.dir.Live 5 := ⟨⟨5, false⟩, by rw [Directory.getTeam, hteams]; rfl, rfl⟩
  obtain ⟨m, hm, _⟩ := ((h.success user rfl).teams 5 "member").mpr
    ⟨⟨5, "member"⟩, List.mem_singleton.mpr rfl, rfl, rfl, hlive⟩
  have hrow : m ∈ p.dir.teamMembers.rows := hm
  rw [hmembers] at hrow
  exact List.not_mem_nil hrow

end BurnerByte.Sso
