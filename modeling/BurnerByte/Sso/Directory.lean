import BurnerByte.Account.SignIn
import BurnerByte.Rbac.Checker
import BurnerByte.Sso.Responses

/-!
# Providers, rules and memberships

The rows that an SSO login reads and writes besides users and sessions: the configured
providers, the rules that map an e-mail domain to teams, invitations, organizations,
teams and their members. A value must fit its column: a text without a zero character,
no longer than declared, and JSON without a zero character in any of its texts.
-/

namespace BurnerByte.Sso

open Go Sql Rbac Account

/-! ## Columns -/

def hasZero (s : String) : Bool := s.toList.contains (Char.ofNat 0)

/-- What a `VARCHAR(n)` column keeps of a text: excess spaces are cut off. -/
def varchar (n : Nat) (s : String) : Option String :=
  if hasZero s then none
  else if s.length ≤ n then some s
  else if (s.toList.drop n).all (· = ' ') then some (String.ofList (s.toList.take n))
  else none

mutual

/-- Whether a `JSONB` column takes the value. -/
def Claim.storable : Claim → Bool
  | .null => true
  | .bool _ => true
  | .number _ => true
  | .string s => !hasZero s
  | .array items => Claim.storableItems items
  | .object fields => Claim.storableFields fields

def Claim.storableItems : List Claim → Bool
  | [] => true
  | item :: items => item.storable && Claim.storableItems items

def Claim.storableFields : List (String × Claim) → Bool
  | [] => true
  | field :: fields => Claim.storableField field && Claim.storableFields fields

def Claim.storableField : String × Claim → Bool
  | (key, value) => !hasZero key && value.storable

end

def Claims.storable (claims : Claims) : Bool := Claim.storableFields claims

/-- A column that may be `NULL`. -/
def nullable (column : String → Option String) : Option String → Option (Option String)
  | none => some none
  | some s => (column s).map some

/-- The row as the columns keep it. The address is checked by `Accounts.create`. -/
def columns (user : User) : Option User := do
  let displayName ← varchar 255 user.displayName
  let ssoProvider ← nullable (varchar 50) user.ssoProvider
  if hasZero user.email then none else some { user with displayName, ssoProvider }

theorem columns_eq_some {user row : User} (h : columns user = some row) :
    ∃ displayName ssoProvider, varchar 255 user.displayName = some displayName ∧
      hasZero user.email = false ∧ row = { user with displayName, ssoProvider } := by
  obtain ⟨displayName, hname, h⟩ := Option.bind_eq_some_iff.mp h
  obtain ⟨ssoProvider, _, h⟩ := Option.bind_eq_some_iff.mp h
  split at h
  · cases h
  rename_i hzero
  exact ⟨displayName, ssoProvider, hname, Bool.eq_false_iff.mpr hzero, (Option.some.inj h).symm⟩

/-! ## Providers -/

structure ClaimMapping where
  claimName : String
  claimValue : String
  orgRole : String
  teamID : IdText
  teamRole : String

structure SSOProvider where
  id : UUID
  name : String
  providerType : String
  autoProvision : Bool
  defaultOrgRole : String
  defaultTeamRole : String
  defaultTeamID : Option UUID
  allowedDomains : String
  claimMappings : List ClaimMapping
  customClaims : List String
  enabled : Bool

/-- The provider of the configuration file. -/
structure SSOConfig where
  provider : String
  clientID : String
  clientSecret : String
  autoProvision : Bool
  defaultOrgRole : String
  defaultTeamRole : String
  allowedDomains : String

def SSOConfig.toProvider (file : SSOConfig) : SSOProvider where
  id := uuidNil
  name := file.provider
  providerType := file.provider
  autoProvision := file.autoProvision
  defaultOrgRole := file.defaultOrgRole
  defaultTeamRole := file.defaultTeamRole
  defaultTeamID := none
  allowedDomains := file.allowedDomains
  claimMappings := []
  customClaims := []
  enabled := true

/-- The providers in memory, by name. -/
abbrev Providers := String → Option SSOProvider

def Providers.put (providers : Providers) (provider : SSOProvider) : Providers :=
  fun name => if name = provider.name then some provider else providers name

section

/- Whether the discovery of an OIDC provider succeeds. -/
variable (discovers : SSOProvider → Bool)

/-- GitHub needs no discovery. -/
def initProviderState (provider : SSOProvider) : Bool :=
  provider.providerType = "github" || discovers provider

/-- The providers of the database, and the one of the file unless its name is taken. -/
def loadProviders (rows : List SSOProvider) (file : SSOConfig) : Providers :=
  let loaded : Providers := rows.foldl (fun providers row =>
    if initProviderState discovers row then Providers.put providers row else providers)
    fun _ => none
  if file.provider ≠ "" && file.clientID ≠ "" && file.clientSecret ≠ "" &&
      (loaded file.provider).isNone && initProviderState discovers file.toProvider then
    Providers.put loaded file.toProvider
  else loaded

end

/-! ## Tables -/

structure SSODomainMapping where
  providerID : UUID
  domain : String
  orgRole : String
  teamID : UUID
  teamRole : String

structure Team where
  id : UUID
  isArchived : Bool
  deriving DecidableEq

abbrev orgMemberKey (m : OrgMembership) : UUID × UUID := (m.userID, m.orgID)

abbrev teamMemberKey (m : TeamMembership) : UUID × UUID := (m.userID, m.teamID)

/-- The lists are in the order in which the queries return their rows. -/
structure Directory where
  providers : List SSOProvider
  mappings : List SSODomainMapping
  orgs : List UUID
  teams : List Team
  invites : List Invite
  orgMembers : Table OrgMembership (UUID × UUID) orgMemberKey
  teamMembers : Table TeamMembership (UUID × UUID) teamMemberKey

namespace Directory

def getByName (dir : Directory) (name : String) : Option SSOProvider :=
  dir.providers.find? fun provider => provider.name = name

def findMatchingRules (cfg : Config) (dir : Directory) (providerID : UUID) (emailDomain : String) :
    List SSODomainMapping :=
  dir.mappings.filter fun m => m.providerID = providerID &&
    decide (lowerText cfg.casing m.domain = lowerText cfg.casing emailDomain)

def getPendingInviteByEmail (dir : Directory) (email : String) (now : Nat) : Option Invite :=
  dir.invites.find? fun invite =>
    invite.email = email && invite.acceptedAt.isNone && decide (now < invite.expiresAt)

def getTeam (dir : Directory) (id : UUID) : Option Team := dir.teams.find? fun team => team.id = id

end Directory

/-- The database, as other connections see it while a transaction is open. -/
structure Platform where
  svc : Service
  dir : Directory

namespace Platform

/-- Insert the membership of a user who exists in an organization that exists. -/
def createOrgMembership (p : Platform) (userID orgID : UUID) (role : String) : Option Platform :=
  if h : role ∈ orgRoles then
    if (p.svc.accounts.getByID userID).isNone || !p.dir.orgs.contains orgID then none
    else
      (p.dir.orgMembers.insert ⟨userID, orgID, role, h⟩).map fun orgMembers =>
        { p with dir := { p.dir with orgMembers } }
  else none

def updateMemberRole (p : Platform) (userID orgID : UUID) (role : String) : Option Platform :=
  if h : role ∈ orgRoles then
    if (p.dir.orgMembers.find? (userID, orgID)).isNone then none
    else
      some { p with dir := { p.dir with
        orgMembers := p.dir.orgMembers.updateWhere (fun m => orgMemberKey m = (userID, orgID))
          (fun m => { m with role := role, role_mem := h }) fun _ => rfl } }
  else none

def createTeamMembership (p : Platform) (userID teamID : UUID) (role : String) : Option Platform :=
  if h : role ∈ teamRoles then
    if (p.svc.accounts.getByID userID).isNone || (p.dir.getTeam teamID).isNone then none
    else
      (p.dir.teamMembers.insert ⟨userID, teamID, role, h⟩).map fun teamMembers =>
        { p with dir := { p.dir with teamMembers } }
  else none

end Platform

/-! ## Identities -/

/-- Insert a linked identity. Its address, name and claims must fit their columns too. -/
def createIdentity (svc : Service) (userID : UUID) (email : String) (result : SSOCallbackResult) :
    Except RepoError Service :=
  match varchar 50 result.provider, varchar 255 result.subject, varchar 255 email,
      varchar 255 result.displayName with
  | some provider, some subject, some _, some _ =>
    if !result.claims.storable then .error (.other "create sso identity: unsupported character")
    else if (svc.findIdentity provider subject).isSome then .error .conflict
    else if (svc.accounts.getByID userID).isNone then
      .error (.other "create sso identity: foreign key violation")
    else .ok { svc with identities := ⟨provider, subject, userID⟩ :: svc.identities }
  | _, _, _, _ => .error (.other "create sso identity: value too long for type")

end BurnerByte.Sso
