import BurnerByte.Core.Exclusive
import BurnerByte.Teams.Members

/-!
# Completing the setup

The setup wizard sends everything in one request: the administrator, the organization, the settings
for mail and storage, a domain, and perhaps a team, a logo and invitations. `Complete` writes all of
it in one transaction. The first statement locks the row that says whether the setup is completed,
so of any number of requests that are handled at the same time at most one gets through.

The settings of the running process, which follow the commit, and the mails to the invited are left
out.
-/

namespace BurnerByte.Setup

open Exclusive Go Rbac Sql

/-! ## The tables -/

structure Organization where
  id : UUID
  name : String
  slug : String
  logoURL : Option String

structure Domain where
  id : UUID
  orgID : UUID
  domainName : String

structure MailerConfig where
  host : String
  port : Int
  username : String
  password : String
  sender : String

structure StorageConfig where
  provider : String
  endpoint : String
  accessKey : String
  secretKey : String
  bucket : String
  region : String
  useSSL : Bool

inductive ConfigValue where
  | mailer (config : MailerConfig)
  | storage (config : StorageConfig)

structure Store where
  svc : Account.Service
  orgs : UniqueTable Organization UUID String Organization.id Organization.slug
  orgMembers : Table OrgMembership (UUID × UUID) Sso.orgMemberKey
  domains : UniqueTable Domain UUID String Domain.id Domain.domainName
  teams : UniqueTable Teams.Team UUID (UUID × String) Teams.Team.id Teams.slugKey
  teamMembers : Table TeamMembership (UUID × UUID) Sso.teamMemberKey
  invites : UniqueTable Teams.Invite UUID String Teams.Invite.id Teams.Invite.tokenHash
  configs : String → Option ConfigValue
  /-- When and by whom the setup was completed. -/
  completedBy : Option (Nat × UUID)

namespace Store

variable (s : Store)

def hasUser (id : UUID) : Bool := s.svc.accounts.table.rows.any fun account => account.id = id

def hasOrg (id : UUID) : Bool := s.orgs.rows.any fun org => org.id = id

def hasTeam (id : UUID) : Bool := s.teams.rows.any fun team => team.id = id

def insertOrg (org : Organization) :
    Except RepoError (UniqueTable Organization UUID String Organization.id Organization.slug) :=
  match Sso.varchar 255 org.name, Sso.varchar 255 org.slug with
  | some name, some slug =>
    match s.orgs.insert { org with name, slug } with
    | none => .error .conflict
    | some orgs => .ok orgs
  | _, _ => .error (.other "create org: value too long for type")

def updateOrg (org : Organization) :
    Except RepoError (UniqueTable Organization UUID String Organization.id Organization.slug) :=
  match Sso.varchar 255 org.name, Sso.varchar 255 org.slug with
  | some name, some slug =>
    match s.orgs.tryUpdate (fun old => old.id = org.id)
        (fun old => { old with name, slug, logoURL := org.logoURL }) fun _ => rfl with
    | none => .error .conflict
    | some orgs => .ok orgs
  | _, _ => .error (.other "update org: value too long for type")

def insertOrgMember (userID orgID : UUID) (role : String) :
    Except RepoError (Table OrgMembership (UUID × UUID) Sso.orgMemberKey) :=
  if hrole : role ∈ orgRoles then
    if s.hasUser userID && s.hasOrg orgID then
      match s.orgMembers.insert ⟨userID, orgID, role, hrole⟩ with
      | none => .error .conflict
      | some orgMembers => .ok orgMembers
    else .error (.other "create membership: foreign key violation")
  else .error (.other "create membership: check violation")

def insertDomain (domain : Domain) :
    Except RepoError (UniqueTable Domain UUID String Domain.id Domain.domainName) :=
  match Sso.varchar 255 domain.domainName with
  | none => .error (.other "create domain: value too long for type")
  | some domainName =>
    if s.hasOrg domain.orgID then
      match s.domains.insert { domain with domainName } with
      | none => .error .conflict
      | some domains => .ok domains
    else .error (.other "create domain: foreign key violation")

def insertTeam (team : Teams.Team) :
    Except RepoError (UniqueTable Teams.Team UUID (UUID × String) Teams.Team.id Teams.slugKey) :=
  match Sso.varchar 255 team.name, Sso.varchar 255 team.slug with
  | some name, some slug =>
    if s.hasOrg team.orgID then
      match s.teams.insert { team with name, slug } with
      | none => .error .conflict
      | some teams => .ok teams
    else .error (.other "create team: foreign key violation")
  | _, _ => .error (.other "create team: value too long for type")

def insertTeamMember (userID teamID : UUID) (role : String) :
    Except RepoError (Table TeamMembership (UUID × UUID) Sso.teamMemberKey) :=
  if hrole : role ∈ teamRoles then
    if s.hasUser userID && s.hasTeam teamID then
      match s.teamMembers.insert ⟨userID, teamID, role, hrole⟩ with
      | none => .error .conflict
      | some teamMembers => .ok teamMembers
    else .error (.other "create team membership: foreign key violation")
  else .error (.other "create team membership: check violation")

/-- Insert an invitation to the organization. No method of signing in is asked for. -/
def insertInvite (id orgID : UUID) (email orgRole tokenHash : String) (invitedBy : UUID)
    (expiresAt : Nat) :
    Except RepoError
      (UniqueTable Teams.Invite UUID String Teams.Invite.id Teams.Invite.tokenHash) :=
  if hrole : orgRole ∈ orgRoles then
    match Sso.varchar 255 email with
    | none => .error (.other "create invite: value too long for type")
    | some email =>
      if s.hasOrg orgID && s.hasUser invitedBy then
        match s.invites.insert ⟨id, orgID, none, email, orgRole, hrole, none, nofun, ["any"],
            tokenHash, some invitedBy, none, expiresAt⟩ with
        | none => .error (.other "create invite: unique violation")
        | some invites => .ok invites
      else .error (.other "create invite: foreign key violation")
  else .error (.other "create invite: check violation")

end Store

/-! ## Writes -/

inductive Write where
  | user (id : UUID) (user : Account.User)
  | org (org : Organization)
  | owner (userID orgID : UUID)
  | config (key : String) (value : ConfigValue)
  | domain (domain : Domain)
  | team (team : Teams.Team)
  | lead (userID teamID : UUID)
  | branding (org : Organization)
  | invite (id orgID : UUID) (email orgRole tokenHash : String) (invitedBy : UUID) (expiresAt : Nat)
  | complete (now : Nat) (userID : UUID)
  | session (session : Account.Session)

def Write.run (write : Write) (s : Store) : Except RepoError Store :=
  match write with
  | user id u => (s.svc.insertUser id u).map fun svc => { s with svc }
  | org o => (s.insertOrg o).map fun orgs => { s with orgs }
  | owner userID orgID =>
    (s.insertOrgMember userID orgID "owner").map fun orgMembers => { s with orgMembers }
  | config key value =>
    .ok { s with configs := fun k => if k = key then some value else s.configs k }
  | domain d => (s.insertDomain d).map fun domains => { s with domains }
  | team t => (s.insertTeam t).map fun teams => { s with teams }
  | lead userID teamID =>
    (s.insertTeamMember userID teamID "lead").map fun teamMembers => { s with teamMembers }
  | branding o => (s.updateOrg o).map fun orgs => { s with orgs }
  | invite id orgID email orgRole tokenHash invitedBy expiresAt =>
    (s.insertInvite id orgID email orgRole tokenHash invitedBy expiresAt).map fun invites =>
      { s with invites }
  | complete now userID =>
    .ok { s with svc := s.svc.apply .completeSetup, completedBy := some (now, userID) }
  | session row => ((s.svc.insertSession row).mapError RepoError.other).map fun svc =>
    { s with svc }

/-! ## The request -/

/-- The body of the request. -/
structure Input where
  email : String
  password : String
  displayName : String
  orgName : String
  orgSlug : String
  orgLogo : Option String
  smtp : MailerConfig
  storage : Option StorageConfig
  domainName : String
  teamName : Option String
  branding : Option (Option String)
  /-- Addresses and roles. -/
  invites : List (String × String)

/-- The row identifier and the token of an invitation, and when it was made. -/
structure InviteDraw where
  id : UUID
  token : String
  now : Nat

/-- What the request draws. -/
structure Draws where
  userID : UUID
  orgID : UUID
  domainID : UUID
  teamID : UUID
  now : Nat
  invite : Nat → InviteDraw
  issue : Account.Issue

inductive Call where
  | start
  | status
  | user
  | org
  | owner
  | mailer
  | storage
  | domain
  | team
  | lead
  | branding
  | invite (i : Nat)
  | complete
  | accessToken
  | refreshToken
  | session
  | commit

/-- A request, and the calls that fail for other reasons than the state of the database. -/
structure Request where
  cfg : Account.Config
  env : Org.Env
  input : Input
  draws : Draws
  faults : Call → Option RepoError

namespace Request

variable (r : Request)

/-- The part of the request that concerns the account. -/
def account : Account.SetupInput where
  email := r.input.email
  displayName := r.input.displayName
  password := r.input.password
  orgName := r.input.orgName
  smtpHost := r.input.smtp.host
  -- only whether it is zero matters to the check
  smtpPort := r.input.smtp.port.natAbs
  smtpFrom := r.input.smtp.sender
  domainName := r.input.domainName
  stored := .ok ()
  userID := r.draws.userID
  changedAt := r.draws.now
  issue := r.draws.issue

def org : Organization where
  id := r.draws.orgID
  name := r.input.orgName
  slug := if r.input.orgSlug = "" then Org.setupSlug r.input.orgName else r.input.orgSlug
  logoURL := r.input.orgLogo

/-- A call that writes nothing. -/
def call (call : Call) (message : String) : Stmt Write RepoError String :=
  .check (if (r.faults call).isSome then .error message else .ok ())

def exec (call : Call) (write : Write) (message : String) : Stmt Write RepoError String :=
  .exec write (r.faults call) fun _ => message

def userError : RepoError → String
  | .conflict => "admin email already exists"
  | _ => "failed to create admin user"

def storageStmts : List (Stmt Write RepoError String) :=
  match r.input.storage with
  | none => []
  | some storage =>
    if storage.endpoint = "" then []
    else [r.exec .storage (.config "storage" (.storage storage)) "failed to save storage config"]

def teamStmts : List (Stmt Write RepoError String) :=
  match r.input.teamName with
  | none => []
  | some name =>
    if name = "" then []
    else
      [r.exec .team (.team ⟨r.draws.teamID, r.draws.orgID, name, Org.setupSlug name, false⟩)
          "failed to create team",
        r.exec .lead (.lead r.draws.userID r.draws.teamID) "failed to add admin to team"]

def brandingStmts : List (Stmt Write RepoError String) :=
  match r.input.branding with
  | none => []
  | some logoURL =>
    [r.exec .branding (.branding { r.org with logoURL := logoURL.or r.input.orgLogo })
      "failed to save branding"]

/-- A failed insertion is logged, and addresses that cannot be parsed are skipped. -/
def inviteStmts : List (Stmt Write RepoError String) :=
  (r.input.invites.filter fun inv => inv.1 ≠ "" && (Mail.parseAddress inv.1).isSome).zipIdx.map
    fun (inv, i) =>
      .attempt (.invite (r.draws.invite i).id r.draws.orgID inv.1
        (if inv.2 = "" then "member" else inv.2) (r.env.hashToken (r.draws.invite i).token)
        r.draws.userID ((r.draws.invite i).now + r.env.inviteExpiry)) (r.faults (.invite i))

/-- The statements after the password has been hashed. -/
def stmts (hash : String) : List (Stmt Write RepoError String) :=
  [.exec (.user r.draws.userID (r.account.user hash)) (r.faults .user) userError,
    r.exec .org (.org r.org) "failed to create organization",
    r.exec .owner (.owner r.draws.userID r.draws.orgID) "failed to add admin to org",
    r.exec .mailer (.config "mailer" (.mailer r.input.smtp)) "failed to save SMTP config"] ++
  r.storageStmts ++
  [r.exec .domain (.domain ⟨r.draws.domainID, r.draws.orgID, r.input.domainName⟩)
    "failed to add domain"] ++
  r.teamStmts ++ r.brandingStmts ++ r.inviteStmts ++
  [r.exec .complete (.complete r.draws.now r.draws.userID) "failed to mark setup complete",
    r.call .accessToken "failed to generate token",
    r.call .refreshToken "failed to generate token",
    r.exec .session (.session (r.draws.issue.session r.cfg r.draws.userID none))
      "failed to create session",
    r.call .commit "failed to commit setup"]

def complete : Job Store Write RepoError String where
  check :=
    match r.account.check r.cfg with
    | .error message => .error message
    | .ok () => if (r.faults .start).isSome then .error "failed to start transaction" else .ok ()
  stmts s :=
    [r.call .status "failed to check setup status",
      .check (if s.svc.setupCompleted then .error "setup already completed" else .ok ())] ++
    match r.cfg.env.hashPassword r.input.password with
    | .error _ => [.check (.error "failed to hash password")]
    | .ok hash => r.stmts hash
  aborted := "failed to commit setup"

end Request

end BurnerByte.Setup
