import BurnerByte.Auth.Middleware
import BurnerByte.Go.Duration

/-!
# Routes behind the middleware

The routes that hand out or change credentials are modelled one by one: the ticket
for WebSocket connections and the API keys of a team. Every other route is a list
of guards and an arbitrary effect on the rest of the database, which deletes keys
with their team and orphans them with their creator.
-/

namespace BurnerByte.Auth

open Go Handler Rbac

/-! ## API keys -/

structure CreateAPIKeyInput where
  name : String
  scopes : List String
  expiresIn : Option String
  allowedIPs : List String

structure UpdateAPIKeyInput where
  name : Option String
  description : Option String
  scopes : List String
  isActive : Option Bool
  expiresAt : Option String
  allowedIPs : Option (List String)

section

variable (env : Env) (now : Nat)

def isValidScope (scope : String) : Bool := env.scopesProvider.contains scope

def checkScopes (scopes : List String) : Except String Unit :=
  match scopes.find? fun sc => !isValidScope env sc with
  | some sc => .error ("invalid scope: " ++ sc)
  | none => .ok ()

def validateIPs (ips : List String) : Except String Unit :=
  match ips.find? fun entry => (parseIP (lit entry)).isNone && (parseCIDR (lit entry)).isNone with
  | some entry => .error ("invalid IP/CIDR: " ++ entry)
  | none => .ok ()

/-- When a key of the given duration expires. -/
def expiry (expiresIn : Option String) : Except String (Option Nat) :=
  match expiresIn with
  | none => .ok none
  | some text =>
    match parseDuration text with
    | none => .error "invalid expires_in"
    | some d => if d ≤ 0 then .error "expires_in must be positive" else .ok (some (now + d.toNat))

/-- The text of a key, from the random digits. -/
def rawKey (digits : Bytes) : Bytes := lit "bb_" ++ digits

section

variable (input : UpdateAPIKeyInput) (s : State)

/-- Insert a key. Its team must exist, and its name fit the column. -/
def State.createKey (name : String) (key : APIKey) : Except String State :=
  match s.keys.insert key with
  | none => .error "create api key: duplicate key value"
  | some keys =>
    if 255 < name.length then .error "create api key: value too long"
    else if (s.world.checker.teamOrgID key.teamID).isNone then
      .error "create api key: foreign key violation"
    else .ok { s with keys }

def generate (teamID userID : UUID) (input : CreateAPIKeyInput) (id : UUID)
    (digits : Bytes) : Except String State := do
  if input.name = "" then .error "name is required"
  else if hscopes : input.scopes = [] then .error "at least one scope is required"
  else
    checkScopes env input.scopes
    validateIPs input.allowedIPs
    let expiresAt ← expiry now input.expiresIn
    s.createKey input.name
      { id, teamID, createdBy := some userID, keyHash := env.hash (rawKey digits)
        scopes := input.scopes, scopes_ne := hscopes, isActive := true
        allowedIPs := input.allowedIPs, expiresAt, revokedAt := none }

/-- The row of a key, joined with its creator. -/
def State.getByID (keyID : UUID) : Except String APIKey :=
  match s.keys.find? keyID with
  | none => .error RepoError.notFound.message
  | some key =>
    if (key.createdBy.bind s.world.users.find?).isNone then .error RepoError.notFound.message
    else .ok key

/-- A key of the team. -/
def State.teamKey (teamID keyID : UUID) : Except String APIKey := do
  let key ← s.getByID keyID
  if key.teamID ≠ teamID then .error "API key not found" else .ok key

/-- Change the row of a key, other than its id. -/
def State.updateKey (keyID : UUID) (f : APIKey → APIKey)
    (hid : ∀ key, (f key).id = key.id) : State :=
  { s with keys := s.keys.updateWhere (fun key => key.id = keyID) f hid }

/-- The columns that an update sets. No scopes means that they stay. -/
def UpdateAPIKeyInput.apply (expiresAt : Option Nat) (key : APIKey) : APIKey :=
  { key with
    scopes := if input.scopes = [] then key.scopes else input.scopes
    scopes_ne := by
      split
      · exact key.scopes_ne
      · assumption
    isActive := input.isActive.getD key.isActive
    expiresAt := expiresAt.or key.expiresAt
    allowedIPs := input.allowedIPs.getD key.allowedIPs }

def UpdateAPIKeyInput.isEmpty : Bool :=
  input.name.isNone && input.description.isNone && input.scopes.isEmpty &&
    input.isActive.isNone && input.expiresAt.isNone && input.allowedIPs.isNone

def parseExpiresAt (expiresAt : Option String) : Except String (Option Nat) :=
  match expiresAt with
  | none => .ok none
  | some text =>
    match env.parseTime text with
    | .error err => .error ("invalid expires_at format: " ++ err)
    | .ok time => .ok (some time)

def update (s : State) (teamID keyID : UUID) (input : UpdateAPIKeyInput) :
    Except String State := do
  let key ← s.teamKey teamID keyID
  if key.revokedAt.isSome then .error "cannot modify revoked key"
  else
    checkScopes env input.scopes
    validateIPs (input.allowedIPs.getD [])
    let expiresAt ← parseExpiresAt env input.expiresAt
    if input.isEmpty then .error "no fields to update"
    else if input.name.any fun name => decide (255 < name.length) then
      .error "update api key: value too long"
    else .ok (s.updateKey keyID (input.apply expiresAt) fun _ => rfl)

def rotate (s : State) (teamID keyID : UUID) (digits : Bytes) : Except String State := do
  let key ← s.teamKey teamID keyID
  if key.revokedAt.isSome then .error "cannot modify revoked key"
  else if !key.isActive then .error "cannot rotate inactive key"
  else
    .ok (s.updateKey keyID (fun key => { key with keyHash := env.hash (rawKey digits) })
      fun _ => rfl)

def revoke (teamID keyID : UUID) : Except String State := do
  let _ ← s.teamKey teamID keyID
  .ok (s.updateKey keyID (fun key => { key with revokedAt := some now }) fun _ => rfl)

def bulkRevoke (teamID : UUID) (keyIDs : List UUID) : State :=
  { s with
    keys := s.keys.updateWhere
      (fun key => keyIDs.contains key.id && key.teamID = teamID && key.revokedAt.isNone)
      (fun key => { key with revokedAt := some now }) fun _ => rfl }

end

end

/-! ## Routes -/

/-- The checks that stand before a handler. -/
inductive Guard where
  | systemAdmin
  | noAPIKey
  | scope (permissionKey : String)
  | orgPermission (orgID : UUID) (permissionKey : String)
  | teamPermission (orgID teamID : UUID) (permissionKey : String)

def Guard.check (c : Checker) (uc : UserContext) : Guard → Except HttpError Unit
  | .systemAdmin => requireSystemAdmin uc
  | .noAPIKey => rejectAPIKey (some uc)
  | .scope permissionKey => denyByScope (some uc) permissionKey
  | .orgPermission orgID permissionKey => checkOrgPermission c (some uc) orgID permissionKey
  | .teamPermission orgID teamID permissionKey =>
    checkTeamPermission c (some uc) orgID teamID permissionKey

/-- What the rest of the service does to the database. -/
structure Effect where
  world : World → World
  /-- The keys deleted with their team, or by the cleanup. -/
  drop : APIKey → Bool
  /-- The keys whose creator is deleted. -/
  orphan : APIKey → Bool

/-- The trigger on deleted users revokes a key that is active and clears its creator. -/
def APIKey.orphaned (now : Nat) (key : APIKey) : APIKey :=
  { key with
    createdBy := none
    isActive := false
    revokedAt := if key.isActive then some (key.revokedAt.getD now) else key.revokedAt }

def Effect.apply (effect : Effect) (now : Nat) (s : State) : State :=
  { s with
    world := effect.world s.world
    keys := (s.keys.deleteWhere effect.drop).updateWhere effect.orphan (APIKey.orphaned now)
      fun _ => rfl }

inductive Route where
  | wsTicket (fresh : Bytes)
  | createKey (orgID teamID : UUID) (input : Option CreateAPIKeyInput) (id : UUID) (digits : Bytes)
  | updateKey (orgID teamID : UUID) (keyID : Option UUID) (input : Option UpdateAPIKeyInput)
  | rotateKey (orgID teamID : UUID) (keyID : Option UUID) (digits : Bytes)
  | revokeKey (orgID teamID : UUID) (keyID : Option UUID)
  | bulkRevoke (orgID teamID : UUID) (keyIDs : Option (List UUID))
  | other (guards : List Guard) (effect : Effect)

/-- The guards of a route. Every key route asks for the same permission on its team. -/
def Route.guards : Route → List Guard
  | .wsTicket _ => []
  | .createKey orgID teamID _ _ _ => [.teamPermission orgID teamID "team.apikeys.manage"]
  | .updateKey orgID teamID _ _ => [.teamPermission orgID teamID "team.apikeys.manage"]
  | .rotateKey orgID teamID _ _ => [.teamPermission orgID teamID "team.apikeys.manage"]
  | .revokeKey orgID teamID _ => [.teamPermission orgID teamID "team.apikeys.manage"]
  | .bulkRevoke orgID teamID _ => [.teamPermission orgID teamID "team.apikeys.manage"]
  | .other guards _ => guards

/-- What an answer reveals to the client. -/
inductive Reply where
  | done
  | ticket (ticket : Bytes)
  | rawKey (raw : Bytes)
  deriving DecidableEq

section

variable (env : Env) (now : Nat)

def keyError (msg : String) : HttpError :=
  if msg = "API key not found" then ⟨404, msg⟩ else serviceError msg

def parseKeyID (keyID : Option UUID) : Except HttpError UUID :=
  match keyID with
  | none => .error (badRequest "invalid key ID")
  | some keyID => .ok keyID

/-- The body of a request, if it could be decoded. -/
def decodeBody {α : Type} (body : Option α) : Except HttpError α :=
  match body with
  | none => .error (badRequest "invalid request body")
  | some input => .ok input

/-- What a route does once its guards have let the request pass. -/
def handleRoute (s : State) (uc : UserContext) : Route → Except HttpError (Reply × State)
  | .wsTicket fresh =>
    .ok (.ticket fresh,
      { s with tickets := setTicket s.tickets ⟨fresh, uc.userID, now + ticketTTL⟩ })
  | .createKey _ teamID body id digits => do
    let input ← decodeBody body
    let s' ← (generate env now s teamID uc.userID input id digits).mapError serviceError
    .ok (.rawKey (rawKey digits), s')
  | .updateKey _ teamID keyID body => do
    let keyID ← parseKeyID keyID
    let input ← decodeBody body
    let s' ← (update env s teamID keyID input).mapError keyError
    .ok (.done, s')
  | .rotateKey _ teamID keyID digits => do
    let keyID ← parseKeyID keyID
    let s' ← (rotate env s teamID keyID digits).mapError keyError
    .ok (.rawKey (rawKey digits), s')
  | .revokeKey _ teamID keyID => do
    let keyID ← parseKeyID keyID
    let s' ← (revoke now s teamID keyID).mapError fun msg =>
      if msg = "API key not found" then ⟨404, msg⟩ else ⟨500, "failed"⟩
    .ok (.done, s')
  | .bulkRevoke _ teamID body => do
    let keyIDs ← decodeBody body
    if keyIDs.isEmpty then .error (badRequest "key_ids is required")
    else .ok (.done, bulkRevoke now s teamID keyIDs)
  | .other _ effect => .ok (.done, effect.apply now s)

end

structure Request where
  now : Nat
  credentials : Credentials
  route : Route

/-- Answer a request. The middleware may use up a ticket even if the route then
refuses the request. -/
def serve (env : Env) (s : State) (r : Request) : Except HttpError Reply × State :=
  match middleware env r.now s r.credentials with
  | (.error err, s') => (.error err, s')
  | (.ok uc, s') =>
    match r.route.guards.forM (Guard.check s'.world.checker uc) with
    | .error err => (.error err, s')
    | .ok () =>
      match handleRoute env r.now s' uc r.route with
      | .error err => (.error err, s')
      | .ok (reply, s'') => (.ok reply, s'')

end BurnerByte.Auth
