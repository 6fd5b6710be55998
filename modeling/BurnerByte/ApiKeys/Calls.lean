import BurnerByte.Auth.Routes
import BurnerByte.Core.Interleaving
import BurnerByte.Sso.Directory

/-!
# The rows of API keys and the calls that write them

A row keeps the scopes as a list, which the database would also take empty. The calls of the
service read the row, check it and write it by statements of their own, so other calls may come
between them. Columns that only count the uses of a key are left out.
-/

namespace BurnerByte.ApiKeys

open Go Sql Handler Rbac Interleaving

/-! ## Rows -/

structure Key where
  id : UUID
  teamID : UUID
  /-- Null once the creator is deleted. -/
  createdBy : Option UUID
  keyHash : String
  keyPrefix : Bytes
  name : String
  description : Option String
  scopes : List String
  isActive : Bool
  allowedIPs : List String
  expiresAt : Option Nat
  revokedAt : Option Nat
  revokedBy : Option UUID

structure Db where
  world : Auth.World
  keys : Table Key UUID Key.id

structure CreateAPIKeyInput extends Auth.CreateAPIKeyInput where
  description : Option String

export Auth (UpdateAPIKeyInput rawKey)

/-! ## Statements -/

/-- The service while the cache holds the roles. -/
def withRoles (env : Auth.Env) (roles : RoleTable) : Auth.Env :=
  { env with scopesProvider := roles.teamPermissionKeys }

/-- The first eleven bytes of a key. -/
def keyPrefix (digits : Bytes) : Bytes := (rawKey digits).take 11

/-- Whether `JSONB` and `TEXT` columns take the texts. -/
def storable (texts : List String) : Bool := !texts.any Sso.hasZero

namespace Db

def hasUser (db : Db) (userID : UUID) : Bool := (db.world.users.find? userID).isSome

def create (db : Db) (key : Key) : Except String Db :=
  match Sso.varchar 255 key.name with
  | none => .error "create api key: value too long for type"
  | some name =>
    if !storable (key.description.toList ++ key.scopes ++ key.allowedIPs) then
      .error "create api key: unsupported character"
    else
      match db.keys.insert { key with name } with
      | none => .error "create api key: duplicate key value"
      | some keys =>
        if (db.world.checker.teamOrgID key.teamID).isNone || !key.createdBy.all db.hasUser then
          .error "create api key: foreign key violation"
        else .ok { db with keys }

/-- The row of a key, joined with its creator. -/
def getByID (db : Db) (keyID : UUID) : Except String Key :=
  match db.keys.find? keyID with
  | none => .error RepoError.notFound.message
  | some key =>
    if (key.createdBy.bind db.world.users.find?).isNone then .error RepoError.notFound.message
    else .ok key

/-- The row with a hash. The column is indexed but not unique. -/
def getByHash (db : Db) (keyHash : String) : Option Key :=
  db.keys.rows.find? fun key => key.keyHash = keyHash

/-- Rewrite the row of a key, if there is one. -/
def rewrite (db : Db) (keyID : UUID) (f : Key → Key) (hid : ∀ key, (f key).id = key.id) :
    Except String Db :=
  if (db.keys.find? keyID).isNone then .error RepoError.notFound.message
  else .ok { db with keys := db.keys.updateWhere (fun key => key.id = keyID) f hid }

end Db

/-- The columns that an update sets. No scopes means that they stay. -/
def columns (input : UpdateAPIKeyInput) (name : Option String) (expiresAt : Option Nat)
    (key : Key) : Key :=
  { key with
    name := name.getD key.name
    description := input.description.or key.description
    scopes := if input.scopes = [] then key.scopes else input.scopes
    isActive := input.isActive.getD key.isActive
    expiresAt := expiresAt.or key.expiresAt
    allowedIPs := input.allowedIPs.getD key.allowedIPs }

/-- The columns that a revocation sets. -/
def Key.revoke (now : Nat) (userID : UUID) (key : Key) : Key :=
  { key with revokedAt := some now, revokedBy := some userID }

theorem Key.revoke_id (now : Nat) (userID : UUID) (key : Key) :
    (key.revoke now userID).id = key.id := rfl

namespace Db

def update (env : Auth.Env) (db : Db) (keyID : UUID) (input : UpdateAPIKeyInput) :
    Except String Db := do
  let expiresAt ← Auth.parseExpiresAt env input.expiresAt
  if input.isEmpty then .error "no fields to update"
  else
    match Sso.nullable (Sso.varchar 255) input.name with
    | none => .error "update api key: value too long for type"
    | some name =>
      if !storable (input.description.toList ++ input.scopes ++ input.allowedIPs.getD []) then
        .error "update api key: unsupported character"
      else db.rewrite keyID (columns input name expiresAt) fun _ => rfl

def rotateKey (db : Db) (keyID : UUID) (newHash : String) (newPrefix : Bytes) : Except String Db :=
  db.rewrite keyID (fun key => { key with keyHash := newHash, keyPrefix := newPrefix }) fun _ => rfl

def softRevoke (db : Db) (keyID revokedBy : UUID) (now : Nat) : Except String Db :=
  if (db.keys.find? keyID).isSome && !db.hasUser revokedBy then
    .error "soft revoke api key: foreign key violation"
  else
    db.rewrite keyID (Key.revoke now revokedBy) (Key.revoke_id now revokedBy)

/-- The keys that `BulkSoftRevoke` revokes. -/
def revocable (teamID : UUID) (keyIDs : List UUID) (key : Key) : Bool :=
  keyIDs.contains key.id && decide (key.teamID = teamID) && key.revokedAt.isNone

/-- How many keys were revoked. -/
def bulkSoftRevoke (db : Db) (teamID : UUID) (keyIDs : List UUID) (revokedBy : UUID) (now : Nat) :
    Except String (Nat × Db) :=
  let revoked := (db.keys.rows.filter (revocable teamID keyIDs)).length
  if revoked ≠ 0 && !db.hasUser revokedBy then .error "bulk soft revoke: foreign key violation"
  else
    .ok (revoked, { db with
      keys := db.keys.updateWhere (revocable teamID keyIDs)
        (Key.revoke now revokedBy) (Key.revoke_id now revokedBy) })

/-- The keys that the report finds to be of another team, or revoked, be it just now. -/
def seen (db : Db) (teamID : UUID) (keyIDs : List UUID) : List UUID :=
  (db.keys.rows.filter fun key => keyIDs.contains key.id &&
    (decide (key.teamID ≠ teamID) || key.revokedAt.isSome)).map Key.id

/-- Whether the key is one that the user has revoked in the team. -/
def existsRevokedBy (db : Db) (keyID teamID revokedBy : UUID) : Bool :=
  db.keys.rows.any fun key =>
    decide (key.id = keyID) && decide (key.teamID = teamID) &&
      decide (key.revokedBy = some revokedBy)

/-- 30 days. -/
def retention : Nat := 30 * 24 * 3600 * 1000000000

def deleteExpiredKeys (db : Db) (now : Nat) : Db :=
  { db with
    keys := db.keys.deleteWhere fun key => key.expiresAt.any fun expiresAt =>
      (decide (expiresAt < now) && key.revokedAt.isSome) || decide (expiresAt + retention < now) }

end Db

/-- What the rest of the service does: it deletes teams and users, and changes other tables. -/
structure Effect where
  world : Auth.World → Auth.World
  teams : List UUID
  users : List UUID

/-- The trigger on deleted users revokes the active keys that they created. Then the references
to them are cleared. -/
def Key.clear (users : List UUID) (now : Nat) (key : Key) : Key :=
  let orphaned := key.createdBy.any users.contains
  { key with
    createdBy := if orphaned then none else key.createdBy
    isActive := key.isActive && !orphaned
    revokedAt := if orphaned && key.isActive then some (key.revokedAt.getD now) else key.revokedAt
    revokedBy := if key.revokedBy.any users.contains then none else key.revokedBy }

theorem Key.clear_id (users : List UUID) (now : Nat) (key : Key) :
    (key.clear users now).id = key.id := rfl

/-- Keys are deleted with their team. -/
def Effect.apply (effect : Effect) (now : Nat) (db : Db) : Db where
  world := effect.world db.world
  keys := (db.keys.deleteWhere fun key => effect.teams.contains key.teamID).updateWhere
    (fun _ => true) (Key.clear effect.users now) (Key.clear_id effect.users now)

/-! ## Calls -/

section

variable (env : Auth.Env)

/-- The row that `Generate` inserts. -/
def newKey (now : Nat) (teamID userID : UUID) (input : CreateAPIKeyInput) (id : UUID)
    (digits : Bytes) : Except String Key := do
  if input.name = "" then .error "name is required"
  else if input.scopes = [] then .error "at least one scope is required"
  else
    Auth.checkScopes env input.scopes
    Auth.validateIPs input.allowedIPs
    let expiresAt ← Auth.expiry now input.expiresIn
    .ok
      { id, teamID, createdBy := some userID, keyHash := env.hash (rawKey digits)
        keyPrefix := keyPrefix digits, name := input.name, description := input.description
        scopes := input.scopes, isActive := true, allowedIPs := input.allowedIPs, expiresAt
        revokedAt := none, revokedBy := none }

def get (db : Db) (teamID keyID : UUID) : Except String Key := do
  let key ← db.getByID keyID
  if key.teamID ≠ teamID then .error "API key not found" else .ok key

def checkUpdate (db : Db) (teamID keyID : UUID) (input : UpdateAPIKeyInput) :
    Except String Unit := do
  let key ← get db teamID keyID
  if key.revokedAt.isSome then .error "cannot modify revoked key"
  else
    Auth.checkScopes env input.scopes
    Auth.validateIPs (input.allowedIPs.getD [])

def checkRotate (db : Db) (teamID keyID : UUID) : Except String Unit := do
  let key ← get db teamID keyID
  if key.revokedAt.isSome then .error "cannot modify revoked key"
  else if !key.isActive then .error "cannot rotate inactive key"
  else .ok ()

end

/-- The next statement of a call that reads a row, writes it, and reads it again. -/
inductive Stage where
  | reading
  | writing
  | fetching
  deriving DecidableEq

inductive Reply where
  | key (key : Key) (raw : Option Bytes)
  | revoked (count : Nat) (skipped : List UUID)
  | done

/-- A call before one of its statements, or after the last. What it draws and the times at which
it reads the clock are given with it, and so are the roles in the cache when it checks scopes. -/
inductive Call where
  | generate (roles : RoleTable) (now : Nat) (teamID userID : UUID) (input : CreateAPIKeyInput)
      (id : UUID) (digits : Bytes)
  | update (roles : RoleTable) (teamID keyID : UUID) (input : UpdateAPIKeyInput) (stage : Stage)
  | rotate (teamID keyID : UUID) (digits : Bytes) (stage : Stage)
  | revoke (now : Nat) (teamID keyID userID : UUID) (stage : Stage)
  | bulkRevoke (now : Nat) (teamID userID : UUID) (keyIDs : List UUID)
  | bulkReport (teamID userID : UUID) (keyIDs : List UUID) (revoked : Nat)
  | bulkSkip (teamID userID : UUID) (keyIDs : List UUID) (revoked : Nat) (seen skipped : List UUID)
  | deleteExpiredKeys (now : Nat)
  | other (effect : Effect) (now : Nat)
  | returned (result : Except String Reply)

/-- The call goes on with the outcome of a statement, or ends with its error. -/
def proceed (db : Db) (outcome : Except String Db) (next : Call) : Call × Db :=
  match outcome with
  | .error msg => (.returned (.error msg), db)
  | .ok db' => (next, db')

def stmt (env : Auth.Env) : Call → Db → Call × Db
  | .generate roles now teamID userID input id digits, db =>
    match newKey (withRoles env roles) now teamID userID input id digits with
    | .error msg => (.returned (.error msg), db)
    | .ok key => proceed db (db.create key) (.returned (.ok (.key key (some (rawKey digits)))))
  | .update roles teamID keyID input .reading, db =>
    proceed db ((checkUpdate (withRoles env roles) db teamID keyID input).map fun _ => db)
      (.update roles teamID keyID input .writing)
  | .update roles teamID keyID input .writing, db =>
    proceed db (db.update env keyID input) (.update roles teamID keyID input .fetching)
  | .update _ _ keyID _ .fetching, db =>
    (.returned ((db.getByID keyID).map fun key => .key key none), db)
  | .rotate teamID keyID digits .reading, db =>
    proceed db ((checkRotate db teamID keyID).map fun _ => db)
      (.rotate teamID keyID digits .writing)
  | .rotate teamID keyID digits .writing, db =>
    proceed db (db.rotateKey keyID (env.hash (rawKey digits)) (keyPrefix digits))
      (.rotate teamID keyID digits .fetching)
  | .rotate _ keyID digits .fetching, db =>
    (.returned ((db.getByID keyID).map fun key => .key key (some (rawKey digits))), db)
  | .revoke now teamID keyID userID .reading, db =>
    proceed db ((get db teamID keyID).map fun _ => db) (.revoke now teamID keyID userID .writing)
  | .revoke now _ keyID userID .writing, db =>
    proceed db (db.softRevoke keyID userID now) (.returned (.ok .done))
  | .revoke _ _ _ _ .fetching, db => (.returned (.ok .done), db)
  | .bulkRevoke now teamID userID keyIDs, db =>
    if keyIDs.isEmpty then (.returned (.error "key_ids is required"), db)
    else
      match db.bulkSoftRevoke teamID keyIDs userID now with
      | .error msg => (.returned (.error msg), db)
      | .ok (revoked, db') =>
        if revoked < keyIDs.length then (.bulkReport teamID userID keyIDs revoked, db')
        else (.returned (.ok (.revoked revoked [])), db')
  | .bulkReport teamID userID keyIDs revoked, db =>
    (.bulkSkip teamID userID keyIDs revoked (db.seen teamID keyIDs) [], db)
  | .bulkSkip _ _ [] revoked _ skipped, db => (.returned (.ok (.revoked revoked skipped)), db)
  | .bulkSkip teamID userID (id :: keyIDs) revoked seen skipped, db =>
    if seen.contains id || !db.existsRevokedBy id teamID userID then
      (.bulkSkip teamID userID keyIDs revoked seen (skipped ++ [id]), db)
    else (.bulkSkip teamID userID keyIDs revoked seen skipped, db)
  | .deleteExpiredKeys now, db => (.returned (.ok .done), db.deleteExpiredKeys now)
  | .other effect now, db => (.returned (.ok .done), effect.apply now db)
  | .returned result, db => (.returned result, db)

/-- A call that has not executed a statement. -/
def Call.isFresh : Call → Bool
  | .update _ _ _ _ stage | .rotate _ _ _ stage | .revoke _ _ _ _ stage => stage = .reading
  | .bulkReport _ _ _ _ | .bulkSkip _ _ _ _ _ _ | .returned _ => false
  | _ => true

/-- Concurrent calls after a schedule of statements, on a table of keys that is empty at first. -/
def runCalls {ι : Type*} [DecidableEq ι] (env : Auth.Env) (calls : ι → Call) (world : Auth.World)
    (schedule : List ι) : System ι Call Db :=
  Trace.run (System.step (stmt env)) ⟨calls, ⟨world, .empty⟩⟩ schedule

/-- The calls of a small installation find one role, that may read e-mails of the team. -/
def sampleRoles : RoleTable where
  roles
    | .org => []
    | .team => [⟨"member", 1, ["team.emails.view"]⟩]
  unique := by
    intro scope
    cases scope <;> decide

/-! ## Authentication -/

/-- The middleware for a token that is taken for an API key. -/
def authenticate (env : Auth.Env) (now : Nat) (db : Db) (token : Bytes) (remoteIP : Bytes) :
    Except HttpError UserContext :=
  match db.getByHash (env.hash token) with
  | none => .error (Auth.unauthorized "invalid API key")
  | some key =>
    if key.expiresAt.any (· < now) then .error (Auth.unauthorized "API key expired")
    else if key.revokedAt.isSome then .error (Auth.unauthorized "API key revoked")
    else if !key.isActive then .error (Auth.unauthorized "API key disabled")
    else if !key.allowedIPs.isEmpty && !Auth.ipAllowed remoteIP key.allowedIPs then
      .error (forbidden "IP not allowed for this API key")
    else
      match db.world.users.find? (key.createdBy.getD uuidNil) with
      | none => .error (Auth.unauthorized "API key user not found")
      | some user => .ok ⟨user.id, user.email, user.displayName, false, some key.scopes⟩

end BurnerByte.ApiKeys
