import BurnerByte.Account.Accounts
import BurnerByte.Account.Sessions
import BurnerByte.Core.Trace
import BurnerByte.Go.Strings

/-!
# The state of the authentication service

Users, sessions and linked SSO identities are in the database. The times at which a
user's sessions were revoked are in Redis, from where they vanish after the lifetime
of an access token. What a request does to this state is a sequence of effects, one
for each statement that it executes successfully.
-/

namespace BurnerByte.Account

open Go Sql

structure Identity where
  provider : String
  subject : String
  userID : UUID

structure Service where
  accounts : Accounts
  sessions : Table Session UUID Session.id
  identities : List Identity := []
  /-- When `MarkRevoked` was last executed for a user. -/
  marks : UUID → Option Nat := fun _ => none
  setupCompleted : Bool

/-- The sessions with the users they belong to. -/
def Service.db (svc : Service) : Sessions := ⟨svc.sessions, svc.accounts.getByID⟩

/-! ## Access tokens -/

/-- The claims of an access token. Its times are whole seconds. -/
structure AccessClaims where
  subject : UUID
  email : String
  isSystemAdmin : Bool
  issuedAt : Nat
  expiresAt : Nat

/-- The lifetimes, and the signature of the library. -/
structure TokenManager where
  accessTTL : Nat
  refreshTTL : Nat
  sign : AccessClaims → Bytes

/-- A time without its fraction of a second, as `jwt.NewNumericDate` keeps it. -/
def numericDate (time : Nat) : Nat := time / 1000000000 * 1000000000

def TokenManager.claims (tokens : TokenManager) (now : Nat) (id : UUID) (user : User) :
    AccessClaims where
  subject := id
  email := user.email
  isSystemAdmin := user.isSystemAdmin
  issuedAt := numericDate now
  expiresAt := numericDate (now + tokens.accessTTL)

def TokenManager.generateAccessToken (tokens : TokenManager) (now : Nat) (id : UUID)
    (user : User) : Bytes := tokens.sign (tokens.claims now id user)

/-- The tokens of an answer. The refresh token is known by its hash. -/
structure TokenPair where
  accessToken : Bytes
  refreshHash : String
  deriving DecidableEq

structure Config where
  env : Env
  tokens : TokenManager
  casing : Casing
  allowRegistration : Bool
  maxSessionsPerUser : Int
  /-- Whether the database executes a locking query with a window function; one that
  does not answers `RevokeOldestExceeding` with an error, which is logged. -/
  locksWindows : Bool

/-! ## Effects -/

inductive Effect where
  | revoke (p : Session → Bool)
  | insertSession (session : Session)
  | deleteExpired (now : Nat)
  | insertUser (id : UUID) (user : User)
  | updateUser (id : UUID) (user : User)
  | markRevoked (userID : UUID) (now : Nat)
  | link (identity : Identity)
  | completeSetup

namespace Service

section

variable (svc : Service)

def revokeWhere (p : Session → Bool) : Service :=
  { svc with sessions := (svc.db.revokeWhere p).sessions }

def insertSession (session : Session) : Except String Service :=
  match svc.sessions.insert session with
  | none => .error "create session: duplicate key value"
  | some sessions => .ok { svc with sessions }

def deleteExpired (now : Nat) : Service :=
  { svc with sessions := svc.sessions.deleteWhere fun s => s.expiresAt < now }

def insertUser (id : UUID) (user : User) : Except RepoError Service :=
  (svc.accounts.create id user).map fun accounts => { svc with accounts }

def updateUser (id : UUID) (user : User) : Service :=
  { svc with accounts := svc.accounts.update id user }

def markRevoked (userID : UUID) (now : Nat) : Service :=
  { svc with marks := fun id => if id = userID then some now else svc.marks id }

def findIdentity (provider subject : String) : Option Identity :=
  svc.identities.find? fun i => i.provider = provider && i.subject = subject

/-- A conflict with a linked identity is ignored. -/
def link (identity : Identity) : Service :=
  match svc.findIdentity identity.provider identity.subject with
  | some _ => svc
  | none => { svc with identities := identity :: svc.identities }

/-- A statement that fails changes nothing. -/
def apply : Effect → Service
  | .revoke p => svc.revokeWhere p
  | .insertSession session => (svc.insertSession session).toOption.getD svc
  | .deleteExpired now => svc.deleteExpired now
  | .insertUser id user => (svc.insertUser id user).toOption.getD svc
  | .updateUser id user => svc.updateUser id user
  | .markRevoked userID now => svc.markRevoked userID now
  | .link identity => svc.link identity
  | .completeSetup => { svc with setupCompleted := true }

end

end Service

/-! ## A small service -/

/-- Numbers in unary, each closed by a zero. -/
def unary (numbers : List Nat) : Bytes :=
  numbers.flatMap fun n => List.replicate n 1 ++ [0]

/-- A token that spells its claims out and has no signature. -/
def spellClaims (claims : AccessClaims) : Bytes :=
  unary ([claims.subject, claims.isSystemAdmin.toNat, claims.issuedAt, claims.expiresAt] ++
    claims.email.toList.map Char.toNat)

/-- Passwords of at least eight bytes, which are kept behind a mark. -/
def samplePolicy : Env where
  checkPassword hash password := hash = "hash:" ++ password
  hashPassword password := .ok ("hash:" ++ password)
  validatePassword password :=
    if password.utf8ByteSize < 8 then .error "password must be at least 8 characters" else .ok ()
  requireEmailVerification := false
  enforceSSOForSystemAdmins := false

/-- Access tokens live for fifteen minutes, refresh tokens for a week. -/
def sampleConfig : Config where
  env := samplePolicy
  tokens := ⟨900 * 1000000000, 604800 * 1000000000, spellClaims⟩
  casing := .ascii
  allowRegistration := true
  maxSessionsPerUser := 5
  locksWindows := false

/-- User 1 has one session. -/
def sampleService : Service where
  accounts := ⟨⟨[⟨1, sampleUser⟩], by decide⟩, by decide, by decide⟩
  sessions := sampleSessions.sessions
  setupCompleted := true

end BurnerByte.Account
