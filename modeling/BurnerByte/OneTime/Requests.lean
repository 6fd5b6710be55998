import BurnerByte.Account.PendingLogins
import BurnerByte.Core.Custody
import BurnerByte.Go.Duration
import BurnerByte.Sso.State

/-!
# Credentials for one use

Six credentials are good for one request. Four are records in Redis that expire by themselves,
and a request reads and deletes its record by one command. Two are rows of PostgreSQL with the hash
of the token, which a request marks as used. A password is reset by statements of their own, an
e-mail address is verified in a transaction: its row stays locked until it ends, and other
statements wait for it. Requests that are refused before they reach the store are left out.

What a request does once its credential is accepted is arbitrary. It may fail, and what it has done
by then stays, unless it is done in the transaction.
-/

namespace BurnerByte.OneTime

open Go Sql Expiring Interleaving

/-! ## Stores -/

/-- The one-time records in Redis. -/
inductive Kind where
  | pendingLogin
  | ssoState
  | ssoCode
  | wsTicket
  deriving DecidableEq

structure SSOCodeData where
  accessToken : String
  refreshToken : String
  userID : UUID

/-- What Redis keeps. The keys of each kind have a prefix of their own. -/
def Kind.Record : Kind → Type
  | .pendingLogin => Account.PendingLogin
  | .ssoState => Sso.SSOStateData
  | .ssoCode => SSOCodeData
  | .wsTicket => UUID

inductive TokenTable where
  | passwordReset
  | emailVerification
  deriving DecidableEq

structure Token where
  id : UUID
  userID : UUID
  tokenHash : String
  expiresAt : Int
  usedAt : Option Int
  /-- Whether a transaction that has not ended has updated the row. -/
  locked : Bool

/-- A credential, named by the key in Redis or by the hash in the table. -/
inductive Credential where
  | redis (kind : Kind) (token : String)
  | sql (table : TokenTable) (tokenHash : String)
  deriving DecidableEq

structure Db (ω : Type) where
  now : Int
  redis : (kind : Kind) → Store String kind.Record
  tokens : TokenTable → Table Token UUID Token.id
  users : List UUID
  /-- Everything else. -/
  world : ω

/-- The lifetimes, and the hash of a token. -/
structure Config where
  redisTTL : Kind → Int
  passwordResetTTL : Int
  emailVerificationTTL : Int
  hashToken : String → String

namespace Config

/-- The store of SSO states does not take a lifetime that is not positive. -/
def ttl (cfg : Config) (kind : Kind) : Int :=
  if kind = .ssoState ∧ cfg.redisTTL kind ≤ 0 then 10 * 60 * 1000000000 else cfg.redisTTL kind

def tokenTTL (cfg : Config) : TokenTable → Int
  | .passwordReset => if cfg.passwordResetTTL ≤ 0 then hour else cfg.passwordResetTTL
  | .emailVerification =>
    if cfg.emailVerificationTTL ≤ 0 then 24 * hour else cfg.emailVerificationTTL

end Config

/-! ## Statements -/

/-- When a key that is set with the lifetime expires. -/
def deadline (now ttl : Int) : Option Int := if 0 < ttl then some (now + ttl) else none

/-- The condition of `Consume`. -/
def Token.consumable (tokenHash : String) (now : Int) (t : Token) : Bool :=
  decide (t.tokenHash = tokenHash) && t.usedAt.isNone && decide (now < t.expiresAt)

def Token.use (now : Int) (t : Token) : Token := { t with usedAt := some now }

def Token.lock (t : Token) : Token := { t with locked := true }

def Token.unlock (t : Token) : Token := { t with locked := false }

/-- The row once the transaction that has used it is committed. -/
def Token.commit (begun : Int) (t : Token) : Token := (t.use begun).unlock

/-- The rows that a transaction has updated. No other transaction has locked a row with the hash:
it would have waited. -/
def Token.held (tokenHash : String) (t : Token) : Bool :=
  decide (t.tokenHash = tokenHash) && t.locked

namespace Db

variable {ω : Type}

section

variable (db : Db ω) (kind : Kind) (table : TokenTable)

def setRedis (store : Store String kind.Record) : Db ω :=
  { db with redis := Function.update db.redis kind store }

def setTokens (tokens : Table Token UUID Token.id) : Db ω :=
  { db with tokens := Function.update db.tokens table tokens }

/-- A statement on the rows has to wait. -/
def waits (p : Token → Bool) : Bool :=
  (db.tokens table).rows.any fun t => p t && t.locked

/-- Redis's `SET`. -/
def set (token : String) (record : kind.Record) (ttl : Int) : Db ω :=
  db.setRedis kind ((db.redis kind).set token record (deadline db.now ttl))

/-- Redis's `GETDEL`. -/
def getDel (token : String) : Option kind.Record × Db ω :=
  ((db.redis kind).get db.now token, db.setRedis kind ((db.redis kind).del token))

/-- Insert a row. In the table of verifications, the hash of an unused row is unique. -/
def create (t : Token) : Option (Db ω) :=
  if table = .emailVerification ∧ ∃ old ∈ db.tokens table, old.tokenHash = t.tokenHash ∧
      old.usedAt = none then none
  else if t.userID ∉ db.users then none
  else ((db.tokens table).insert t).map (db.setTokens table)

/-- Mark rows as used. -/
def useWhere (p : Token → Bool) : Db ω :=
  db.setTokens table ((db.tokens table).updateWhere p (Token.use db.now) fun _ => rfl)

def lockWhere (p : Token → Bool) : Db ω :=
  db.setTokens table ((db.tokens table).updateWhere p Token.lock fun _ => rfl)

def unlockWhere (p : Token → Bool) : Db ω :=
  db.setTokens table ((db.tokens table).updateWhere p Token.unlock fun _ => rfl)

def deleteWhere (p : Token → Bool) : Db ω :=
  db.setTokens table ((db.tokens table).deleteWhere p)

end

end Db

/-! ## Requests -/

variable {ω : Type}

/-- A request before one of its statements, or after the last. A request that issues a credential
has drawn it. -/
inductive Call (ω : Type) where
  | store (kind : Kind) (token : String) (record : kind.Record)
  | forgotPassword (userID : UUID) (token : String) (id : UUID)
  | register (userID : UUID) (token : String) (id : UUID)
  /-- The row of the token is about to be inserted. -/
  | creating (table : TokenTable) (t : Token)
  | issued (cred : Credential) (expiresAt : Option Int)
  | consume (kind : Kind) (token : String) (act : kind.Record → ω → Option String × ω)
  | resetPassword (token : String) (act : Token → ω → Option String × ω)
  | verifyEmail (token : String) (act : Token → ω → Except String ω)
  /-- The transaction has begun at a time, which is its `now()`. -/
  | verifying (token : String) (act : Token → ω → Except String ω) (begun : Int)
  /-- The transaction has updated the row. -/
  | verified (t : Token) (act : ω → Except String ω) (begun : Int)
  /-- The transaction is committed. -/
  | invalidating (cred : Credential) (userID : UUID)
  /-- The credential is consumed. -/
  | accepted (cred : Credential) (act : ω → Option String × ω)
  /-- The request has done its work, or has failed in it. -/
  | honoured (cred : Credential) (err : Option String)
  | refused (msg : String)
  | peek (token : String)
  | shown (login : Account.PendingLogin)
  | deleteExpired (table : TokenTable)
  | deleteUser (userID : UUID)
  | tick (elapsed : Nat)
  | done

/-- A request with a ticket in place of a token. -/
def Call.withTicket (ticket : String) (act : UUID → ω → Option String × ω) : Call ω :=
  .consume .wsTicket ticket act

/-- What the requests with a record in Redis are refused with. -/
def Kind.refusal : Kind → String
  | .pendingLogin => "invalid or expired pending login token"
  | .ssoState => "invalid or expired state"
  | .ssoCode => "invalid or expired code"
  | .wsTicket => "invalid or expired ticket"

section

variable (cfg : Config)

/-- The row of a token that is issued now. -/
def newToken (db : Db ω) (table : TokenTable) (userID : UUID) (token : String) (id : UUID) :
    Token where
  id := id
  userID := userID
  tokenHash := cfg.hashToken token
  expiresAt := db.now + cfg.tokenTTL table
  usedAt := none
  locked := false

/-- Unused rows of a user, which `InvalidateForUser` marks as used. -/
def Token.unusedOf (userID : UUID) (t : Token) : Bool :=
  decide (t.userID = userID) && t.usedAt.isNone

/-- A statement on rows of a table: the call waits for other transactions, or goes on. -/
def unlessWaiting (db : Db ω) (table : TokenTable) (p : Token → Bool) (call : Call ω)
    (next : Call ω × Db ω) : Call ω × Db ω :=
  if db.waits table p then (call, db) else next

def stmt : Call ω → Db ω → Call ω × Db ω
  | .store kind token record, db =>
    (.issued (.redis kind token) (deadline db.now (cfg.ttl kind)),
      db.set kind token record (cfg.ttl kind))
  | .forgotPassword userID token id, db =>
    unlessWaiting db .passwordReset (Token.unusedOf userID) (.forgotPassword userID token id)
      (.creating .passwordReset (newToken cfg db .passwordReset userID token id),
        db.useWhere .passwordReset (Token.unusedOf userID))
  | .register userID token id, db =>
    (.creating .emailVerification (newToken cfg db .emailVerification userID token id),
      { db with users := userID :: db.users })
  | .creating table t, db =>
    match db.create table t with
    | none => (.done, db)
    | some db' => (.issued (.sql table t.tokenHash) (some t.expiresAt), db')
  | .consume kind token act, db =>
    match db.getDel kind token with
    | (none, db') => (.refused kind.refusal, db')
    | (some record, db') => (.accepted (.redis kind token) (act record), db')
  | .resetPassword token act, db =>
    let p := Token.consumable (cfg.hashToken token) db.now
    unlessWaiting db .passwordReset p (.resetPassword token act)
      (match (db.tokens .passwordReset).rows.find? p with
      | none => (.refused "invalid or expired reset token", db)
      | some t =>
        (.accepted (.sql .passwordReset (cfg.hashToken token)) (act t),
          db.useWhere .passwordReset p))
  | .verifyEmail token act, db => (.verifying token act db.now, db)
  | .verifying token act begun, db =>
    let p := Token.consumable (cfg.hashToken token) begun
    unlessWaiting db .emailVerification p (.verifying token act begun)
      (match (db.tokens .emailVerification).rows.find? p with
      | none => (.refused "invalid or expired verification link", db)
      | some t => (.verified t (act t) begun, db.lockWhere .emailVerification p))
  | .verified t act begun, db =>
    match act db.world with
    | .error msg => (.refused msg, db.unlockWhere .emailVerification (Token.held t.tokenHash))
    | .ok world =>
      (.invalidating (.sql .emailVerification t.tokenHash) t.userID,
        { db.setTokens .emailVerification ((db.tokens .emailVerification).updateWhere
            (Token.held t.tokenHash) (Token.commit begun) fun _ => rfl)
          with world })
  | .invalidating cred userID, db =>
    unlessWaiting db .emailVerification (Token.unusedOf userID) (.invalidating cred userID)
      (.honoured cred none, db.useWhere .emailVerification (Token.unusedOf userID))
  | .accepted cred act, db =>
    (.honoured cred (act db.world).1, { db with world := (act db.world).2 })
  | .peek token, db =>
    match (db.redis .pendingLogin).get db.now token with
    | none => (.refused Kind.pendingLogin.refusal, db)
    | some login => (.shown login, db)
  | .deleteExpired table, db =>
    unlessWaiting db table (fun t => decide (t.expiresAt < db.now)) (.deleteExpired table)
      (.done, db.deleteWhere table fun t => decide (t.expiresAt < db.now))
  | .deleteUser userID, db =>
    if db.waits .passwordReset (fun t => decide (t.userID = userID)) ||
        db.waits .emailVerification (fun t => decide (t.userID = userID)) then
      (.deleteUser userID, db)
    else
      (.done,
        { (db.deleteWhere .passwordReset fun t => decide (t.userID = userID)).deleteWhere
            .emailVerification (fun t => decide (t.userID = userID))
          with users := db.users.filter (· ≠ userID) })
  | .tick elapsed, db => (.tick elapsed, { db with now := db.now + elapsed })
  | .issued cred expiresAt, db => (.issued cred expiresAt, db)
  | .honoured cred err, db => (.honoured cred err, db)
  | .refused msg, db => (.refused msg, db)
  | .shown login, db => (.shown login, db)
  | .done, db => (.done, db)

/-- The credential that a request presents. -/
def Call.presents : Call ω → Option Credential
  | .consume kind token _ => some (.redis kind token)
  | .resetPassword token _ => some (.sql .passwordReset (cfg.hashToken token))
  | .verifyEmail token _ => some (.sql .emailVerification (cfg.hashToken token))
  | _ => none

/-- The credential that a request is going to issue. -/
def Call.issues : Call ω → Option Credential
  | .store kind token _ => some (.redis kind token)
  | .forgotPassword _ token _ => some (.sql .passwordReset (cfg.hashToken token))
  | .register _ token _ => some (.sql .emailVerification (cfg.hashToken token))
  | .creating table t => some (.sql table t.tokenHash)
  | _ => none

end

/-- The credential has had its effect. A verification has it once its transaction is committed. -/
def Call.isHonoured : Call ω → Bool
  | .honoured _ _ | .invalidating _ _ => true
  | _ => false

/-- A request that has not executed a statement. -/
def Call.isFresh : Call ω → Bool
  | .store _ _ _ | .forgotPassword _ _ _ | .register _ _ _ | .consume _ _ _ | .resetPassword _ _
  | .verifyEmail _ _ | .peek _ | .deleteExpired _ | .deleteUser _ | .tick _ => true
  | _ => false

/-- Concurrent requests after a schedule of statements, on stores that are empty at first. -/
def runCalls {ι : Type*} [DecidableEq ι] (cfg : Config) (calls : ι → Call ω) (users : List UUID)
    (world : ω) (schedule : List ι) : System ι (Call ω) (Db ω) :=
  Trace.run (System.step (stmt cfg))
    ⟨calls, ⟨0, fun _ => .empty, fun _ => .empty, users, world⟩⟩ schedule

end BurnerByte.OneTime
