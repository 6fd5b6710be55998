import BurnerByte.Account.Users
import BurnerByte.Basic
import BurnerByte.Core.Table

/-!
# Refreshing a session

A refresh token belongs to a session, and the sessions that follow one another by
refreshing form a family. `Refresh` executes its database statements one by one and
outside a transaction: it looks the session up, revokes it, reads the user and
creates the next session of the family. A token whose session is revoked already is
taken for stolen, and its family is revoked.
-/

namespace BurnerByte.Account

open Sql

structure Session where
  id : UUID
  userID : UUID
  refreshTokenHash : String
  tokenFamily : UUID
  /-- Present for sessions of an SSO login. -/
  ssoProviderName : Option String
  expiresAt : Nat
  revoked : Bool
  deriving DecidableEq

structure Sessions where
  sessions : Table Session UUID Session.id
  users : UUID → Option User

/-! ## Statements -/

section

variable (input : RefreshInput) (session : Session) (db : Sessions)

/-- Revoke the sessions that satisfy a condition. -/
def Sessions.revokeWhere (p : Session → Bool) : Sessions :=
  { db with
    sessions := db.sessions.updateWhere p (fun s => { s with revoked := true }) fun _ => rfl }

def Sessions.revoke (id : UUID) : Sessions := db.revokeWhere fun s => s.id = id

def Sessions.revokeByFamily (family : UUID) : Sessions :=
  db.revokeWhere fun s => s.tokenFamily = family

def Sessions.revokeAll (userID : UUID) : Sessions :=
  db.revokeWhere fun s => s.userID = userID && !s.revoked

/-- The number of sessions that `revokeAll` changes. -/
def Sessions.revokeAllCount (userID : UUID) : Nat :=
  db.sessions.rows.countP fun s => s.userID = userID && !s.revoked

/-- Some row with the hash; the column is not unique. -/
def Sessions.getByTokenHash (hash : String) : Option Session :=
  db.sessions.rows.find? fun s => s.refreshTokenHash = hash

/-- The session's sign-in method must be the one the user is locked to. -/
def checkSessionAuthMethodLock (user : User) (session : Session) : Except String Unit :=
  match user.authMethodLock with
  | none => .ok ()
  | some lock =>
    if lock = "sso" && session.ssoProviderName.isNone then
      .error "session does not match auth method lock"
    else if lock = "password" && session.ssoProviderName.isSome then
      .error "session does not match auth method lock"
    else .ok ()

/-! ## Calls -/

/-- A call of `Refresh`: the token's hash, the times of its checks, and the random
values for the next session. -/
structure RefreshInput where
  tokenHash : String
  now : Nat
  newID : UUID
  newHash : String
  newExpiresAt : Nat

/-- The next session of the family, which carries the sign-in method forward. -/
def RefreshInput.newSession : Session where
  id := input.newID
  userID := session.userID
  refreshTokenHash := input.newHash
  tokenFamily := session.tokenFamily
  ssoProviderName := session.ssoProviderName
  expiresAt := input.newExpiresAt
  revoked := false

/-- A session, and the call that has replaced it. -/
structure Exchange where
  old : Session
  input : RefreshInput

def Exchange.new (exchange : Exchange) : Session := exchange.input.newSession exchange.old

/-- Where a call stands, named after the statement it executes next. -/
inductive Refresh where
  | lookup (input : RefreshInput)
  | revokeFamily (session : Session)
  | revoke (input : RefreshInput) (session : Session)
  | getUser (input : RefreshInput) (session : Session)
  | revokeAgain (session : Session) (err : String)
  | create (input : RefreshInput) (session : Session)
  | done (result : Except String Exchange)

def Refresh.afterLookup : Option Session → Refresh
  | none => .done (.error "invalid refresh token")
  | some session =>
    if session.revoked then .revokeFamily session
    else if session.expiresAt < input.now then .done (.error "refresh token expired")
    else .revoke input session

def Refresh.afterGetUser : Option User → Refresh
  | none => .done (.error RepoError.notFound.message)
  | some user =>
    match checkSessionAuthMethodLock user session with
    | .error err => .revokeAgain session err
    | .ok () => .create input session

end

/-- Execute the next statement of a call. -/
def Refresh.stmt : Refresh → Sessions → Refresh × Sessions
  | .lookup input, db => (afterLookup input (db.getByTokenHash input.tokenHash), db)
  | .revokeFamily session, db =>
    (.done (.error "refresh token reused — all sessions revoked"),
      db.revokeByFamily session.tokenFamily)
  | .revoke input session, db => (.getUser input session, db.revoke session.id)
  | .getUser input session, db => (afterGetUser input session (db.users session.userID), db)
  | .revokeAgain session err, db => (.done (.error err), db.revoke session.id)
  | .create input session, db =>
    match db.sessions.insert (input.newSession session) with
    | none => (.done (.error "create session: duplicate key value"), db)
    | some sessions => (.done (.ok ⟨session, input⟩), { db with sessions })
  | .done result, db => (.done result, db)

/-! ## What a statement does to the sessions -/

variable {db : Sessions} {p : Session → Bool} {s : Session}

theorem mem_revokeWhere :
    s ∈ (db.revokeWhere p).sessions ↔
      ∃ old ∈ db.sessions, (if p old then { old with revoked := true } else old) = s := by
  unfold Sessions.revokeWhere
  rw [Table.mem_updateWhere]

/-- Revoking leaves fewer unrevoked sessions. -/
theorem unrevoked_of_revokeWhere (h : s ∈ (db.revokeWhere p).sessions) (hlive : s.revoked = false) :
    s ∈ db.sessions ∧ p s = false := by
  obtain ⟨old, hold, rfl⟩ := mem_revokeWhere.mp h
  split at hlive
  · cases hlive
  rename_i hp
  rw [if_neg hp]
  exact ⟨hold, by simpa using hp⟩

/-- User 1 has one session. -/
def sampleSessions : Sessions where
  sessions := ⟨[⟨1, 1, "h1", 7, none, 1000, false⟩], by decide⟩
  users := fun id => if id = 1 then some sampleUser else none

end BurnerByte.Account
