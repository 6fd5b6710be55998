import BurnerByte.Core.Table
import BurnerByte.Go.IPText
import BurnerByte.Handler.Checks

/-!
# The authentication middleware

A request authenticates with a one-time ticket, with an API key or with an access
token. The middleware tries them in this order and attaches a `UserContext`. Only
the context of an API key carries scopes; the other two carry the user's own
rights. A ticket is stored with the user's id and nothing else.
-/

namespace BurnerByte.Auth

open Go Sql Handler Rbac

structure User where
  id : UUID
  email : String
  displayName : String
  isSystemAdmin : Bool
  passwordChangedAt : Option Nat

/-- An API key. `Generate` asks for at least one scope and `Update` never clears
them, so a key without scopes does not exist. -/
structure APIKey where
  id : UUID
  teamID : UUID
  /-- Null once the creator is deleted. -/
  createdBy : Option UUID
  keyHash : String
  scopes : List String
  scopes_ne : scopes ≠ []
  isActive : Bool
  allowedIPs : List String
  expiresAt : Option Nat
  revokedAt : Option Nat
  deriving DecidableEq

/-- A one-time ticket in Redis. -/
structure Ticket where
  ticket : Bytes
  userID : UUID
  expiresAt : Nat

structure Claims where
  /-- The subject, if it is an identifier. -/
  subject : Option UUID
  email : String
  issuedAt : Option Nat

/-- What requests read besides keys and tickets: users, their roles, and the times
at which their sessions were revoked. -/
structure World where
  users : Table User UUID User.id
  checker : Checker
  revokedAt : UUID → Nat

structure State where
  world : World
  keys : Table APIKey UUID APIKey.id
  tickets : List Ticket

/-- The settings, and what the code takes from libraries: hashing, the verification of
signed tokens, and the parser of times. -/
structure Env where
  allowTokenQueryParam : Bool
  hash : Bytes → String
  validateAccessToken : Nat → Bytes → Option Claims
  parseTime : String → Except String Nat
  scopesProvider : List String

/-- Where a request carries credentials: two query parameters and a header. -/
structure Credentials where
  ticket : Bytes
  authorization : Bytes
  token : Bytes
  remoteIP : Bytes

/-- Seconds of a time, which is counted in nanoseconds. -/
def unix (time : Nat) : Nat := time / 1000000000

def unauthorized (message : String) : HttpError := ⟨401, message⟩

/-! ## Tickets -/

/-- The time for which a ticket is kept, 30 seconds. -/
def ticketTTL : Nat := 30 * 1000000000

def setTicket (tickets : List Ticket) (t : Ticket) : List Ticket :=
  t :: tickets.filter fun old => old.ticket ≠ t.ticket

def liveTicket (now : Nat) (tickets : List Ticket) (ticket : Bytes) : Option Ticket :=
  tickets.find? fun t => t.ticket = ticket && decide (now < t.expiresAt)

/-- Look a ticket up and delete it. -/
def resolve (now : Nat) (tickets : List Ticket) (ticket : Bytes) : Option UUID × List Ticket :=
  ((liveTicket now tickets ticket).map Ticket.userID, tickets.filter fun t => t.ticket ≠ ticket)

/-! ## Headers -/

def asciiLower (b : UInt8) : UInt8 := if 65 ≤ b ∧ b ≤ 90 then b + 32 else b

/-- The test `strings.EqualFold(s, "bearer")`. No letter of the word has another folding than
its ASCII one. -/
def isBearer (s : Bytes) : Bool := s.map asciiLower = lit "bearer"

/-- The header, or what replaces it when it is missing. -/
def authorizationHeader (env : Env) (c : Credentials) : Bytes :=
  if c.authorization = [] ∧ env.allowTokenQueryParam ∧ c.token ≠ [] then lit "Bearer " ++ c.token
  else c.authorization

def bearerToken (header : Bytes) : Option Bytes :=
  match splitN2 header (lit " ") with
  | [scheme, token] => if isBearer scheme then some token else none
  | _ => none

/-- The token that a request presents. -/
def Credentials.bearer (env : Env) (c : Credentials) : Option Bytes :=
  bearerToken (authorizationHeader env c)

/-- The tokens that are taken for API keys. -/
def isKeyToken (token : Bytes) : Bool := hasPrefix token (lit "bb_")

/-! ## Authentication -/

section

variable (env : Env) (now : Nat)

def ipAllowed (ip : Bytes) (allowedIPs : List String) : Bool :=
  match parseIP ip with
  | none => false
  | some parsedIP =>
    allowedIPs.any fun entry =>
      match parseIP (lit entry) with
      | some entryIP => entryIP = parsedIP
      | none =>
        match parseCIDR (lit entry) with
        | some cidr => cidr.contains parsedIP
        | none => false

/-- The row with a hash. The column is indexed but not unique. -/
def State.getByHash (s : State) (keyHash : String) : Option APIKey :=
  s.keys.rows.find? fun key => key.keyHash = keyHash

def ticketContext (s : State) (userID : Option UUID) : Except HttpError UserContext :=
  match userID with
  | none => .error (unauthorized "invalid or expired ticket")
  | some userID =>
    match s.world.users.find? userID with
    | none => .error (unauthorized "user not found")
    | some user => .ok ⟨user.id, user.email, user.displayName, user.isSystemAdmin, none⟩

/-- An API key never grants system admin, and carries its scopes. -/
def keyContext (s : State) (token : Bytes) (remoteIP : Bytes) : Except HttpError UserContext :=
  match s.getByHash (env.hash token) with
  | none => .error (unauthorized "invalid API key")
  | some key =>
    if key.expiresAt.any (· < now) then .error (unauthorized "API key expired")
    else if key.revokedAt.isSome then .error (unauthorized "API key revoked")
    else if !key.isActive then .error (unauthorized "API key disabled")
    else if !key.allowedIPs.isEmpty && !ipAllowed remoteIP key.allowedIPs then
      .error (forbidden "IP not allowed for this API key")
    else
      match s.world.users.find? (key.createdBy.getD uuidNil) with
      | none => .error (unauthorized "API key user not found")
      | some user => .ok ⟨user.id, user.email, user.displayName, false, some key.scopes⟩

/-- The admin flag comes from the row, not from the token's claims. -/
def tokenContext (s : State) (token : Bytes) : Except HttpError UserContext :=
  match env.validateAccessToken now token with
  | none => .error (unauthorized "invalid or expired token")
  | some claims =>
    match claims.subject with
    | none => .error (unauthorized "invalid token subject")
    | some userID =>
      match s.world.users.find? userID with
      | none => .error (unauthorized "user not found")
      | some user =>
        match claims.issuedAt, user.passwordChangedAt with
        | some issuedAt, some changedAt =>
          if issuedAt < changedAt then
            .error (unauthorized "token invalidated by password change")
          else if unix issuedAt < s.world.revokedAt userID then
            .error (unauthorized "session revoked")
          else .ok ⟨userID, claims.email, user.displayName, user.isSystemAdmin, none⟩
        | some issuedAt, none =>
          if unix issuedAt < s.world.revokedAt userID then
            .error (unauthorized "session revoked")
          else .ok ⟨userID, claims.email, user.displayName, user.isSystemAdmin, none⟩
        | none, _ => .ok ⟨userID, claims.email, user.displayName, user.isSystemAdmin, none⟩

def headerContext (s : State) (c : Credentials) : Except HttpError UserContext :=
  if authorizationHeader env c = [] then .error (unauthorized "missing authorization header")
  else
    match c.bearer env with
    | none => .error (unauthorized "invalid authorization format")
    | some token =>
      if isKeyToken token then keyContext env now s token c.remoteIP
      else tokenContext env now s token

/-- The context of a request. A ticket is used up even if its user is gone. -/
def middleware (s : State) (c : Credentials) : Except HttpError UserContext × State :=
  if c.ticket ≠ [] then
    let (userID, tickets) := resolve now s.tickets c.ticket
    (ticketContext s userID, { s with tickets })
  else (headerContext env now s c, s)

/-- The middleware for routes behind `RequireSystemAdmin`. -/
def requireSystemAdmin (uc : UserContext) : Except HttpError Unit :=
  if uc.isSystemAdmin then .ok () else .error (forbidden "system admin required")

end

theorem middleware_keys (env : Env) (now : Nat) (s : State) (c : Credentials) :
    (middleware env now s c).2.keys = s.keys := by
  unfold middleware
  split <;> rfl

variable {env : Env} {now : Nat} {s : State} {uc : UserContext}

/-- A context made from a key is that of a row with the key's hash. -/
theorem keyContext_ok {token : Bytes} {remoteIP : Bytes}
    (h : keyContext env now s token remoteIP = .ok uc) :
    ∃ key ∈ s.keys, key.keyHash = env.hash token ∧ uc.isSystemAdmin = false ∧
      uc.apiKeyScopes = some key.scopes := by
  unfold keyContext at h
  split at h
  · cases h
  rename_i key hfind
  iterate 5
    split at h
    · cases h
  cases h
  exact ⟨key, List.mem_of_find?_eq_some hfind, by simpa using List.find?_some hfind, rfl, rfl⟩

/-- Without a live ticket and without a valid access token, a context can only come
from a key. -/
theorem middleware_ok {c : Credentials}
    (hticket : c.ticket ≠ [] → liveTicket now s.tickets c.ticket = none)
    (htoken : ∀ token, c.bearer env = some token → isKeyToken token = false →
      env.validateAccessToken now token = none)
    (h : (middleware env now s c).1 = .ok uc) :
    ∃ token, c.bearer env = some token ∧ isKeyToken token = true ∧
      keyContext env now s token c.remoteIP = .ok uc := by
  unfold middleware at h
  split at h
  · rename_i hsome
    dsimp only [resolve] at h
    rw [hticket hsome] at h
    cases h
  unfold headerContext at h
  split at h
  · cases h
  split at h
  · cases h
  rename_i token hbearer
  split at h
  · rename_i hkey
    exact ⟨token, hbearer, hkey, h⟩
  rename_i hkey
  rw [tokenContext, htoken token hbearer (by simpa using hkey)] at h
  cases h

end BurnerByte.Auth
