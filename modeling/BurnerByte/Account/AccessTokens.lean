import BurnerByte.Account.Effects
import BurnerByte.Auth.Middleware

/-!
# Access tokens and the middleware

The middleware refuses an access token whose time of issue lies before the last change
of the password, or before the last revocation that was marked for the user. The three
times have different resolutions: a token's is a whole second, the column's a
microsecond, and a mark is the second in which it was made.
-/

namespace BurnerByte.Account

open Go Sql

/-- The part of the middleware's state that the authentication service does not write. -/
structure Others where
  checker : Rbac.Checker
  keys : Table Auth.APIKey UUID Auth.APIKey.id
  tickets : List Auth.Ticket

/-- When a key expires that is set in Redis with a lifetime. The client library sends whole
milliseconds, at least one, and no lifetime if there is none. -/
def redisDeadline (set ttl : Nat) : Option Nat :=
  if ttl = 0 then none
  else if ttl < 1000000 then some (set + 1000000)
  else some (set + ttl / 1000000 * 1000000)

/-- The second of the last marked revocation, or zero. -/
def Service.revokedAt (svc : Service) (ttl now : Nat) (userID : UUID) : Nat :=
  match svc.marks userID with
  | none => 0
  | some set => if (redisDeadline set ttl).all (now < ·) then Auth.unix set else 0

def UserRow.toAuth (row : UserRow) : Auth.User :=
  ⟨row.id, row.user.email, row.user.displayName, row.user.isSystemAdmin, row.user.passwordChangedAt⟩

def Accounts.toAuth (accounts : Accounts) : Table Auth.User UUID Auth.User.id where
  rows := accounts.table.rows.map UserRow.toAuth
  unique := by
    rw [List.map_map]
    exact accounts.table.unique

/-- What the middleware reads at a time. -/
def Service.authState (svc : Service) (cfg : Config) (now : Nat) (others : Others) :
    Auth.State where
  world := ⟨svc.accounts.toAuth, others.checker, svc.revokedAt cfg.tokens.accessTTL now⟩
  keys := others.keys
  tickets := others.tickets

/-- A request with a token in its header. -/
def bearer (token : Bytes) : Auth.Credentials := ⟨[], lit "Bearer " ++ token, [], []⟩

def Service.Accepts (cfg : Config) (env : Auth.Env) (others : Others) (now : Nat) (token : Bytes)
    (svc : Service) : Prop :=
  ∃ uc, (Auth.middleware env now (svc.authState cfg now others) (bearer token)).1 = .ok uc

/-- What the library promises: a token that it has signed is valid until it expires, with
the claims it was signed for, and it does not look like an API key. -/
structure Verifies (env : Auth.Env) (tokens : TokenManager) : Prop where
  validate : ∀ now claims, env.validateAccessToken now (tokens.sign claims) =
    if now < claims.expiresAt then
      some ⟨some claims.subject, claims.email, some claims.issuedAt⟩
    else none
  notKey : ∀ claims, Auth.isKeyToken (tokens.sign claims) = false

/-! ## When the middleware accepts a token -/

section

variable {cfg : Config} {env : Auth.Env} {others : Others} {svc : Service} {now : Nat}

theorem toAuth_find? (accounts : Accounts) (id : UUID) :
    accounts.toAuth.find? id = (accounts.getByID id).map fun user => UserRow.toAuth ⟨id, user⟩ := by
  cases hfind : accounts.getByID id with
  | some user =>
    have hmem := Accounts.getByID_eq_some.mp hfind
    exact Table.find?_eq_some_iff.mpr ⟨List.mem_map.mpr ⟨_, hmem, rfl⟩, rfl⟩
  | none =>
    rw [Option.map_none, Option.eq_none_iff_forall_ne_some]
    intro found hfound
    obtain ⟨hmem, hid⟩ := Table.find?_eq_some_iff.mp hfound
    obtain ⟨row, hrow, rfl⟩ := List.mem_map.mp hmem
    obtain rfl : row.id = id := hid
    have hsome := Accounts.getByID_eq_some.mpr hrow
    rw [hfind] at hsome
    cases hsome

theorem bearerToken_bearer (token : Bytes) :
    Auth.bearerToken (lit "Bearer " ++ token) = some token := by
  have hheader : lit "Bearer " ++ token = lit "Bearer" ++ 32 :: token := by
    have hblank : lit "Bearer " = lit "Bearer" ++ [32] := by decide
    rfl
  have hscheme : Auth.isBearer (lit "Bearer") = true := by decide
  have hseparator : lit " " = [32] := by decide
  unfold Auth.bearerToken
  rw [hheader, hseparator, splitN2_append (by decide)]
  exact if_pos hscheme

/-- A signed token in the header is looked at as an access token. -/
theorem middleware_bearer {token : Bytes} (s : Auth.State) (hkey : Auth.isKeyToken token = false) :
    (Auth.middleware env now s (bearer token)).1 = Auth.tokenContext env now s token := by
  have hheader : Auth.authorizationHeader env (bearer token) = lit "Bearer " ++ token :=
    if_neg (by simp [bearer, lit])
  have hnonempty : lit "Bearer " ++ token ≠ [] := by simp [lit]
  unfold Auth.middleware
  simp only [Auth.headerContext, Auth.Credentials.bearer, hheader, bearerToken_bearer, hkey,
    if_neg hnonempty]
  rfl

/-- A valid token is accepted for a user whose password was not changed and whose sessions
were not revoked since. -/
theorem tokenContext_ok_iff {s : Auth.State} {token : Bytes} {userID : UUID} {email : String}
    {issuedAt : Nat}
    (hvalid : env.validateAccessToken now token = some ⟨some userID, email, some issuedAt⟩) :
    (∃ uc, Auth.tokenContext env now s token = .ok uc) ↔
      ∃ user, s.world.users.find? userID = some user ∧
        (∀ changedAt ∈ user.passwordChangedAt, changedAt ≤ issuedAt) ∧
        s.world.revokedAt userID ≤ Auth.unix issuedAt := by
  unfold Auth.tokenContext
  rw [hvalid]
  dsimp only
  cases s.world.users.find? userID with
  | none => simp
  | some user =>
    simp only [Option.some.injEq, exists_eq_left']
    cases user.passwordChangedAt with
    | _ =>
      simp only [Outcome.guard_eq_ok, exists_and_left, Nat.not_lt]
      simp

theorem accepts_iff (hverifies : Verifies env cfg.tokens) (claims : AccessClaims) :
    svc.Accepts cfg env others now (cfg.tokens.sign claims) ↔
      now < claims.expiresAt ∧
        ∃ user, svc.accounts.getByID claims.subject = some user ∧
          (∀ changedAt ∈ user.passwordChangedAt, changedAt ≤ claims.issuedAt) ∧
          svc.revokedAt cfg.tokens.accessTTL now claims.subject ≤ Auth.unix claims.issuedAt := by
  unfold Service.Accepts
  rw [middleware_bearer _ (hverifies.notKey claims)]
  have hvalidate := hverifies.validate now claims
  by_cases hlive : now < claims.expiresAt
  · rw [if_pos hlive] at hvalidate
    have husers : (svc.authState cfg now others).world.users = svc.accounts.toAuth := rfl
    rw [tokenContext_ok_iff hvalidate, husers, toAuth_find?]
    simp only [hlive, true_and]
    cases svc.accounts.getByID claims.subject with
    | none => simp
    | some user => simp [UserRow.toAuth, Service.authState]
  · simp [Auth.tokenContext, hvalidate, hlive]

@[simp] theorem unix_numericDate (time : Nat) :
    Auth.unix (numericDate time) = Auth.unix time := by
  unfold Auth.unix numericDate
  omega

variable {id : UUID}

theorem accepts_generateAccessToken (hverifies : Verifies env cfg.tokens) {issued : Nat}
    {holder : User} :
    svc.Accepts cfg env others now (cfg.tokens.generateAccessToken issued id holder) ↔
      now < numericDate (issued + cfg.tokens.accessTTL) ∧
        ∃ user, svc.accounts.getByID id = some user ∧
          (∀ changedAt ∈ user.passwordChangedAt, changedAt ≤ numericDate issued) ∧
          svc.revokedAt cfg.tokens.accessTTL now id ≤ Auth.unix issued := by
  unfold TokenManager.generateAccessToken
  rw [accepts_iff hverifies]
  simp only [TokenManager.claims, unix_numericDate]

theorem revokedAt_le {ttl bound : Nat} (h : ∀ time ∈ svc.marks id, Auth.unix time ≤ bound) :
    svc.revokedAt ttl now id ≤ bound := by
  unfold Service.revokedAt
  cases hmark : svc.marks id with
  | none => exact Nat.zero_le bound
  | some time =>
    dsimp only
    split
    · exact h time hmark
    · exact Nat.zero_le bound

end

/-! ## A library for tokens that are spelled out -/

/-- Read numbers in unary, the first of which has begun with a count. -/
def readUnary : Nat → Bytes → List Nat
  | _, [] => []
  | count, b :: rest => if b = 0 then count :: readUnary 0 rest else readUnary (count + 1) rest

theorem readUnary_replicate (n count : Nat) (rest : Bytes) :
    readUnary count (List.replicate n 1 ++ 0 :: rest) = (count + n) :: readUnary 0 rest := by
  induction n generalizing count with
  | zero => rfl
  | succ n ih =>
    have hstep := ih (count + 1)
    rw [Nat.add_right_comm] at hstep
    exact hstep

theorem readUnary_unary (numbers : List Nat) : readUnary 0 (unary numbers) = numbers := by
  induction numbers with
  | nil => rfl
  | cons n numbers ih =>
    have hcons : unary (n :: numbers) = List.replicate n 1 ++ 0 :: unary numbers := by
      simp [unary]
    rw [hcons, readUnary_replicate, ih, Nat.zero_add]

def readClaims (token : Bytes) : Option AccessClaims :=
  match readUnary 0 token with
  | subject :: isSystemAdmin :: issuedAt :: expiresAt :: email =>
    some ⟨subject, String.ofList (email.map Char.ofNat), isSystemAdmin = 1, issuedAt, expiresAt⟩
  | _ => none

theorem readClaims_spellClaims (claims : AccessClaims) :
    readClaims (spellClaims claims) = some claims := by
  have hemail : (claims.email.toList.map Char.toNat).map Char.ofNat = claims.email.toList := by
    rw [List.map_map]
    exact List.map_id'' Char.ofNat_toNat _
  have hadmin : decide (claims.isSystemAdmin.toNat = 1) = claims.isSystemAdmin := by
    cases claims.isSystemAdmin <;> rfl
  unfold readClaims spellClaims
  rw [readUnary_unary]
  simp only [List.cons_append, List.nil_append, hemail, hadmin, String.ofList_toList]

def sampleLibrary : Auth.Env where
  allowTokenQueryParam := false
  hash _ := ""
  validateAccessToken now token :=
    match readClaims token with
    | none => none
    | some claims =>
      if now < claims.expiresAt then
        some ⟨some claims.subject, claims.email, some claims.issuedAt⟩
      else none
  parseTime _ := .error "cannot parse"
  scopesProvider := []

theorem sampleLibrary_verifies : Verifies sampleLibrary sampleConfig.tokens where
  validate now claims := by
    simp only [sampleConfig, sampleLibrary, readClaims_spellClaims]
  notKey claims := by
    -- A number in unary begins with a one or with a zero.
    have hfirst : ∀ n rest, hasPrefix (unary (n :: rest)) (lit "bb_") = false := by
      intro n rest
      cases n <;> simp [unary, hasPrefix, lit, List.replicate_succ, List.isPrefixOf]
    exact hfirst claims.subject _

/-- No roles, no keys and no tickets. -/
def sampleOthers : Others :=
  ⟨⟨fun _ _ => none, fun _ _ => none, fun _ => none, .empty⟩, .empty, []⟩

end BurnerByte.Account
