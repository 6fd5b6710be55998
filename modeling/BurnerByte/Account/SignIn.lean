import BurnerByte.Account.Service
import BurnerByte.Go.Mail

/-!
# Signing up and signing in

The requests that return an access token: registration, the completion of the setup,
password login, SSO login and the resolution of a login that hit the session limit.
They differ in what they do to the e-mail address before they store it or look it up:
`Register` and `Login` trim it and map it to lower case, `SSOLogin` maps it to lower
case, and the setup takes it as it is.

A request carries the clock readings and the random values that it draws.
-/

namespace BurnerByte.Account

open Go Outcome

/-! ## Creating a session -/

/-- What a request draws for a new session: the clock reading for the access token, the
one for the statements that follow, and random values. -/
structure Issue where
  issuedAt : Nat
  now : Nat
  sessionID : UUID
  refreshHash : String
  family : UUID

section

variable (cfg : Config) (svc : Service)

def resolveSessionLimit (user : User) : Nat :=
  let limit := if cfg.maxSessionsPerUser ≤ 0 then 5 else cfg.maxSessionsPerUser.toNat
  match user.maxSessions with
  | none => limit
  | some maxSessions => if 1 ≤ maxSessions then maxSessions.toNat else limit

/-- The sessions that are neither revoked nor expired, the last created first. -/
def Service.active (userID : UUID) (now : Nat) : List Session :=
  svc.sessions.rows.filter fun s => s.userID = userID && !s.revoked && decide (now < s.expiresAt)

/-- Revoke the oldest sessions to make room for one. -/
def revokeOldestExceeding (userID : UUID) (user : User) (now : Nat) : Service :=
  let excess := (svc.active userID now).drop (resolveSessionLimit cfg user - 1)
  if !cfg.locksWindows || excess.isEmpty then svc
  else (svc.revokeWhere fun s => excess.any fun old => old.id = s.id).markRevoked userID now

def Issue.session (issue : Issue) (userID : UUID) (ssoProviderName : Option String) : Session where
  id := issue.sessionID
  userID := userID
  refreshTokenHash := issue.refreshHash
  tokenFamily := issue.family
  ssoProviderName := ssoProviderName
  expiresAt := issue.now + cfg.tokens.refreshTTL
  revoked := false

/-- A session without a check of the limit, and the tokens for it. -/
def issueTokens (userID : UUID) (user : User) (ssoProviderName : Option String)
    (issue : Issue) : Except String TokenPair × Service :=
  match svc.insertSession (issue.session cfg userID ssoProviderName) with
  | .error err => (.error err, svc)
  | .ok svc =>
    (.ok ⟨cfg.tokens.generateAccessToken issue.issuedAt userID user, issue.refreshHash⟩, svc)

def createSessionDirect (userID : UUID) (user : User) (issue : Issue) :
    Except String TokenPair × Service := issueTokens cfg svc userID user none issue

/-- The access token is generated before old sessions are revoked. -/
def createSession (userID : UUID) (user : User) (ssoProviderName : Option String)
    (issue : Issue) : Except String TokenPair × Service :=
  let room :=
    if resolveSessionLimit cfg user ≤ (svc.active userID issue.now).length then
      revokeOldestExceeding cfg svc userID user issue.now
    else svc
  issueTokens cfg room userID user ssoProviderName issue

/-- At the limit the user is asked which session to give up, unless the question cannot be
stored. -/
def enforceSessionLimit (userID : UUID) (user : User) (pendingStored : Bool)
    (now : Nat) : Except String Service :=
  if (svc.active userID now).length < resolveSessionLimit cfg user then .ok svc
  else if pendingStored then .error "session limit reached"
  else .ok (revokeOldestExceeding cfg svc userID user now)

/-! ## Signing up -/

structure Invite where
  email : String
  acceptedAt : Option Nat
  expiresAt : Nat
  allowedAuth : List String

def isAuthMethodAllowed (allowedAuth : List String) (method : String) : Bool :=
  allowedAuth.isEmpty || allowedAuth.any fun a => a = "any" || a = method

/-- A list of strings as the verb `%v` prints it. -/
def formatList (items : List String) : String := "[" ++ " ".intercalate items ++ "]"

/-- The address as `Register` and `Login` use it. -/
def normalizeEmail (email : String) : String := lowerText cfg.casing (trimText email)

/-- The invite is the row that has the request's token. -/
structure RegisterInput where
  email : String
  displayName : String
  password : String
  invite : Option Invite
  now : Nat
  userID : UUID
  changedAt : Nat
  issue : Issue

def checkInvite (input : RegisterInput) (email : String) : Except String Unit :=
  if cfg.allowRegistration then .ok ()
  else
    match input.invite with
    | none => .error "registration requires a valid invite for this email address"
    | some invite =>
      if invite.acceptedAt.isSome || decide (invite.expiresAt < input.now) ||
          !equalFold cfg.casing invite.email email then
        .error "registration requires a valid invite for this email address"
      else if !isAuthMethodAllowed invite.allowedAuth "password" then
        .error ("password registration is not allowed for this invite; allowed methods: " ++
          formatList invite.allowedAuth)
      else .ok ()

/-- A user with a password, as `Register` and the setup create it. -/
def newUser (email displayName hash : String) (isSystemAdmin emailVerified : Bool)
    (changedAt : Nat) : User where
  email := email
  displayName := displayName
  passwordHash := some hash
  isSystemAdmin := isSystemAdmin
  emailVerified := emailVerified
  passwordChangedAt := some changedAt

def RegisterInput.user (input : RegisterInput) (hash : String) : User :=
  newUser (normalizeEmail cfg input.email) input.displayName hash false false input.changedAt

/-- A conflict is reported with the message of the caller. -/
def onConflict (message : String) : RepoError → String
  | .conflict => message
  | err => err.message

/-- Drop the state of a failed transaction. -/
def inTx : Except String (TokenPair × Service) → Except String TokenPair × Service
  | .error err => (.error err, svc)
  | .ok (pair, svc) => (.ok pair, svc)

/-- The answer of a request that is part of a transaction. -/
def joinTx : Except String TokenPair × Service → Except String (TokenPair × Service)
  | (.error err, _) => .error err
  | (.ok pair, svc) => .ok (pair, svc)

def registerTx (input : RegisterInput) : Except String (TokenPair × Service) := do
  let email := normalizeEmail cfg input.email
  if (Mail.parseAddress email).isNone then .error "invalid email format"
  else
    validateDisplayName input.displayName
    cfg.env.validatePassword input.password
    checkInvite cfg input email
    let hash ← cfg.env.hashPassword input.password
    let svc ← (svc.insertUser input.userID (input.user cfg hash)).mapError
      (onConflict "email already registered")
    joinTx (createSession cfg svc input.userID (input.user cfg hash) none input.issue)

def register (input : RegisterInput) : Except String TokenPair × Service :=
  inTx svc (registerTx cfg svc input)

/-- The flag `stored` is the outcome of the other inserts of the wizard: organization, SMTP
and storage settings, domain, team and invites. -/
structure SetupInput where
  email : String
  displayName : String
  password : String
  orgName : String
  smtpHost : String
  smtpPort : Nat
  smtpFrom : String
  domainName : String
  stored : Except String Unit
  userID : UUID
  changedAt : Nat
  issue : Issue

def SetupInput.user (input : SetupInput) (hash : String) : User :=
  newUser input.email input.displayName hash true true input.changedAt

def SetupInput.check (input : SetupInput) : Except String Unit := do
  if input.email = "" ∨ input.password = "" ∨ input.displayName = "" then
    .error "admin email, password, and display name are required"
  else if (Mail.parseAddress input.email).isNone then .error "invalid admin email format"
  else
    validateDisplayName input.displayName
    if input.orgName = "" then .error "organization name is required"
    else if input.smtpHost = "" ∨ input.smtpPort = 0 ∨ input.smtpFrom = "" then
      .error "SMTP host, port, and from address are required"
    else if input.domainName = "" then .error "at least one domain is required"
    else cfg.env.validatePassword input.password

def completeTx (input : SetupInput) : Except String (TokenPair × Service) := do
  input.check cfg
  if svc.setupCompleted then .error "setup already completed"
  else
    let hash ← (cfg.env.hashPassword input.password).mapError fun _ => "failed to hash password"
    let svc ← (svc.insertUser input.userID (input.user hash)).mapError fun err =>
      match err with
      | .conflict => "admin email already exists"
      | _ => "failed to create admin user"
    input.stored
    let svc := svc.apply .completeSetup
    joinTx (issueTokens cfg svc input.userID (input.user hash) none input.issue)

/-- Setup completion. -/
def complete (input : SetupInput) : Except String TokenPair × Service :=
  inTx svc (completeTx cfg svc input)

/-! ## Signing in -/

/-- A password login: the checks that `login` makes of the row, and the session. -/
structure PasswordInput where
  email : String
  checks : LoginInput
  pendingStored : Bool
  now : Nat
  issue : Issue

/-- The session of a login, and the update of the row that ends it. -/
def finishLogin (id : UUID) (user : User) (pendingStored : Bool)
    (now : Nat) (create : Service → Except String TokenPair × Service) :
    Except String TokenPair × Service :=
  match enforceSessionLimit cfg svc id user pendingStored now with
  | .error err => (.error err, svc)
  | .ok room =>
    match create room with
    | (.error err, svc) => (.error err, svc)
    | (.ok pair, svc) => (.ok pair, svc.updateUser id user)

def passwordLogin (input : PasswordInput) : Except String TokenPair × Service :=
  match svc.accounts.getByEmail (normalizeEmail cfg input.email) with
  | none => (.error "invalid email or password", svc)
  | some account =>
    match login cfg.env { input.checks with session := .ok () } account.user with
    | .error err => (.error err, svc)
    | .ok _ =>
      finishLogin cfg svc account.id account.user input.pendingStored input.now
        fun svc => createSessionDirect cfg svc account.id account.user input.issue

/-- What the provider reports, and what the request finds: the allowed domains of the
provider, the number of matching domain mapping rules, and the pending invite. -/
structure SSOLoginInput where
  provider : String
  subject : String
  email : String
  displayName : String
  emailVerified : Bool
  allowedDomains : String
  mappings : Nat
  invite : Option Invite
  userID : UUID
  changedAt : Nat
  pendingStored : Bool
  now : Nat
  issue : Issue

def extractEmailDomain (email : String) : Option String :=
  match Mail.parseAddress email with
  | none => none
  | some address =>
    match address.toList.dropWhile (· ≠ '@') with
    | '@' :: domain => some (lowerText cfg.casing (String.ofList domain))
    | _ => none

def isDomainAllowed (emailDomain allowedDomains : String) : Bool :=
  (allowedDomains.splitOn ",").any fun d => trimText (lowerText cfg.casing d) = emailDomain

section

variable (input : SSOLoginInput)

/-- Without open registration a new user needs a mapping rule or an invite. The answer
is what an error of the insert is reported with. -/
def checkProvisioning : Except String String :=
  if cfg.allowRegistration then .ok "create SSO user: "
  else if 0 < input.mappings then
    .ok "domain mapping auto-provision failed: create domain-mapped SSO user: "
  else
    match input.invite with
    | none => .error "registration requires an invite"
    | some invite =>
      if isAuthMethodAllowed invite.allowedAuth ("sso:" ++ input.provider) then
        .ok "create SSO user: "
      else
        .error ("SSO provider " ++ input.provider ++
          " is not allowed for this invite; allowed methods: " ++ formatList invite.allowedAuth)

/-- A user without a password, as an SSO login creates it. -/
def newSSOUser (email displayName provider : String) (changedAt : Nat) : User where
  email := email
  displayName := displayName
  ssoProvider := some provider
  isSystemAdmin := false
  emailVerified := true
  passwordChangedAt := some changedAt

def SSOLoginInput.user (email : String) : User :=
  newSSOUser email input.displayName input.provider input.changedAt

def SSOLoginInput.linked (user : User) : User :=
  { user with emailVerified := true, ssoProvider := some input.provider }

def SSOLoginInput.identity (userID : UUID) : Identity :=
  ⟨input.provider, input.subject, userID⟩

/-- The end of an SSO login, once its user is known. -/
def finishSSO (id : UUID) (user : User) (input : SSOLoginInput) :
    Except String TokenPair × Service :=
  finishLogin cfg svc id user input.pendingStored input.now
    fun svc => createSession cfg svc id user (some input.provider) input.issue

/-- A login by which a user signs in for the first time. -/
def ssoFirstLogin (email : String) : Except String TokenPair × Service :=
  match checkProvisioning cfg input with
  | .error err => (.error err, svc)
  | .ok context =>
    match svc.insertUser input.userID (input.user email) with
    | .error err => (.error (context ++ err.message), svc)
    | .ok svc =>
      finishSSO cfg (svc.link (input.identity input.userID)) input.userID (input.user email) input

/-- A login of an existing user, found by the linked identity or by the address. -/
def ssoExistingLogin (id : UUID) (user : User) : Except String TokenPair × Service :=
  match checkAuthMethodLock user "sso" with
  | .error err => (.error err, svc)
  | .ok () =>
    let svc := (svc.updateUser id (input.linked user)).link (input.identity id)
    finishSSO cfg svc id (input.linked user) input

def ssoLogin : Except String TokenPair × Service :=
  let email := lowerText cfg.casing input.email
  match extractEmailDomain cfg email with
  | none => (.error "invalid email from SSO provider", svc)
  | some domain =>
    if input.allowedDomains ≠ "" && !isDomainAllowed cfg domain input.allowedDomains then
      (.error ("email domain " ++ domain ++ " is not allowed for SSO"), svc)
    else
      match svc.findIdentity input.provider input.subject with
      | some identity =>
        match svc.accounts.getByID identity.userID with
        | none => (.error ("load SSO user: " ++ RepoError.notFound.message), svc)
        | some user => ssoExistingLogin cfg svc input identity.userID user
      | none =>
        match svc.accounts.getByEmail email with
        | none => ssoFirstLogin cfg svc input email
        | some account =>
          if !input.emailVerified then
            (.error ("this email address is not verified by " ++ input.provider ++
              ", so it can't be linked to an existing account automatically. " ++
              "Sign in to that account, then link " ++ input.provider ++ " from your profile."),
              svc)
          else ssoExistingLogin cfg svc input account.id account.user

/-- The pending login that the token stands for, and the session to give up. -/
structure ResolveInput where
  pendingUser : Option UUID
  revokeSessionID : UUID
  pendingStored : Bool
  now : Nat
  issue : Issue

def resolveLogin (input : ResolveInput) : Except String TokenPair × Service :=
  match input.pendingUser with
  | none => (.error "invalid or expired pending login token", svc)
  | some id =>
    match svc.accounts.getByID id with
    | none => (.error "user not found", svc)
    | some user =>
      let svc := (svc.revokeWhere fun s => s.id = input.revokeSessionID && s.userID = id)
        |>.markRevoked id input.now
      if resolveSessionLimit cfg user ≤ (svc.active id input.now).length then
        (.error (if input.pendingStored then "session limit reached"
          else "failed to store new pending login"), svc)
      else createSessionDirect cfg svc id user input.issue

end

end

/-! ## What a success means -/

section

variable {cfg : Config} {svc svc' : Service} {pair : TokenPair}

theorem inTx_eq_ok {result : Except String (TokenPair × Service)}
    (h : inTx svc result = (.ok pair, svc')) : result = .ok (pair, svc') := by
  cases result with
  | error err => cases h
  | ok r =>
    cases h
    rfl

theorem joinTx_eq_ok {result : Except String TokenPair × Service}
    (h : joinTx result = .ok (pair, svc')) : result = (.ok pair, svc') := by
  obtain ⟨answer, state⟩ := result
  cases answer with
  | error err => cases h
  | ok pair' =>
    cases h
    rfl

theorem insertSession_eq_ok {session : Session} (h : svc.insertSession session = .ok svc') :
    ∃ sessions, svc.sessions.insert session = some sessions ∧ svc' = { svc with sessions } := by
  unfold Service.insertSession at h
  split at h
  · cases h
  rename_i sessions hinsert
  exact ⟨sessions, hinsert, (Except.ok.inj h).symm⟩

theorem insertUser_eq_ok {id : UUID} {user : User} (h : svc.insertUser id user = .ok svc') :
    ∃ accounts, svc.accounts.create id user = .ok accounts ∧ svc' = { svc with accounts } := by
  unfold Service.insertUser at h
  cases hcreate : svc.accounts.create id user with
  | error err =>
    rw [hcreate] at h
    cases h
  | ok accounts =>
    rw [hcreate] at h
    exact ⟨accounts, rfl, (Except.ok.inj h).symm⟩

variable {input : RegisterInput}

theorem registerTx_eq_ok (h : registerTx cfg svc input = .ok (pair, svc')) :
    ∃ hash svc₁, cfg.env.hashPassword input.password = .ok hash ∧
      svc.insertUser input.userID (input.user cfg hash) = .ok svc₁ ∧
      createSession cfg svc₁ input.userID (input.user cfg hash) none input.issue =
        (.ok pair, svc') := by
  unfold registerTx at h
  dsimp only at h
  split at h
  · cases h
  simp only [bind_eq_ok] at h
  obtain ⟨_, _, _, _, _, _, hash, hhash, svc₁, hinsert, h⟩ := h
  exact ⟨hash, svc₁, hhash, mapError_eq_ok.mp hinsert, joinTx_eq_ok h⟩

theorem checkInvite_of_registerTx (h : registerTx cfg svc input = .ok (pair, svc')) :
    checkInvite cfg input (normalizeEmail cfg input.email) = .ok () := by
  unfold registerTx at h
  dsimp only at h
  split at h
  · cases h
  simp only [bind_eq_ok] at h
  obtain ⟨_, _, _, _, _, hinvite, h⟩ := h
  exact hinvite

/-- While registration is closed, an invitation that allows a password lets its holder register. -/
theorem exists_invite_of_register (h : (register cfg svc input).1 = .ok pair)
    (hclosed : cfg.allowRegistration = false) :
    ∃ invite, input.invite = some invite ∧
      isAuthMethodAllowed invite.allowedAuth "password" = true := by
  generalize hresult : register cfg svc input = result at h
  obtain ⟨_, svc'⟩ := result
  obtain rfl := h
  have hcheck := checkInvite_of_registerTx (inTx_eq_ok hresult)
  simp only [checkInvite, hclosed, Bool.false_eq_true, if_false] at hcheck
  split at hcheck
  · cases hcheck
  rename_i invite hinvite
  split at hcheck
  · cases hcheck
  split at hcheck
  · cases hcheck
  rename_i hallowed
  exact ⟨invite, hinvite, by simpa using hallowed⟩

theorem completeTx_eq_ok {input : SetupInput} (h : completeTx cfg svc input = .ok (pair, svc')) :
    ∃ hash svc₁, cfg.env.hashPassword input.password = .ok hash ∧
      svc.insertUser input.userID (input.user hash) = .ok svc₁ ∧
      issueTokens cfg (svc₁.apply .completeSetup) input.userID (input.user hash) none input.issue =
        (.ok pair, svc') := by
  obtain ⟨_, _, h⟩ := bind_eq_ok.mp h
  split at h
  · cases h
  simp only [bind_eq_ok] at h
  obtain ⟨hash, hhash, svc₁, hinsert, _, _, h⟩ := h
  exact ⟨hash, svc₁, mapError_eq_ok.mp hhash, mapError_eq_ok.mp hinsert, joinTx_eq_ok h⟩

theorem resolveSessionLimit_pos (cfg : Config) (user : User) :
    0 < resolveSessionLimit cfg user := by
  unfold resolveSessionLimit
  dsimp only
  split
  · split <;> omega
  split
  · omega
  · split <;> omega

theorem link_sessions (identity : Identity) : (svc.link identity).sessions = svc.sessions := by
  unfold Service.link
  split <;> rfl

theorem finishLogin_eq_ok {id : UUID} {user : User} {stored : Bool} {now : Nat}
    {create : Service → Except String TokenPair × Service}
    (h : finishLogin cfg svc id user stored now create = (.ok pair, svc')) :
    ∃ room svc₁, enforceSessionLimit cfg svc id user stored now = .ok room ∧
      create room = (.ok pair, svc₁) ∧ svc' = svc₁.updateUser id user := by
  unfold finishLogin at h
  split at h
  · cases h
  rename_i room hroom
  split at h
  · cases h
  rename_i pair' svc₁ hcreate
  cases h
  exact ⟨room, svc₁, hroom, hcreate, rfl⟩

/-- A first login that succeeds has created its user. -/
theorem ssoFirstLogin_eq_ok {input : SSOLoginInput} {email : String}
    (h : ssoFirstLogin cfg svc input email = (.ok pair, svc')) :
    ∃ accounts, svc.accounts.create input.userID (input.user email) = .ok accounts ∧
      finishSSO cfg (({ svc with accounts } : Service).link (input.identity input.userID))
        input.userID (input.user email) input = (.ok pair, svc') := by
  unfold ssoFirstLogin at h
  split at h
  · cases h
  split at h
  · cases h
  rename_i svc₁ hinsert
  obtain ⟨accounts, hcreate, rfl⟩ := insertUser_eq_ok hinsert
  exact ⟨accounts, hcreate, h⟩

/-- A login that succeeds has found its user by the linked identity or by the address, or is a
first one. -/
theorem ssoLogin_eq_ok {input : SSOLoginInput} (h : ssoLogin cfg svc input = (.ok pair, svc')) :
    (∃ identity user, svc.findIdentity input.provider input.subject = some identity ∧
      svc.accounts.getByID identity.userID = some user ∧
      ssoExistingLogin cfg svc input identity.userID user = (.ok pair, svc')) ∨
    (∃ account, svc.findIdentity input.provider input.subject = none ∧
      svc.accounts.getByEmail (lowerText cfg.casing input.email) = some account ∧
      ssoExistingLogin cfg svc input account.id account.user = (.ok pair, svc')) ∨
    (svc.findIdentity input.provider input.subject = none ∧
      svc.accounts.getByEmail (lowerText cfg.casing input.email) = none ∧
      ssoFirstLogin cfg svc input (lowerText cfg.casing input.email) = (.ok pair, svc')) := by
  unfold ssoLogin at h
  dsimp only at h
  split at h
  · cases h
  split at h
  · cases h
  split at h
  · rename_i identity hidentity
    split at h
    · cases h
    rename_i user huser
    exact .inl ⟨identity, user, hidentity, huser, h⟩
  rename_i hidentity
  split at h
  · rename_i hemail
    exact .inr (.inr ⟨hidentity, hemail, h⟩)
  rename_i account hemail
  split at h
  · cases h
  · exact .inr (.inl ⟨account, hidentity, hemail, h⟩)

end

end BurnerByte.Account
