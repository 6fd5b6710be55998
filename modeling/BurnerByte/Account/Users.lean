/-!
# Requests that rewrite a user row

Every change to a user is made in the same way: the whole row is read, some of its
fields are changed in memory, and `Update` writes all columns back. The requests
below are given by what they compute from the row they have read: their answer, and
the rows they write, in order. A request inside a transaction writes when the
transaction commits.
-/

namespace BurnerByte.Account

/-- The columns that `Update` writes. -/
structure User where
  email : String
  displayName : String
  passwordHash : Option String := none
  ssoProvider : Option String := none
  ssoSubject : Option String := none
  isSystemAdmin : Bool
  emailVerified : Bool
  passwordChangedAt : Option Nat
  timezone : Option String := none
  dateFormat : Option String := none
  timeFormat : Option String := none
  authMethodLock : Option String := none
  maxSessions : Option Int := none
  deriving DecidableEq

/-- A user with a password and no further settings. -/
def sampleUser : User where
  email := "user@example.com"
  displayName := "User"
  passwordHash := some "$2a$05$CCCCCCCCCCCCCCCCCCCCC.E5YPO9kmyuRGyh0XouQYb4YMJKvyOeW"
  isSystemAdmin := false
  emailVerified := true
  passwordChangedAt := none

/-- The columns that decide how a user signs in and what they may do. -/
structure Security where
  passwordHash : Option String
  passwordChangedAt : Option Nat
  authMethodLock : Option String
  isSystemAdmin : Bool
  deriving DecidableEq

def User.security (user : User) : Security :=
  ⟨user.passwordHash, user.passwordChangedAt, user.authMethodLock, user.isSystemAdmin⟩

/-- The settings, and the password functions. -/
structure Env where
  checkPassword : String → String → Bool
  hashPassword : String → Except String String
  validatePassword : String → Except String Unit
  requireEmailVerification : Bool
  enforceSSOForSystemAdmins : Bool

/-- What a request answers, and the rows that it writes. -/
structure Result where
  answer : Except String Unit
  writes : List User

def Result.error (message : String) : Result := ⟨.error message, []⟩

/-- A request that writes the row once, if it gets so far. -/
def Result.ofUpdate : Except String User → Result
  | .error message => .error message
  | .ok user => ⟨.ok (), [user]⟩

/-- A request in a transaction, which writes nothing unless it commits. -/
def Result.inTx (committed : Bool) (writes : List User) : Result :=
  if committed then ⟨.ok (), writes⟩ else .error "commit: transaction aborted"

def checkAuthMethodLock (user : User) (method : String) : Except String Unit :=
  match user.authMethodLock with
  | none => .ok ()
  | some lock =>
    if lock = method then .ok ()
    else if lock = "sso" then .error "account is locked to SSO login only"
    else if lock = "password" then .error "account is locked to password login only"
    else .error ("account has unknown auth method lock: " ++ lock)

def validateDisplayName (name : String) : Except String Unit :=
  if name = "" then .error "display name is required"
  else if 200 < name.utf8ByteSize then .error "display name must not exceed 200 characters"
  else .ok ()

/-! ## Security changes -/

section

variable (env : Env) (now : Nat)

section

variable (input : SSOInput) (user : User)

def setPassword (hash : String) : User :=
  { user with passwordHash := some hash, passwordChangedAt := some now }

def changePassword (currentPassword newPassword : String) (user : User) : Except String User := do
  match user.passwordHash with
  | none => .error "account uses SSO — no password to change"
  | some current =>
    if !env.checkPassword current currentPassword then .error "current password is incorrect"
    else
      env.validatePassword newPassword
      let hash ← env.hashPassword newPassword
      .ok (setPassword now user hash)

/-- The flag `tokenValid` is the outcome of consuming the reset token. -/
def resetPassword (token : String) (tokenValid : Bool) (newPassword : String) (user : User) :
    Except String User := do
  if token = "" ∨ newPassword = "" then .error "token and new_password are required"
  else
    env.validatePassword newPassword
    if !tokenValid then .error "invalid or expired reset token"
    else
      let hash ← env.hashPassword newPassword
      .ok (setPassword now user hash)

/-- The number `identities` counts the linked SSO identities; the lookup may fail. -/
def migrateToSSO (identities : Option Nat) (user : User) : Except String User :=
  if identities.getD 0 = 0 then
    .error "user has no linked SSO identity; link one before migrating"
  else .ok { user with passwordHash := none, authMethodLock := some "sso" }

def migrateToPassword (newPassword : String) (user : User) : Except String User := do
  env.validatePassword newPassword
  let hash ← env.hashPassword newPassword
  .ok { setPassword now user hash with authMethodLock := some "password" }

def setAuthMethodLock (lock : Option String) (identities : Option Nat) (user : User) :
    Except String User :=
  match lock with
  | none => .ok { user with authMethodLock := none }
  | some "sso" =>
    if identities.getD 0 = 0 then .error "cannot lock to SSO: user has no linked SSO identity"
    else .ok { user with authMethodLock := some "sso" }
  | some "password" =>
    if user.passwordHash.isNone then .error "cannot lock to password: user has no password set"
    else .ok { user with authMethodLock := some "password" }
  | some _ =>
    .error "invalid auth_method_lock value: must be null, \"sso\", or \"password\""

def adminUpdateUser (displayName : Option String) (isSystemAdmin emailVerified : Option Bool)
    (maxSessions : Option Int) (user : User) : User :=
  { user with
    displayName := displayName.getD user.displayName
    isSystemAdmin := isSystemAdmin.getD user.isSystemAdmin
    emailVerified := emailVerified.getD user.emailVerified
    maxSessions := maxSessions.or user.maxSessions }

inductive SecurityChange where
  | changePassword (now : Nat) (currentPassword newPassword : String)
  | resetPassword (now : Nat) (token : String) (tokenValid : Bool) (newPassword : String)
  | migrateToSSO (identities : Option Nat)
  | migrateToPassword (now : Nat) (newPassword : String)
  | setAuthMethodLock (lock : Option String) (identities : Option Nat)
  | adminUpdateUser (displayName : Option String) (isSystemAdmin emailVerified : Option Bool)
    (maxSessions : Option Int)

def SecurityChange.result : SecurityChange → Result
  | .changePassword now current new => .ofUpdate (Account.changePassword env now current new user)
  | .resetPassword now token tokenValid new =>
    .ofUpdate (Account.resetPassword env now token tokenValid new user)
  | .migrateToSSO identities => .ofUpdate (Account.migrateToSSO identities user)
  | .migrateToPassword now new => .ofUpdate (Account.migrateToPassword env now new user)
  | .setAuthMethodLock lock identities => .ofUpdate (Account.setAuthMethodLock lock identities user)
  | .adminUpdateUser displayName isSystemAdmin emailVerified maxSessions =>
    .ofUpdate
      (.ok (Account.adminUpdateUser displayName isSystemAdmin emailVerified maxSessions user))

/-! ## Other requests -/

/-- What `Login` asks besides the row: the lockout, whether an org enforces SSO, the
number of linked identities (twice, and the lookup may fail), and the session. -/
structure LoginInput where
  password : String
  locked : Option String
  enforced : Except String Bool
  identities : Option Nat
  adminIdentities : Option Nat
  session : Except String Unit

/-- The last statement of `Login` is to update the time of the last login, which is not
a column of the row: it writes the row back as it was read. -/
def login (input : LoginInput) (user : User) : Except String User := do
  match input.locked with
  | some retryAfter => .error ("account locked, retry after " ++ retryAfter)
  | none =>
    checkAuthMethodLock user "password"
    match user.passwordHash with
    | none => .error "account uses SSO login only"
    | some hash =>
      if !env.checkPassword hash input.password then .error "invalid email or password"
      else if env.requireEmailVerification && !user.emailVerified then
        .error "email address not verified"
      else
        let enforced ← input.enforced.mapError ("failed to check SSO enforcement: " ++ ·)
        if enforced && decide (0 < input.identities.getD 0) then
          .error "SSO login required for your organization"
        else if env.enforceSSOForSystemAdmins && user.isSystemAdmin &&
            input.adminIdentities.all (0 < ·) then
          .error "SSO login required for system administrators"
        else
          input.session
          .ok user

structure SSOInput where
  provider : String
  emailVerified : Bool
  session : Except String Unit

/-- The session of an SSO login, after the given rows were written. -/
def ssoSession (writes : List User) (user : User) : Result :=
  match input.session with
  | .error message => ⟨.error message, writes⟩
  | .ok () => ⟨.ok (), writes ++ [user]⟩

/-- An SSO login whose identity is known. It writes the row up to three times, always
from the row it read at first. -/
def ssoLoginByIdentity : Result :=
  match checkAuthMethodLock user "sso" with
  | .error message => .error message
  | .ok () =>
    let verified := { user with emailVerified := true }
    let linked := { verified with ssoProvider := some input.provider }
    ssoSession input
      ((if user.emailVerified then [] else [verified]) ++
        if user.ssoProvider = some input.provider then [] else [linked])
      linked

/-- An SSO login that is linked to an account by its e-mail address. -/
def ssoLoginByEmail : Result :=
  if !input.emailVerified then
    .error ("this email address is not verified by " ++ input.provider ++
      ", so it can't be linked to an existing account automatically. " ++
      "Sign in to that account, then link " ++ input.provider ++ " from your profile.")
  else
    match checkAuthMethodLock user "sso" with
    | .error message => .error message
    | .ok () =>
      let linked := { user with emailVerified := true, ssoProvider := some input.provider }
      ssoSession input [linked] linked

structure UpdateProfileInput where
  displayName : Option String
  timezone : Option String
  dateFormat : Option String
  timeFormat : Option String

def checkDisplayName : Option String → Except String Unit
  | none => .ok ()
  | some name => validateDisplayName name

def updateProfile (input : UpdateProfileInput) (user : User) : Except String User := do
  checkDisplayName input.displayName
  .ok { user with
    displayName := input.displayName.getD user.displayName
    timezone := input.timezone.or user.timezone
    dateFormat := input.dateFormat.or user.dateFormat
    timeFormat := input.timeFormat.or user.timeFormat }

/-- The write of `VerifyEmail` and of `AcceptInvite`, in their transactions. -/
def verifyEmail : List User :=
  if user.emailVerified then [] else [{ user with emailVerified := true }]

inductive Rewrite where
  | login (input : LoginInput)
  | ssoLogin (identityFound : Bool) (input : SSOInput)
  | updateProfile (input : UpdateProfileInput)
  | verifyEmail (tokenValid committed : Bool)
  | acceptInvite (committed : Bool)

def Rewrite.result : Rewrite → Result
  | .login input => .ofUpdate (Account.login env input user)
  | .ssoLogin identityFound input =>
    if identityFound then ssoLoginByIdentity input user else ssoLoginByEmail input user
  | .updateProfile input => .ofUpdate (Account.updateProfile input user)
  | .verifyEmail tokenValid committed =>
    if !tokenValid then .error "invalid or expired verification link"
    else .inTx committed (Account.verifyEmail user)
  | .acceptInvite committed => .inTx committed (Account.verifyEmail user)

end

end

end BurnerByte.Account
