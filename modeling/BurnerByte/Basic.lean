import Mathlib.Algebra.Group.Nat.Defs

/-!
# Identifiers, users, errors and pages

What most parts of the service share: row identifiers, the errors that the
repositories report, the `UserContext` that the authentication middleware
attaches to a request, and the pages of a list. A request without a context is
unauthenticated.
-/

namespace BurnerByte

/-- Identifiers of rows. -/
abbrev UUID := Nat

def uuidNil : UUID := 0

/-- An identifier in a request body, before and after `uuid.Parse`. -/
inductive IdText where
  | empty
  | malformed
  | id (value : UUID)
  deriving DecidableEq

/-- The errors of the repositories that callers tell apart. -/
inductive RepoError where
  | notFound
  | conflict
  | other (message : String)
  deriving DecidableEq

def RepoError.message : RepoError → String
  | .notFound => "resource not found"
  | .conflict => "conflict: resource already exists"
  | .other message => message

structure UserContext where
  userID : UUID
  email : String
  displayName : String
  isSystemAdmin : Bool
  /-- Present only for API key authentication. -/
  apiKeyScopes : Option (List String)
  deriving DecidableEq

/-- Whether the user holds a scope. Only API keys are restricted to scopes. -/
def hasScope (uc : Option UserContext) (scope : String) : Bool :=
  match uc with
  | none => false
  | some uc =>
    match uc.apiKeyScopes with
    | none => true
    | some scopes => scopes.contains scope

/-- The test `len(uc.APIKeyScopes) > 0`, by which handlers recognise an API key. -/
def UserContext.hasKeyScopes (uc : UserContext) : Bool :=
  match uc.apiKeyScopes with
  | none => false
  | some scopes => !scopes.isEmpty

/-- The bounds on a page. -/
def clampPage (page perPage : Int) : Int × Int :=
  (if page < 1 then 1 else page, if perPage < 1 || 100 < perPage then 20 else perPage)

/-- One page of the rows that match, newest first. The offset is a machine integer, and the
database refuses a negative one. -/
def selectPage {α : Type} (createdAt : α → Nat) (rows : List α) (page perPage : Int) :
    Except String (List α × Int) :=
  let offset := ((page - 1) * perPage).bmod (2 ^ 64)
  if offset < 0 then .error "OFFSET must not be negative"
  else
    .ok (((rows.mergeSort fun a b => createdAt b ≤ createdAt a).drop offset.toNat).take
      perPage.toNat, rows.length)

end BurnerByte
