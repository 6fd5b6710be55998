import BurnerByte.Core.Outcome
import BurnerByte.Rbac.Checker

/-!
# Checks of the request handlers

A handler answers a refused request with a status and a message, and leaves the
database as it was. Both guards against API keys recognise a key by its scopes,
so a key without any scope would pass as a signed-in user.
-/

namespace BurnerByte.Handler

open Rbac Outcome

structure HttpError where
  status : Nat
  message : String
  deriving DecidableEq

def badRequest (message : String) : HttpError := ⟨400, message⟩

def forbidden (message : String) : HttpError := ⟨403, message⟩

def conflict (message : String) : HttpError := ⟨409, message⟩

/-- Go's `strings.Contains`. -/
def containsText (s part : String) : Bool :=
  s.toList.tails.any fun tail => part.toList.isPrefixOf tail

/-- The status of a service error, chosen by its text. -/
def serviceError (msg : String) : HttpError :=
  if containsText msg "forbidden" then forbidden msg
  else if containsText msg "not found" then ⟨404, msg⟩
  else if containsText msg "already taken" || containsText msg "already exists" ||
      containsText msg "already assigned" || containsText msg "already linked" then conflict msg
  else if containsText msg "cannot lock" || containsText msg "cannot unlink" ||
      containsText msg "must re-authenticate" || containsText msg "must set a password" then
    forbidden msg
  else if containsText msg "locked to SSO" || containsText msg "locked to password" then
    forbidden msg
  else badRequest msg

section

variable (c : Checker) (uc : Option UserContext)

/-- An API key without the scope is refused. Other users pass. -/
def denyByScope (permissionKey : String) : Except HttpError Unit :=
  match uc with
  | none => .ok ()
  | some user =>
    if user.hasKeyScopes && !hasScope uc permissionKey then
      .error (forbidden ("API key is missing the required scope: " ++ permissionKey))
    else .ok ()

/-- API keys are refused on endpoints that no scope covers. -/
def rejectAPIKey : Except HttpError Unit :=
  match uc with
  | none => .ok ()
  | some user =>
    if user.hasKeyScopes then
      .error (forbidden "this endpoint cannot be accessed with an API key")
    else .ok ()

/-- A failed check of the role checker is answered with its message. -/
def rbacError (result : Except RbacError Unit) : Except HttpError Unit :=
  match result with
  | .ok () => .ok ()
  | .error err => .error (forbidden err.message)

def checkOrgPermission (orgID : UUID) (permissionKey : String) : Except HttpError Unit := do
  denyByScope uc permissionKey
  rbacError (c.requireOrgPermission uc orgID permissionKey)

def checkTeamPermission (orgID teamID : UUID) (permissionKey : String) : Except HttpError Unit := do
  denyByScope uc permissionKey
  rbacError (c.requireTeamPermission uc orgID teamID permissionKey)

def checkOrgRankAbove (orgID targetUserID : UUID) : Except HttpError Unit :=
  rbacError (c.requireRankAbove uc orgID targetUserID)

end

theorem rbacError_ok {result : Except RbacError Unit} (h : rbacError result = .ok ()) :
    result = .ok () := by
  cases result with
  | error err => cases h
  | ok _ => rfl

/-- Who passes an org permission check is a system admin or a member of the org. -/
theorem member_of_checkOrgPermission {c : Checker} {uc : UserContext} {orgID : UUID}
    {permissionKey : String} (h : checkOrgPermission c (some uc) orgID permissionKey = .ok ())
    (hadmin : uc.isSystemAdmin = false) : ∃ m, c.orgMembership uc.userID orgID = some m := by
  obtain ⟨_, _, hrbac⟩ := bind_eq_ok.mp h
  cases Checker.requireOrgPermission_ok_iff.mp (rbacError_ok hrbac) with
  | inl htrue =>
    rw [hadmin] at htrue
    cases htrue
  | inr hmember =>
    obtain ⟨m, hm, _⟩ := hmember
    exact ⟨m, hm⟩

end BurnerByte.Handler
