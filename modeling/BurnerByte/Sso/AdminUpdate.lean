import BurnerByte.Sso.Credentials

/-!
# The update of a user by an administrator

The request is carried out as two calls of the service. The first one writes the profile, the admin
flag and the session limit; the second one checks and sets the lock. Nothing takes the first write
back when the second call fails.
-/

namespace BurnerByte.Sso

open Account Handler Outcome

structure UpdateUserInput where
  displayName : Option String
  isSystemAdmin : Option Bool
  emailVerified : Option Bool
  authMethodLock : Option String
  maxSessions : Option Int

/-- What the first call writes. -/
def UpdateUserInput.applied (input : UpdateUserInput) (user : User) : User :=
  adminUpdateUser input.displayName input.isSystemAdmin input.emailVerified input.maxSessions user

/-- Database errors of the two calls. -/
structure UpdateFaults where
  update : Bool
  lock : Option String

section

variable (svc : Service) (callerID : UUID) (request : Except HttpError (UUID × UpdateUserInput))
  (faults : UpdateFaults)

/-- The user of the path and the body, and the row that the first call is about to rewrite. -/
def checkUpdate : Except HttpError (UUID × UpdateUserInput × User) := do
  let (userID, input) ← request
  if input.isSystemAdmin = some false ∧ userID = callerID then
    .error (badRequest "cannot remove your own system admin status")
  else
    (input.displayName.elim (.ok ()) validateDisplayName).mapError badRequest
    if input.maxSessions.any fun n => n < 1 || 100 < n then
      .error (badRequest "max_sessions must be between 1 and 100")
    else
      match svc.accounts.getByID userID with
      | none => .error ⟨500, "failed to update user"⟩
      | some user =>
        if faults.update then .error ⟨500, "failed to update user"⟩ else .ok (userID, input, user)

/-- The administrator's `UpdateUser`. -/
def updateUser : Except HttpError Unit × Service :=
  match checkUpdate svc callerID request faults with
  | .error err => (.error err, svc)
  | .ok (userID, input, user) =>
    let svc := svc.updateUser userID (input.applied user)
    match input.authMethodLock, faults.lock with
    | none, _ => (.ok (), svc)
    | some _, some msg => (.error (badRequest msg), svc)
    | some lock, none =>
      match setAuthMethodLock svc userID (some lock) with
      | (.error msg, svc) => (.error (badRequest msg), svc)
      | (.ok (), svc) => (.ok (), svc)

end

variable {svc svc' : Service} {callerID userID : UUID} {input : UpdateUserInput} {user : User}
  {request : Except HttpError (UUID × UpdateUserInput)} {faults : UpdateFaults}

theorem getByID_of_checkUpdate
    (h : checkUpdate svc callerID request faults = .ok (userID, input, user)) :
    svc.accounts.getByID userID = some user := by
  obtain ⟨⟨id, body⟩, _, h⟩ := bind_eq_ok.mp h
  obtain ⟨_, h⟩ := guard_eq_ok.mp h
  obtain ⟨_, _, h⟩ := bind_eq_ok.mp h
  obtain ⟨_, h⟩ := guard_eq_ok.mp h
  split at h
  · cases h
  rename_i row hrow
  obtain ⟨_, h⟩ := guard_eq_ok.mp h
  cases h
  exact hrow

/-- A lock that is refused is not written. -/
theorem setAuthMethodLock_error {lock : Option String} {msg : String}
    (h : setAuthMethodLock svc userID lock = (.error msg, svc')) : svc' = svc := by
  unfold setAuthMethodLock changeUser at h
  iterate 3
    split at h
    · exact (Prod.mk.inj h).2.symm
  · cases (Prod.mk.inj h).1

theorem updateUser_same_iff (huser : svc.accounts.getByID userID = some user) :
    (∀ id, (svc.updateUser userID (input.applied user)).accounts.getByID id =
      svc.accounts.getByID id) ↔ input.applied user = user := by
  have hself : (svc.updateUser userID (input.applied user)).accounts.getByID userID =
      some (input.applied user) := by
    refine (Accounts.getByID_update_self huser).trans (congrArg some ?_)
    exact congrArg input.applied (Accounts.stored_of_getByID huser)
  constructor
  · exact fun hsame => Option.some.inj (hself.symm.trans ((hsame userID).trans huser))
  · intro happlied id
    by_cases hid : id = userID
    · rw [hid, hself, happlied, huser]
    · exact Accounts.getByID_update_of_ne hid

/-- User 1, who has no identity, is locked to SSO, perhaps with a new admin flag. -/
def lockToSSO (isSystemAdmin : Option Bool) : Except HttpError Unit × Service :=
  updateUser sampleService 9 (.ok (1, ⟨none, isSystemAdmin, none, some "sso", none⟩)) ⟨false, none⟩

end BurnerByte.Sso
