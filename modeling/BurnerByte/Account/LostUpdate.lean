import BurnerByte.Account.Users
import BurnerByte.Core.Interleaving
import BurnerByte.Core.Outcome

/-!
# A security change beside another request

A change of a password, of the sign-in method or of the admin flag runs beside a
request that rewrites the same row for another reason. That request writes the
columns of the change back as it has read them. So the change survives unless the
other request has read the row before the change is written, and writes it after.
-/

namespace BurnerByte.Account

open Interleaving Outcome

/-- The two requests before their first statement. -/
def start (env : Env) (change : SecurityChange) (other : Rewrite) (row : User) :
    System Party (Writer User) User where
  procs
    | .writer => .reading fun user => (change.result env user).writes
    | .other => .reading fun user => (other.result env user).writes
  shared := row

/-- The system after the statements of a schedule. -/
abbrev run (sys : System Party (Writer User) User) (schedule : List Party) :
    System Party (Writer User) User :=
  Trace.run (System.step Writer.stmt) sys schedule

/-! ## The other requests keep the columns they have read -/

/-- The rows have the columns of the row that was read. -/
def KeepSecurity (user : User) (writes : List User) : Prop :=
  ∀ next ∈ writes, next.security = user.security

variable {user : User} {input : SSOInput}

theorem security_ofUpdate {result : Except String User}
    (h : ∀ updated, result = .ok updated → updated.security = user.security) :
    KeepSecurity user (Result.ofUpdate result).writes := by
  cases result with
  | error message => exact List.forall_mem_nil _
  | ok updated => exact List.forall_mem_singleton.mpr (h updated rfl)

theorem login_ok {env : Env} {input : LoginInput} {updated : User}
    (h : login env input user = .ok updated) : updated = user := by
  unfold login at h
  split at h
  · cases h
  obtain ⟨_, _, h⟩ := bind_eq_ok.mp h
  iterate 3
    split at h
    · cases h
  obtain ⟨enforced, _, h⟩ := bind_eq_ok.mp h
  split at h
  · cases h
  split at h
  · cases h
  obtain ⟨_, _, h⟩ := bind_eq_ok.mp h
  exact (Except.ok.inj h).symm

theorem ssoSession_security {writes : List User} {linked : User}
    (hwrites : KeepSecurity user writes) (hlinked : linked.security = user.security) :
    KeepSecurity user (ssoSession input writes linked).writes := by
  unfold ssoSession
  split
  · exact hwrites
  · exact List.forall_mem_append.mpr ⟨hwrites, List.forall_mem_singleton.mpr hlinked⟩

theorem ssoLoginByIdentity_security :
    KeepSecurity user (ssoLoginByIdentity input user).writes := by
  unfold ssoLoginByIdentity
  split
  · exact List.forall_mem_nil _
  refine ssoSession_security (List.forall_mem_append.mpr ⟨?_, ?_⟩) rfl
  all_goals
    split
    · exact List.forall_mem_nil _
    · exact List.forall_mem_singleton.mpr rfl

theorem ssoLoginByEmail_security : KeepSecurity user (ssoLoginByEmail input user).writes := by
  unfold ssoLoginByEmail
  split
  · exact List.forall_mem_nil _
  split
  · exact List.forall_mem_nil _
  exact ssoSession_security (List.forall_mem_singleton.mpr rfl) rfl

theorem verifyEmail_security {committed : Bool} :
    KeepSecurity user (Result.inTx committed (verifyEmail user)).writes := by
  unfold Result.inTx verifyEmail
  split
  · split
    · exact List.forall_mem_nil _
    · exact List.forall_mem_singleton.mpr rfl
  · exact List.forall_mem_nil _

theorem rewrite_security (env : Env) (other : Rewrite) (user : User) :
    KeepSecurity user (other.result env user).writes := by
  cases other with
  | login input =>
    refine security_ofUpdate fun updated hok => ?_
    rw [login_ok hok]
  | ssoLogin identityFound input =>
    cases identityFound with
    | true => exact ssoLoginByIdentity_security
    | false => exact ssoLoginByEmail_security
  | updateProfile input =>
    refine security_ofUpdate fun updated hok => ?_
    obtain ⟨_, _, hok⟩ := bind_eq_ok.mp hok
    cases hok
    rfl
  | verifyEmail tokenValid committed =>
    cases tokenValid with
    | true => exact verifyEmail_security
    | false => exact List.forall_mem_nil _
  | acceptInvite committed => exact verifyEmail_security

/-! ## Interleavings -/

theorem other_preserves (env : Env) (change : SecurityChange) (other : Rewrite) (row : User)
    (schedule : List Party) :
    ((run (start env change other row) schedule).procs .other).Preserves User.security := by
  have hstep : ∀ (sys : System Party (Writer User) User) (i : Party),
      (sys.procs .other).Preserves User.security →
        ((sys.step Writer.stmt i).procs .other).Preserves User.security := by
    intro sys i h
    by_cases hi : i = .other
    · subst hi
      exact h.step sys.shared
    · rwa [System.step_other sys (Ne.symm hi)]
  have hstart : ((start env change other row).procs .other).Preserves User.security :=
    rewrite_security env other
  exact Trace.run_induct hstep hstart schedule

/-- In every interleaving in which the change is written and both requests finish, the
four columns are those the change has written, unless at that moment the other
request still has to write a row it has read with other values in them. -/
theorem security_kept_iff (env : Env) (change : SecurityChange) (other : Rewrite) (row : User)
    (before after : List Party) (snapshot written : User)
    (hwrite : (run (start env change other row) before).procs .writer = .writing snapshot [written])
    (hdone : ((run (start env change other row) (before ++ .writer :: after)).procs
      .other).Finished) :
    (run (start env change other row) (before ++ .writer :: after)).shared.security =
        written.security ↔
      ¬ ((run (start env change other row) before).procs .other).Stale User.security written := by
  rw [run, Trace.run_append, Trace.run_cons] at hdone ⊢
  exact view_after_write_iff hwrite (other_preserves env change other row before) hdone

/-! ## A migration beside a login -/

/-- The password functions on one password, and no further checks. -/
def sampleEnv : Env where
  checkPassword hash password :=
    hash = "$2a$05$CCCCCCCCCCCCCCCCCCCCC.E5YPO9kmyuRGyh0XouQYb4YMJKvyOeW" && password = "U*U"
  hashPassword _ := .error "hash password: not called"
  validatePassword _ := .ok ()
  requireEmailVerification := false
  enforceSSOForSystemAdmins := false

/-- The row that a migration to SSO writes. -/
def migratedUser : User :=
  { sampleUser with passwordHash := none, authMethodLock := some "sso" }

/-- A migration to SSO beside a login with the right password. -/
def migrationBesideLogin : System Party (Writer User) User :=
  start sampleEnv (.migrateToSSO (some 1))
    (.login ⟨"U*U", none, .ok false, some 1, some 1, .ok ()⟩) sampleUser

/-- A login that is finished before the migration writes does no harm. -/
theorem security_kept_after_login :
    (run migrationBesideLogin ([.other, .writer, .other] ++ .writer :: [])).shared.security =
      migratedUser.security :=
  (security_kept_iff sampleEnv (.migrateToSSO (some 1))
    (.login ⟨"U*U", none, .ok false, some 1, some 1, .ok ()⟩) sampleUser [.other, .writer, .other]
    [] sampleUser migratedUser rfl rfl).mpr fun hstale => hstale.1 rfl

/-- A login that has read the row before the migration and writes it afterwards brings
the old password back and removes the lock. -/
theorem security_lost :
    (run migrationBesideLogin [.other, .writer]).procs .writer =
        .writing sampleUser [migratedUser] ∧
      ((run migrationBesideLogin ([.other, .writer] ++ .writer :: [.other])).procs
        .other).Finished ∧
      (run migrationBesideLogin ([.other, .writer] ++ .writer :: [.other])).shared.security ≠
        migratedUser.security :=
  ⟨rfl, rfl, by decide +kernel⟩

end BurnerByte.Account
