import BurnerByte.Account.Rotation

/-!
# Revoking a family

A family is revoked by `Logout`, by `RevokeAllSessions` of its user, and by a
`Refresh` that finds its token used before. Each of these ends with one statement
that revokes every session there is. A `Refresh` that has looked its session up and
has not yet created the next one is not stopped by it: what it creates afterwards is
unrevoked. The revocation is final exactly if no such call is under way.
-/

namespace BurnerByte.Account

open Sql Interleaving

universe u

variable {ι : Type u}

/-! ## Calls that revoke -/

/-- Where a call of `Logout` stands. An unknown token is a success. -/
inductive Logout where
  | lookup (tokenHash : String)
  | revokeFamily (session : Session)
  | done (session : Option Session)

def Logout.stmt : Logout → Sessions → Logout × Sessions
  | .lookup tokenHash, db =>
    match db.getByTokenHash tokenHash with
    | none => (.done none, db)
    | some session => (.revokeFamily session, db)
  | .revokeFamily session, db => (.done (some session), db.revokeByFamily session.tokenFamily)
  | .done session, db => (.done session, db)

inductive RevokeAllSessions where
  | revokeAll (userID : UUID)
  | done (count : Nat)

def RevokeAllSessions.stmt : RevokeAllSessions → Sessions → RevokeAllSessions × Sessions
  | .revokeAll userID, db => (.done (db.revokeAllCount userID), db.revokeAll userID)
  | .done count, db => (.done count, db)

/-- A call of one of the three methods. -/
inductive SessionCall where
  | refresh (call : Refresh)
  | logout (call : Logout)
  | revokeAllSessions (call : RevokeAllSessions)

def SessionCall.stmt : SessionCall → Sessions → SessionCall × Sessions
  | .refresh call, db => (.refresh (call.stmt db).1, (call.stmt db).2)
  | .logout call, db => (.logout (call.stmt db).1, (call.stmt db).2)
  | .revokeAllSessions call, db => (.revokeAllSessions (call.stmt db).1, (call.stmt db).2)

inductive SessionRequest where
  | refresh (input : RefreshInput)
  | logout (tokenHash : String)
  | revokeAllSessions (userID : UUID)

def SessionRequest.call : SessionRequest → SessionCall
  | .refresh input => .refresh (.lookup input)
  | .logout tokenHash => .logout (.lookup tokenHash)
  | .revokeAllSessions userID => .revokeAllSessions (.revokeAll userID)

abbrev SessionCalls (ι : Type u) := System ι SessionCall Sessions

def SessionCalls.start (requests : ι → SessionRequest) (db : Sessions) : SessionCalls ι :=
  ⟨fun i => (requests i).call, db⟩

/-! ## Revocations and rotations under way -/

/-- No session of the family is unrevoked. -/
def Sessions.Revoked (db : Sessions) (family : UUID) : Prop :=
  ∀ s ∈ db.sessions, s.tokenFamily = family → s.revoked = true

/-- The call's next statement is the one that revokes the family, and completes it. -/
def SessionCall.Revokes (family : UUID) (db : Sessions) : SessionCall → Prop
  | .refresh (.revokeFamily session) => session.tokenFamily = family
  | .logout (.revokeFamily session) => session.tokenFamily = family
  | .revokeAllSessions (.revokeAll userID) =>
    ∀ s ∈ db.sessions, s.tokenFamily = family → s.userID = userID
  | _ => False

/-- The session's user exists and is not locked to another sign-in method. -/
def Sessions.Admits (db : Sessions) (session : Session) : Prop :=
  ∃ user ∈ db.users session.userID, checkSessionAuthMethodLock user session = .ok ()

def Sessions.Unused (db : Sessions) (id : UUID) : Prop := ∀ s ∈ db.sessions, s.id ≠ id

/-- The call has looked up a session of the family and goes on to create the next one. -/
def Refresh.Continues (family : UUID) (db : Sessions) : Refresh → Prop
  | .revoke input session =>
    session.tokenFamily = family ∧ db.Admits session ∧ db.Unused input.newID
  | .getUser input session =>
    session.tokenFamily = family ∧ db.Admits session ∧ db.Unused input.newID
  | .create input session => session.tokenFamily = family ∧ db.Unused input.newID
  | _ => False

def SessionCall.Continues (family : UUID) (db : Sessions) : SessionCall → Prop
  | .refresh call => call.Continues family db
  | .logout _ | .revokeAllSessions _ => False

/-! ## One statement -/

/-- The users are the same, and no identifier of a session has become free. -/
structure Sessions.Extends (db db' : Sessions) : Prop where
  users : db'.users = db.users
  unused : ∀ id, db'.Unused id → db.Unused id

theorem Sessions.Extends.refl (db : Sessions) : db.Extends db := ⟨rfl, fun _ h => h⟩

theorem extends_revokeWhere (db : Sessions) (p : Session → Bool) :
    db.Extends (db.revokeWhere p) := by
  refine ⟨rfl, ?_⟩
  intro id h s hs
  obtain ⟨s', hs', hid, _⟩ := rowsKept_revokeWhere db p s hs
  rw [← hid]
  exact h s' hs'

variable {db : Sessions} {family : UUID} {call : SessionCall}

/-- Revoking takes no identifier. -/
theorem unused_revokeWhere {p : Session → Bool} {id : UUID} (h : db.Unused id) :
    (db.revokeWhere p).Unused id := by
  intro s hs
  obtain ⟨old, hold, rfl⟩ := mem_revokeWhere.mp hs
  split <;> exact h old hold

theorem SessionCall.Continues.of_extends {db' : Sessions} (h : call.Continues family db')
    (hext : db.Extends db') : call.Continues family db := by
  have hadmits : ∀ session, db'.Admits session → db.Admits session := by
    intro session ⟨user, huser, hlock⟩
    rw [hext.users] at huser
    exact ⟨user, huser, hlock⟩
  cases call with
  | refresh call =>
    cases call with
    | revoke input session | getUser input session =>
      exact ⟨h.1, hadmits session h.2.1, hext.unused _ h.2.2⟩
    | create input session => exact ⟨h.1, hext.unused _ h.2⟩
    | _ => exact h
  | _ => exact h

theorem SessionCall.Continues.revokeWhere (h : call.Continues family db) (p : Session → Bool) :
    call.Continues family (db.revokeWhere p) := by
  cases call with
  | refresh call =>
    cases call with
    | create input session => exact ⟨h.1, unused_revokeWhere h.2⟩
    | lookup _ | revokeFamily _ | revokeAgain _ _ | done _ => exact h
    | _ => exact ⟨h.1, h.2.1, unused_revokeWhere h.2.2⟩
  | _ => exact h

/-- A call that creates the next session. -/
theorem Refresh.stmt_create {input : RefreshInput} {session : Session} (h : db.Unused input.newID) :
    input.newSession session ∈ ((Refresh.create input session).stmt db).2.sessions := by
  have hfresh : ∀ s ∈ db.sessions, s.id ≠ (input.newSession session).id := h
  obtain ⟨sessions, hinsert⟩ := Table.exists_insert hfresh
  simp only [Refresh.stmt, hinsert]
  exact ((Table.insert_eq_some hinsert).2 _).mpr (.inl rfl)

/-- The statement of a call that revokes the family leaves no unrevoked session in it. -/
theorem SessionCall.Revokes.stmt (h : call.Revokes family db) :
    ∃ p, (call.stmt db).2 = db.revokeWhere p ∧ (db.revokeWhere p).Revoked family ∧
      ¬ (call.stmt db).1.Continues family (db.revokeWhere p) := by
  have hfamily : (db.revokeByFamily family).Revoked family := by
    intro s hs hsfamily
    by_contra hlive
    obtain ⟨_, hne⟩ := unrevoked_of_revokeWhere hs (by simpa using hlive)
    simp [hsfamily] at hne
  match call, h with
  | .refresh (.revokeFamily session), h =>
    obtain rfl : session.tokenFamily = family := h
    exact ⟨_, rfl, hfamily, id⟩
  | .logout (.revokeFamily session), h =>
    obtain rfl : session.tokenFamily = family := h
    exact ⟨_, rfl, hfamily, id⟩
  | .revokeAllSessions (.revokeAll userID), h =>
    refine ⟨_, rfl, ?_, id⟩
    intro s hs hsfamily
    by_contra hlive
    have hunrevoked : s.revoked = false := by simpa using hlive
    obtain ⟨hmem, hne⟩ := unrevoked_of_revokeWhere hs hunrevoked
    simp [h s hmem hsfamily, hunrevoked] at hne

variable [DecidableEq ι]

/-! ## Without a rotation under way the revocation is final -/

/-- The family has no unrevoked session, and no call goes on to create one. -/
structure Ended (family : UUID) (sys : SessionCalls ι) : Prop where
  revoked : sys.shared.Revoked family
  noneContinues : ∀ j, ¬ (sys.procs j).Continues family sys.shared

namespace Ended

variable {sys : SessionCalls ι}

variable {i : ι}

variable {input : RefreshInput} {session : Session}

section

variable (h : Ended family sys)

include h

theorem next (hext : sys.shared.Extends db) (hrevoked : db.Revoked family)
    (hcall : ¬ call.Continues family db) :
    Ended family (⟨Function.update sys.procs i call, db⟩ : SessionCalls ι) where
  revoked := hrevoked
  noneContinues := by
    intro j
    dsimp only
    by_cases hji : j = i
    · rw [hji, Function.update_self]
      exact hcall
    rw [Function.update_of_ne hji]
    intro hcontinues
    exact h.noneContinues j (hcontinues.of_extends hext)

/-- A statement that only revokes. -/
theorem revoke_step (p : Session → Bool)
    (hcall : ¬ call.Continues family (sys.shared.revokeWhere p)) :
    Ended family (⟨Function.update sys.procs i call, sys.shared.revokeWhere p⟩ : SessionCalls ι) :=
  h.next (extends_revokeWhere sys.shared p) (revoked_revokeWhere h.revoked) hcall

/-- A statement that only reads. -/
theorem read_step (hcall : ¬ call.Continues family sys.shared) :
    Ended family (⟨Function.update sys.procs i call, sys.shared⟩ : SessionCalls ι) :=
  h.next (.refl _) h.revoked hcall

/-- A lookup finds no unrevoked session of the family. -/
theorem lookup_step (i : ι) (input : RefreshInput) :
    Ended family (⟨Function.update sys.procs i (.refresh (.afterLookup input
      (sys.shared.getByTokenHash input.tokenHash))), sys.shared⟩ : SessionCalls ι) := by
  apply h.read_step
  unfold Refresh.afterLookup
  split
  · exact id
  rename_i session hfind
  split
  · exact id
  rename_i hlive
  split
  · exact id
  rintro ⟨hfamily, _⟩
  exact hlive (h.revoked session (List.mem_of_find?_eq_some hfind) hfamily)

theorem getUser_step (hproc : sys.procs i = .refresh (.getUser input session)) :
    Ended family (⟨Function.update sys.procs i (.refresh (.afterGetUser input session
      (sys.shared.users session.userID))), sys.shared⟩ : SessionCalls ι) := by
  apply h.read_step
  unfold Refresh.afterGetUser
  split
  · exact id
  rename_i user huser
  split
  · exact id
  rename_i hlock
  rintro ⟨hfamily, hunused⟩
  apply h.noneContinues i
  rw [hproc]
  exact ⟨hfamily, ⟨user, huser, hlock⟩, hunused⟩

theorem step (i : ι) : Ended family (sys.step SessionCall.stmt i) := by
  cases hproc : sys.procs i with
  | refresh call =>
    unfold System.step
    rw [hproc]
    cases call with
    | lookup input => exact h.lookup_step i input
    | revoke input session =>
      apply h.revoke_step
      intro hcontinues
      have hbefore : SessionCall.Continues family sys.shared (.refresh (.getUser input session)) :=
        hcontinues.of_extends (extends_revokeWhere _ _)
      apply h.noneContinues i
      rw [hproc]
      exact hbefore
    | getUser input session => exact h.getUser_step hproc
    | create input session =>
      simp only [SessionCall.stmt, Refresh.stmt]
      split
      · exact h.read_step id
      rename_i sessions hinsert
      -- A session that is created belongs to another family.
      obtain ⟨hunused, hmem⟩ := Table.insert_eq_some hinsert
      refine h.next ⟨rfl, fun _ h s hs => h s ((hmem s).mpr (.inr hs))⟩ ?_ id
      intro s hs hfamily
      cases (hmem s).mp hs with
      | inl hnew =>
        exfalso
        apply h.noneContinues i
        rw [hproc]
        rw [hnew] at hfamily
        exact ⟨hfamily, hunused⟩
      | inr hold => exact h.revoked s hold hfamily
    | done result => exact h.read_step id
    | _ => exact h.revoke_step _ id
  | logout call =>
    unfold System.step
    rw [hproc]
    cases call with
    | lookup tokenHash =>
      simp only [SessionCall.stmt, Logout.stmt]
      split <;> exact h.read_step id
    | revokeFamily session => exact h.revoke_step _ id
    | done session => exact h.read_step id
  | revokeAllSessions call =>
    unfold System.step
    rw [hproc]
    cases call with
    | revokeAll userID => exact h.revoke_step _ id
    | done count => exact h.read_step id

end

end Ended

/-! ## A rotation under way revives the family -/

variable {sys : SessionCalls ι} {j : ι}

/-- Some continuation of the schedule ends with an unrevoked session of the family. -/
def Revivable (family : UUID) (sys : SessionCalls ι) : Prop :=
  ∃ schedule, ¬ (Trace.run (System.step SessionCall.stmt) sys schedule).shared.Revoked family

theorem Revivable.of_step {i : ι}
    (h : Revivable family (sys.step SessionCall.stmt i)) : Revivable family sys := by
  obtain ⟨schedule, hschedule⟩ := h
  exact ⟨i :: schedule, hschedule⟩

variable {input : RefreshInput} {session : Session}

theorem revivable_create (hproc : sys.procs j = .refresh (.create input session))
    (h : (Refresh.create input session).Continues family sys.shared) : Revivable family sys := by
  refine ⟨[j], ?_⟩
  intro hrevoked
  have hmem : input.newSession session ∈ (sys.step SessionCall.stmt j).shared.sessions := by
    rw [System.step_shared, hproc]
    exact Refresh.stmt_create h.2
  have hnew := hrevoked _ hmem h.1
  cases hnew

theorem revivable_getUser (hproc : sys.procs j = .refresh (.getUser input session))
    (h : (Refresh.getUser input session).Continues family sys.shared) : Revivable family sys := by
  obtain ⟨hfamily, ⟨user, huser, hlock⟩, hunused⟩ := h
  have huser : sys.shared.users session.userID = some user := huser
  have hnext : (sys.step SessionCall.stmt j).procs j = .refresh (.create input session) := by
    simp only [System.step_self, hproc, SessionCall.stmt, Refresh.stmt, Refresh.afterGetUser,
      huser, hlock]
  apply Revivable.of_step (i := j)
  apply revivable_create hnext
  rw [System.step_shared, hproc]
  exact ⟨hfamily, hunused⟩

/-- A call that goes on creates its session within three statements. -/
theorem revivable_of_continues (h : (sys.procs j).Continues family sys.shared) :
    Revivable family sys := by
  cases hproc : sys.procs j with
  | refresh call =>
    rw [hproc] at h
    cases call with
    | revoke input session =>
      have hnext : (sys.step SessionCall.stmt j).procs j = .refresh (.getUser input session) := by
        simp only [System.step_self, hproc, SessionCall.stmt, Refresh.stmt]
      apply Revivable.of_step (i := j)
      apply revivable_getUser hnext
      rw [System.step_shared, hproc]
      exact ⟨h.1, h.2.1, unused_revokeWhere h.2.2⟩
    | getUser input session => exact revivable_getUser hproc h
    | create input session => exact revivable_create hproc h
    | _ => exact h.elim
  | _ =>
    rw [hproc] at h
    exact h.elim

/-- A call that revokes a family does not go on to create a session of one. -/
theorem SessionCall.Revokes.not_continues (h : call.Revokes family db) :
    ¬ call.Continues family db := by
  match call, h with
  | .refresh (.revokeFamily _), _ => exact id
  | .logout (.revokeFamily _), _ => exact id
  | .revokeAllSessions (.revokeAll _), _ => exact id

/-! ## Schedules -/

/-- Once a call has revoked a family, the family stays revoked in every continuation of
the schedule if and only if no `Refresh` of the family stands between its lookup and
the creation of the next session at that moment. -/
theorem family_stays_revoked_iff (requests : ι → SessionRequest) (db : Sessions)
    (before : List ι) (i : ι) (family : UUID)
    (h : ((Trace.run (System.step SessionCall.stmt) (SessionCalls.start requests db)
      before).procs i).Revokes family
      (Trace.run (System.step SessionCall.stmt) (SessionCalls.start requests db) before).shared) :
    (∀ after, (Trace.run (System.step SessionCall.stmt) (SessionCalls.start requests db)
        (before ++ i :: after)).shared.Revoked family) ↔
      ∀ j, ¬ ((Trace.run (System.step SessionCall.stmt) (SessionCalls.start requests db)
          before).procs j).Continues family
        (Trace.run (System.step SessionCall.stmt) (SessionCalls.start requests db)
          before).shared := by
  simp only [Trace.run_append, Trace.run_cons]
  generalize Trace.run (System.step SessionCall.stmt) (SessionCalls.start requests db) before =
    sys at h
  obtain ⟨p, hshared, hrevoked, hdone⟩ := h.stmt
  constructor
  · intro hfinal j hcontinues
    have hji : j ≠ i := by
      rintro rfl
      exact h.not_continues hcontinues
    have hstep : ((sys.step SessionCall.stmt i).procs j).Continues family
        (sys.step SessionCall.stmt i).shared := by
      rw [System.step_other sys hji, System.step_shared, hshared]
      exact hcontinues.revokeWhere p
    obtain ⟨after, hafter⟩ := revivable_of_continues hstep
    exact hafter (hfinal after)
  · intro hnone after
    have hended : Ended family (sys.step SessionCall.stmt i) := by
      refine ⟨?_, ?_⟩
      · rw [System.step_shared, hshared]
        exact hrevoked
      · intro j
        rw [System.step_shared, hshared]
        by_cases hji : j = i
        · rw [hji, System.step_self]
          exact hdone
        rw [System.step_other sys hji]
        intro hcontinues
        exact hnone j (hcontinues.of_extends (extends_revokeWhere _ _))
    have hrun := Trace.run_induct (fun sys i (hsys : Ended family sys) => hsys.step i) hended after
    exact hrun.revoked

/-- One session, which one call refreshes and the other logs out. -/
def logoutRequests : Bool → SessionRequest
  | false => .refresh ⟨"h1", 10, 2, "h2", 2000⟩
  | true => .logout "h1"

def logoutRun (schedule : List Bool) : SessionCalls Bool :=
  Trace.run (System.step SessionCall.stmt) (SessionCalls.start logoutRequests sampleSessions)
    schedule

/-- The refresh is done when the logout looks its session up. -/
theorem family_stays_revoked_sequential :
    SessionCall.Revokes 7 (logoutRun [false, false, false, false, true]).shared
        ((logoutRun [false, false, false, false, true]).procs true) ∧
      ∀ after, (logoutRun ([false, false, false, false, true] ++ true :: after)).shared.Revoked
        7 := by
  have hrevokes : SessionCall.Revokes 7 (logoutRun [false, false, false, false, true]).shared
      ((logoutRun [false, false, false, false, true]).procs true) := rfl
  refine ⟨hrevokes, (family_stays_revoked_iff logoutRequests sampleSessions
    [false, false, false, false, true] true 7 hrevokes).mpr ?_⟩
  intro j
  cases j <;> exact id

/-- The refresh creates its session after the logout has returned. -/
theorem family_revived :
    SessionCall.Revokes 7 (logoutRun [true, false, false, false]).shared
        ((logoutRun [true, false, false, false]).procs true) ∧
      ¬ (logoutRun ([true, false, false, false] ++ true :: [false])).shared.Revoked 7 := by
  refine ⟨rfl, ?_⟩
  intro hrevoked
  have hnew := hrevoked ⟨2, 1, "h2", 7, none, 2000, false⟩ (by decide +kernel) rfl
  cases hnew

end BurnerByte.Account
