import BurnerByte.Core.Interleaving
import BurnerByte.Org.Owners

/-!
# Owners beside concurrent calls

`ChangeRole` and `DeactivateUser` read the membership of their target, count the owners
if the target is one of them, and write. These are statements of their own and no lock is
taken, so other calls may write between them: what a call has counted can be out of date
when it writes. A schedule keeps an owner exactly if no write of it strikes a member who
has become the last owner by then.

The deletions of `DeactivateUser` are one transaction and become visible at its commit, so
they are one statement here.
-/

namespace BurnerByte.Org

open Interleaving Sql Rbac

inductive Stage where
  | reading
  | counting
  | writing

/-- A call of the service, before one of its statements or after the last. -/
inductive Call where
  | changeRole (targetUserID : UUID) (role : String) (stage : Stage)
  | deactivateUser (targetUserID : UUID) (stage : Stage)
  | returned (result : Except String Unit)

section

variable (env : Env) (orgID : UUID)

/-- The next statement of a call on the org. -/
def stmt : Call → Db → Call × Db
  | .changeRole target role .reading, db =>
    if !validOrgRole env role then (.returned (.error ("invalid role: " ++ role)), db)
    else
      match db.memberships.find? (target, orgID) with
      | none => (.returned (.error RepoError.notFound.message), db)
      | some current =>
        if current.role = "owner" && role ≠ "owner" then (.changeRole target role .counting, db)
        else (.changeRole target role .writing, db)
  | .changeRole target role .counting, db =>
    if db.countOwners orgID ≤ 1 then (.returned (.error "cannot remove the last owner"), db)
    else (.changeRole target role .writing, db)
  | .changeRole target role .writing, db =>
    match db.updateMemberRole target orgID role with
    | .ok db' => (.returned (.ok ()), db')
    | .error err => (.returned (.error err.message), db)
  | .deactivateUser target .reading, db =>
    match db.memberships.find? (target, orgID) with
    | none => (.returned (.error "user is not a member of this organization"), db)
    | some current =>
      if current.role = "owner" then (.deactivateUser target .counting, db)
      else (.deactivateUser target .writing, db)
  | .deactivateUser target .counting, db =>
    if db.countOwners orgID ≤ 1 then (.returned (.error "cannot deactivate the last owner"), db)
    else (.deactivateUser target .writing, db)
  | .deactivateUser target .writing, db =>
    (.returned (.ok ()), db.deleteMembership target orgID)
  | .returned result, db => (.returned result, db)

/-- A call that no other call interrupts. -/
def Call.alone (call : Call) (db : Db) : Call × Db :=
  (fun s => stmt env orgID s.1 s.2)^[3] (call, db)

end

variable {env : Env} {orgID target : UUID} {role : String} {db : Db}

/-- Without interruption the statements are those of `changeRole`. -/
theorem alone_changeRole :
    Call.alone env orgID (.changeRole target role .reading) db =
      (.returned ((changeRole env db orgID target role).map fun _ => ()),
        (changeRole env db orgID target role).toOption.getD db) := by
  unfold Call.alone changeRole
  cases hvalid : validOrgRole env role with
  | false => simp [stmt, hvalid, Except.map, Except.toOption]
  | true =>
    cases hfind : db.memberships.find? (target, orgID) with
    | none => simp [stmt, hvalid, hfind, Except.map, Except.toOption]
    | some current =>
      by_cases howner : current.role = "owner" ∧ role ≠ "owner"
      · by_cases hcount : db.countOwners orgID ≤ 1
        · simp [stmt, hvalid, hfind, howner, hcount, Except.map, Except.toOption]
        · cases hupdate : db.updateMemberRole target orgID role <;>
            simp [stmt, hvalid, hfind, howner, hcount, hupdate, Except.map, Except.toOption]
      · cases hupdate : db.updateMemberRole target orgID role <;>
          simp [stmt, hvalid, hfind, howner, hupdate, Except.map, Except.toOption]

/-- Without interruption the statements are those of `deactivateUser`. -/
theorem alone_deactivateUser :
    Call.alone env orgID (.deactivateUser target .reading) db =
      (.returned ((deactivateUser db orgID target).map fun _ => ()),
        (deactivateUser db orgID target).toOption.getD db) := by
  unfold Call.alone deactivateUser
  cases hfind : db.memberships.find? (target, orgID) with
  | none => simp [stmt, hfind, Except.map, Except.toOption]
  | some current =>
    by_cases howner : current.role = "owner"
    · by_cases hcount : db.countOwners orgID ≤ 1
      · simp [stmt, hfind, howner, hcount, Except.map, Except.toOption]
      · simp [stmt, hfind, howner, hcount, Except.map, Except.toOption]
    · simp [stmt, hfind, howner, Except.map, Except.toOption]

/-! ## The last owner -/

/-- What the two calls refuse: the user owns the org, and nobody else is counted. -/
def Db.isLastOwner (db : Db) (orgID userID : UUID) : Bool :=
  (db.memberships.find? (userID, orgID)).any (fun m => m.role = "owner") &&
    db.countOwners orgID ≤ 1

variable {userID : UUID}

/-- Of an org with owners, the last one is who has nobody beside them. -/
theorem Db.Owned.ownedBeside_iff (h : db.Owned orgID) :
    db.OwnedBeside orgID userID ↔ db.isLastOwner orgID userID = false := by
  unfold Db.isLastOwner
  constructor
  · rintro ⟨other, hother, horg, hrole, huser⟩
    cases hfind : db.memberships.find? (userID, orgID) with
    | none => rfl
    | some m =>
      obtain ⟨hm, hkey⟩ := Table.find?_eq_some_iff.mp hfind
      obtain ⟨hmuser, hmorg⟩ := Prod.mk.inj hkey
      by_cases hmrole : m.role = "owner"
      · have hne : m ≠ other := fun heq => huser (heq ▸ hmuser)
        have hcount : 1 < db.countOwners orgID := Table.one_lt_length_filter hm hother
          (by simp [hmorg, hmrole]) (by simp [horg, hrole]) hne
        simp [Nat.not_le.mpr hcount]
      · simp [hmrole]
  · intro hlast
    by_cases hcount : 1 < db.countOwners orgID
    · exact db.ownedBeside_of_countOwners hcount userID
    obtain ⟨m, hm, horg, hrole⟩ := h
    refine ⟨m, hm, horg, hrole, ?_⟩
    rintro rfl
    have hfind : db.memberships.find? (m.userID, orgID) = some m :=
      Table.find?_eq_some_iff.mpr ⟨hm, by rw [membershipKey, horg]⟩
    simp [hfind, hrole, Nat.not_lt.mp hcount] at hlast

/-! ## Statements and owners -/

/-- Whose role of an owner the next statement takes, if they have it. -/
def Call.removes : Call → Option UUID
  | .changeRole target role .writing =>
    if role ∈ orgRoles ∧ role ≠ "owner" then some target else none
  | .deactivateUser target .writing => some target
  | _ => none

variable {call : Call}

theorem owned_deleteMembership_iff :
    (db.deleteMembership target orgID).Owned orgID ↔ db.OwnedBeside orgID target := by
  constructor
  · rintro ⟨m, hm, horg, howner⟩
    obtain ⟨hold, hkey⟩ := Table.mem_deleteWhere.mp hm
    refine ⟨m, hold, horg, howner, ?_⟩
    rintro rfl
    simp [membershipKey, horg] at hkey
  · rintro ⟨m, hm, horg, howner, huser⟩
    exact ⟨m, Table.mem_deleteWhere.mpr ⟨hm, by simp [membershipKey, huser]⟩, horg, howner⟩

/-- A write that takes the role of an owner leaves the org with one if there is another. -/
theorem owned_stmt_of_removes (h : db.Owned orgID) (hremoves : call.removes = some target) :
    (stmt env orgID call db).2.Owned orgID ↔ db.OwnedBeside orgID target := by
  unfold Call.removes at hremoves
  split at hremoves
  · rename_i target' role
    split at hremoves
    · rename_i hrole
      obtain rfl := Option.some.inj hremoves
      cases hupdate : db.updateMemberRole target' orgID role with
      | ok db' =>
        rw [stmt, hupdate]
        have hrole := hrole.2
        obtain ⟨_, _, _, _, hmem⟩ := updateMemberRole_ok hupdate
        constructor
        · rintro ⟨m, hm, rfl, howner⟩
          -- the row of the target has the new role
          rcases (hmem m).mp hm with rfl | ⟨hold, hkey⟩
          · exact absurd howner hrole
          · exact ⟨m, hold, rfl, howner, fun huser => hkey (by rw [membershipKey, huser])⟩
        · rintro ⟨m, hm, horg, howner, huser⟩
          exact ⟨m, (hmem m).mpr (.inr ⟨hm, fun hkey => huser (Prod.mk.inj hkey).1⟩), horg, howner⟩
      | error err =>
        rw [stmt, hupdate]
        cases hfind : db.memberships.find? (target', orgID) with
        | none =>
          -- who is no member cannot be the last owner
          refine iff_of_true h ?_
          rw [h.ownedBeside_iff, Db.isLastOwner, hfind]
          rfl
        | some m => simp [Db.updateMemberRole, hrole.1, hfind] at hupdate
    · cases hremoves
  · obtain rfl := Option.some.inj hremoves
    exact owned_deleteMembership_iff
  · cases hremoves

/-- Every other statement keeps the owners. -/
theorem Db.Owned.stmt (h : db.Owned orgID) (hremoves : call.removes = none) :
    (stmt env orgID call db).2.Owned orgID := by
  cases call with
  | changeRole target' role stage =>
    cases stage with
    | reading =>
      rw [Org.stmt]
      split
      · exact h
      split
      · exact h
      · split <;> exact h
    | counting =>
      rw [Org.stmt]
      split <;> exact h
    | writing =>
      cases hupdate : db.updateMemberRole target' orgID role with
      | error err => simpa [Org.stmt, hupdate] using h
      | ok db' =>
        rw [Org.stmt, hupdate]
        obtain ⟨hmem, current, hfind, _⟩ := updateMemberRole_ok hupdate
        have hrole : role = "owner" := by simpa [Call.removes, hmem] using hremoves
        exact h.updateMemberRole hfind (fun _ => .inl hrole) hupdate
  | deactivateUser target' stage =>
    cases stage with
    | reading =>
      rw [Org.stmt]
      split
      · exact h
      · split <;> exact h
    | counting =>
      rw [Org.stmt]
      split <;> exact h
    | writing => cases hremoves
  | returned result => exact h

/-! ## Schedules -/

/-- The next statement of a call takes the role of an owner from nobody who is by then the
last owner. -/
def Harmless {ι : Type} (orgID : UUID) (sys : System ι Call Db) (i : ι) : Prop :=
  ∀ target ∈ (sys.procs i).removes, sys.shared.isLastOwner orgID target = false
  deriving Decidable

section

variable {ι : Type} [DecidableEq ι] {sys : System ι Call Db}

theorem harmless_iff (h : sys.shared.Owned orgID) (i : ι) :
    Harmless orgID sys i ↔ (sys.step (stmt env orgID) i).shared.Owned orgID := by
  unfold Harmless
  rw [System.step_shared]
  cases hremoves : (sys.procs i).removes with
  | none => exact iff_of_true (fun _ hnone => (by cases hnone)) (h.stmt hremoves)
  | some target =>
    rw [owned_stmt_of_removes h hremoves, h.ownedBeside_iff]
    exact ⟨fun hall => hall target rfl, fun hlast _ hsome => Option.some.inj hsome ▸ hlast⟩

/-- Whatever calls run side by side on the org, it has an owner at every moment of a
schedule exactly if no write of the schedule strikes the last owner. -/
theorem owner_in_every_schedule_iff (howned : sys.shared.Owned orgID) (schedule : List ι) :
    (∀ done, done <+: schedule →
      (Trace.run (System.step (stmt env orgID)) sys done).shared.Owned orgID) ↔
      Trace.Guarded (System.step (stmt env orgID)) (Harmless orgID) sys schedule := by
  have hstep : ∀ (sys : System ι Call Db) i, sys.shared.Owned orgID →
      (Harmless orgID sys i ↔ (sys.step (stmt env orgID) i).shared.Owned orgID) :=
    fun _ i h => harmless_iff h i
  exact (@Trace.Guarded.iff_always _ _ _ _ (fun sys : System ι Call Db =>
    sys.shared.Owned orgID) _ _ howned hstep).symm

end

/-! ## Two owners -/

/-- Users 2 and 4 own the org. One of two calls is about user 2, the other about user 4. -/
def bothOwners (first second : Call) : System Bool Call Db where
  procs
    | false => first
    | true => second
  shared := sampleDb

/-- Each call makes its three statements without interruption: the second is refused. -/
theorem second_demotion_refused :
    (Trace.run (System.step (stmt sampleEnv 1))
      (bothOwners (.changeRole 2 "member" .reading) (.deactivateUser 4 .reading))
      [false, false, false, true, true, true]).shared.Owned 1 :=
  (owner_in_every_schedule_iff (by decide) _).mpr (by decide +kernel) _ (List.prefix_refl _)

/-- Both calls count two owners before either writes: two demotions, two removals, or one of
each. The org is left without an owner. -/
theorem both_owners_removed :
    sampleDb.Owned 1 ∧
      (∀ calls ∈ [bothOwners (.changeRole 2 "member" .reading) (.changeRole 4 "admin" .reading),
          bothOwners (.changeRole 2 "member" .reading) (.deactivateUser 4 .reading),
          bothOwners (.deactivateUser 2 .reading) (.deactivateUser 4 .reading)],
        ¬ (Trace.run (System.step (stmt sampleEnv 1)) calls
          [false, false, true, true, false, true]).shared.Owned 1) := by
  decide +kernel

end BurnerByte.Org
