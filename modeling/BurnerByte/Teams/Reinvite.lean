import BurnerByte.Teams.Disclosure

/-!
# Invitations that fail

`InviteMember` replaces a pending invitation of the address. The old one is deleted on its own,
before the single team of the new one is checked and before the transaction begins that stores it.
-/

namespace BurnerByte.Teams

open Sql

/-- The pending invitations of the organization are the same, with the same teams. -/
def SamePending (now : Nat) (orgID : UUID) (db db' : Db) : Prop :=
  ∀ inv, inv.orgID = orgID → inv.acceptedAt = none → now < inv.expiresAt →
    (inv ∈ db'.invites ↔ inv ∈ db.invites) ∧
      (inv ∈ db.invites → db'.teamsOf inv.id = db.teamsOf inv.id)

section

variable (env : Org.Env) (now : Nat) (db : Db) (orgID : UUID) (input : InviteMemberInput)

variable (inviterID id : UUID) (token : String)

/-- The transaction may also fail to begin, to store the rows or to commit. -/
def inviteMemberFailing (fault : Option String) : Except String Db.NewInvite × Db :=
  match fault, inviteMember env now db orgID input inviterID id token with
  | some msg, (.ok _, _) =>
    (.error msg, db.deletePendingInviteByEmail orgID (env.normalizeEmail input.email))
  | _, r => r

end

variable {env : Org.Env} {now : Nat} {db : Db} {orgID : UUID} {input : InviteMemberInput}
  {inviterID id : UUID} {token : String}

/-- The deletion is noticed exactly if the address has a pending invitation. -/
theorem samePending_delete_iff (email : String) :
    SamePending now orgID db (db.deletePendingInviteByEmail orgID email) ↔
      ¬ db.PendingIn now orgID email := by
  constructor
  · rintro hsame ⟨inv, hinv, horg, hemail, haccepted, hexpires⟩
    have hkept := (hsame inv horg haccepted hexpires).1.mpr hinv
    have hdeleted := (UniqueTable.mem_deleteWhere.mp hkept).2
    simp [horg, hemail, haccepted] at hdeleted
  · intro hnone inv horg haccepted hexpires
    have hspared (hinv : inv ∈ db.invites) :
        (inv.orgID = orgID && inv.email = email && inv.acceptedAt.isNone) = false := by
      have hemail : inv.email ≠ email :=
        fun hemail => hnone ⟨inv, hinv, horg, hemail, haccepted, hexpires⟩
      simp [hemail]
    refine ⟨?_, fun hinv => teamsOf_deleteInvites hinv (hspared hinv)⟩
    exact UniqueTable.mem_deleteWhere.trans (and_iff_left_of_imp hspared)

/-- A call that fails leaves the pending invitations of the organization alone exactly if it fails
before the deletion, or the address had none. -/
theorem failed_invite_keeps_iff (env : Org.Env) (now : Nat) (db : Db) (orgID : UUID)
    (input : InviteMemberInput) (inviterID id : UUID) (token : String) (fault : Option String)
    (h : (inviteMemberFailing env now db orgID input inviterID id token fault).1.toOption = none) :
    SamePending now orgID db
        (inviteMemberFailing env now db orgID input inviterID id token fault).2 ↔
      ¬ (Passes env db orgID input ∧
        db.PendingIn now orgID (env.normalizeEmail input.email)) := by
  have hrefl : SamePending now orgID db db := fun _ _ _ _ => ⟨Iff.rfl, fun _ => rfl⟩
  obtain ⟨hfails, _, hcall⟩ | ⟨hpasses, ⟨_, hcall⟩ | ⟨_, _, _, _, _, _, hcall⟩⟩ :=
    inviteMember_cases env now db orgID input inviterID id token
  · unfold inviteMemberFailing
    rw [hcall]
    exact iff_of_true (by cases fault <;> exact hrefl) fun hpending => hfails hpending.1
  · unfold inviteMemberFailing
    rw [hcall, and_iff_right hpasses, ← samePending_delete_iff]
    cases fault <;> rfl
  · unfold inviteMemberFailing at h ⊢
    rw [hcall] at h ⊢
    cases fault with
    | none => cases h
    | some reason => rw [and_iff_right hpasses, ← samePending_delete_iff]

/-- User 4 is invited to organization 1, and then again with a team that cannot be. -/
def reinviteFour (email : String) : Except String Db.NewInvite × Db :=
  inviteMemberFailing Org.sampleEnv 50 fourInvited 1
    ⟨email, "member", [], some .malformed, none, []⟩ 1 10 "t2" none

/-- Another address that fails leaves the invitation of user 4 alone. -/
theorem other_reinvite_keeps :
    SamePending 50 1 fourInvited (reinviteFour "e@example.com").2 := by
  refine (failed_invite_keeps_iff Org.sampleEnv 50 _ 1 _ 1 10 "t2" none (by decide +kernel)).mpr ?_
  rintro ⟨_, hpending⟩
  exact absurd hpending (by unfold Db.PendingIn; decide +kernel)

/-- The first invitation is gone. -/
theorem rejected_reinvite_destroys : (reinviteFour "d@example.com").1.toOption = none ∧
    ¬ SamePending 50 1 fourInvited (reinviteFour "d@example.com").2 := by
  have hgone : (reinviteFour "d@example.com").2.invites.rows.length = 0 := by decide +kernel
  obtain ⟨hinvite, _⟩ := UniqueTable.findBy_eq_some_iff.mp (Option.some_get blueInvite_isSome).symm
  refine ⟨by decide +kernel, fun hsame => ?_⟩
  have hkept := (hsame _ (by decide +kernel) (by decide +kernel) (by decide +kernel)).1.mpr hinvite
  exact absurd (List.length_pos_of_mem hkept) (by rw [hgone]; decide)

end BurnerByte.Teams
