import BurnerByte.Org.Members

/-!
# What the requests of an org do

A request that succeeds has passed its checks and made its statements. Each lemma below
says so for one request, so that no other proof has to look into the handlers.
-/

namespace BurnerByte.Org

open Sql Handler Rbac Outcome

variable {db db' : Db} {userID orgID : UUID} {role : String} {env : Env} {uc : UserContext}
  {orgParam : Option UUID}

theorem createMembership_ok (h : db.createMembership userID orgID role = .ok db') :
    ∃ (hrole : role ∈ orgRoles) (memberships : _),
      db.memberships.insert ⟨userID, orgID, role, hrole⟩ = some memberships ∧
        db' = { db with memberships } := by
  unfold Db.createMembership at h
  split at h
  · rename_i hrole
    split at h
    · cases h
    rename_i memberships hinsert
    split at h
    · cases h
    · exact ⟨hrole, memberships, hinsert, (Except.ok.inj h).symm⟩
  · cases h

theorem directAddMember_ok (h : directAddMember env db orgID userID role = .ok db') :
    db.createMembership userID orgID role = .ok db' := by
  unfold directAddMember at h
  split at h
  · cases h
  split at h
  · cases h
  split at h
  · rename_i created hcreate
    rw [hcreate, Except.ok.inj h]
  · cases h
  · cases h

theorem handleDirectAdd_ok {userText : IdText}
    (h : handleDirectAdd env uc orgParam userText role db = .ok db') :
    ∃ orgID userID, orgParam = some orgID ∧
      checkOrgPermission (db.checker env) (some uc) orgID "org.members.add" = .ok () ∧
      db.createMembership userID orgID role = .ok db' := by
  unfold handleDirectAdd at h
  split at h
  · cases h
  rename_i orgID
  obtain ⟨_, hcheck, hbody⟩ := bind_eq_ok.mp h
  split at hbody
  · cases hbody
  split at hbody
  · cases hbody
  · cases hbody
  rename_i userID _
  split at hbody
  · rename_i created hadd
    cases hbody
    exact ⟨orgID, userID, rfl, hcheck, directAddMember_ok hadd⟩
  · cases hbody

/-- A membership that exists gets a role of the database; the others stay as they are. -/
theorem updateMemberRole_ok (h : db.updateMemberRole userID orgID role = .ok db') :
    ∃ (hrole : role ∈ orgRoles) (current : _),
      db.memberships.find? (userID, orgID) = some current ∧ db'.invites = db.invites ∧
        ∀ m, m ∈ db'.memberships ↔ m = { current with role, role_mem := hrole } ∨
          m ∈ db.memberships ∧ membershipKey m ≠ (userID, orgID) := by
  unfold Db.updateMemberRole at h
  split at h
  · rename_i hrole
    obtain ⟨hmember, h⟩ := guard_eq_ok.mp h
    cases h
    obtain ⟨current, hcurrent⟩ := Option.ne_none_iff_exists'.mp (by simpa using hmember)
    exact ⟨hrole, current, hcurrent, rfl, fun _ => Table.mem_updateKey (by intro _; rfl) hcurrent⟩
  · cases h

/-- A role is changed unless that takes the role of the last owner. -/
theorem changeRole_ok (h : changeRole env db orgID targetUserID role = .ok db') :
    ∃ current, db.memberships.find? (targetUserID, orgID) = some current ∧
      (current.role = "owner" → role = "owner" ∨ 1 < db.countOwners orgID) ∧
      db.updateMemberRole targetUserID orgID role = .ok db' := by
  unfold changeRole at h
  split at h
  · cases h
  split at h
  · cases h
  rename_i current hcurrent
  split at h
  · cases h
  rename_i hlast
  split at h
  · rename_i updated hupdate
    cases h
    refine ⟨current, hcurrent, fun howner => ?_, hupdate⟩
    by_cases hrole : role = "owner"
    · exact .inl hrole
    · exact .inr (by simpa [howner, hrole] using hlast)
  · cases h

theorem handleChangeRole_ok (h : handleChangeRole env uc orgParam userParam role db = .ok db') :
    ∃ orgID userID, orgParam = some orgID ∧
      (db.checker env).requireRankAbove (some uc) orgID userID = .ok () ∧
      changeRole env db orgID userID role = .ok db' := by
  unfold handleChangeRole at h
  split at h
  · cases h
  rename_i orgID
  obtain ⟨_, _, hparam⟩ := bind_eq_ok.mp h
  split at hparam
  · cases hparam
  rename_i userID
  obtain ⟨_, hrank, hbody⟩ := bind_eq_ok.mp hparam
  split at hbody
  · rename_i updated hchange
    cases hbody
    exact ⟨orgID, userID, rfl, rbacError_ok hrank, hchange⟩
  · cases hbody

/-- A member is deactivated unless they are the last owner. -/
theorem deactivateUser_ok (h : deactivateUser db orgID targetUserID = .ok db') :
    ∃ m, db.memberships.find? (targetUserID, orgID) = some m ∧
      (m.role = "owner" → 1 < db.countOwners orgID) ∧
      db' = db.deleteMembership targetUserID orgID := by
  unfold deactivateUser at h
  split at h
  · cases h
  rename_i m hm
  obtain ⟨hlast, h⟩ := guard_eq_ok.mp h
  refine ⟨m, hm, fun howner => ?_, (Except.ok.inj h).symm⟩
  simpa [howner] using hlast

theorem handleDeactivate_ok (h : handleDeactivate env uc orgParam userParam db = .ok db') :
    ∃ orgID userID, orgParam = some orgID ∧ userParam = some userID ∧ userID ≠ uc.userID ∧
      checkOrgPermission (db.checker env) (some uc) orgID "org.members.remove" = .ok () ∧
      deactivateUser db orgID userID = .ok db' := by
  unfold handleDeactivate at h
  split at h
  · cases h
  rename_i orgID
  obtain ⟨_, hcheck, hparam⟩ := bind_eq_ok.mp h
  split at hparam
  · cases hparam
  rename_i userID
  obtain ⟨hother, hbody⟩ := guard_eq_ok.mp hparam
  split at hbody
  · rename_i deleted hdeactivate
    cases hbody
    exact ⟨orgID, userID, rfl, rfl, hother, hcheck, hdeactivate⟩
  · cases hbody

/-- Only invitations change, and a new one is for the org and the role. -/
structure InvitesOnly (orgID : UUID) (role : String) (db db' : Db) : Prop where
  memberships : db'.memberships = db.memberships
  invites : ∀ inv ∈ db'.invites, inv ∈ db.invites ∨ inv.orgID = orgID ∧ inv.orgRole = role

namespace InvitesOnly

variable {orgID : UUID} {role : String} {db mid db' : Db}

theorem refl (db : Db) : InvitesOnly orgID role db db := ⟨rfl, fun _ hinv => .inl hinv⟩

theorem trans (h : InvitesOnly orgID role db mid) (h' : InvitesOnly orgID role mid db') :
    InvitesOnly orgID role db db' where
  memberships := h'.memberships.trans h.memberships
  invites := by
    intro inv hinv
    cases h'.invites inv hinv with
    | inl hmid => exact h.invites inv hmid
    | inr hnew => exact .inr hnew

theorem deletePending (db : Db) (orgID' : UUID) (email : String) :
    InvitesOnly orgID role db (db.deletePendingInviteByEmail orgID' email) :=
  ⟨rfl, fun _ hinv => .inl (Table.mem_deleteWhere.mp hinv).1⟩

theorem createInvite {id invitedBy : UUID} {email tokenHash : String} {expiresAt : Nat}
    (h : db.createInvite id orgID email role tokenHash invitedBy expiresAt = some db') :
    InvitesOnly orgID role db db' := by
  unfold Db.createInvite at h
  split at h
  · obtain ⟨invites, hinsert, rfl⟩ := Option.map_eq_some_iff.mp h
    refine ⟨rfl, ?_⟩
    intro inv hinv
    rcases ((Table.insert_eq_some hinsert).2 inv).mp hinv with rfl | hold
    · exact .inr ⟨rfl, rfl⟩
    · exact .inl hold
  · cases h

theorem createInvites {inviterID : UUID} {fresh : Nat → UUID × String} {emails : List String}
    (h : Org.createInvites env now db orgID inviterID role fresh emails = some db') :
    InvitesOnly orgID role db db' := by
  unfold Org.createInvites at h
  generalize emails.zipIdx = entries at h
  induction entries generalizing db with
  | nil =>
    obtain rfl := Option.some.inj h
    exact refl db
  | cons entry entries ih =>
    obtain ⟨next, hnext, hrest⟩ := Option.bind_eq_some_iff.mp h
    exact ((deletePending db orgID entry.1).trans (createInvite hnext)).trans (ih hrest)

end InvitesOnly

theorem inviteMember_invitesOnly (env : Env) (now : Nat) (db : Db) (orgID : UUID)
    (input : InviteInput) (inviterID id : UUID) (token : String) :
    InvitesOnly orgID input.orgRole db
      (inviteMember env now db orgID input inviterID id token).2 := by
  unfold inviteMember
  split
  · exact .refl db
  dsimp only
  iterate 3
    split
    · exact .refl db
  · exact .refl db
  split
  · exact .deletePending db orgID _
  split
  · exact .deletePending db orgID _
  rename_i hcreate
  exact (InvitesOnly.deletePending db orgID _).trans (.createInvite hcreate)

/-- An invitation request changes nothing, or comes from a member of the org. -/
theorem handleInvite_cases (env : Env) (now : Nat) (uc : UserContext) (orgParam : Option UUID)
    (input : InviteInput) (id : UUID) (token : String) (db : Db) :
    (handleInvite env now uc orgParam input id token db).2 = db ∨
      ∃ orgID, orgParam = some orgID ∧
        checkOrgPermission (db.checker env) (some uc) orgID "org.members.invite" = .ok () ∧
        InvitesOnly orgID input.orgRole db
          (handleInvite env now uc orgParam input id token db).2 := by
  unfold handleInvite
  split
  · exact .inl rfl
  rename_i orgID
  split
  · exact .inl rfl
  rename_i hcheck
  have honly := inviteMember_invitesOnly env now db orgID input uc.userID id token
  refine .inr ⟨orgID, rfl, hcheck, ?_⟩
  split <;> rename_i hinvite <;> rw [hinvite] at honly <;> exact honly

theorem handleBulkInvite_ok {input : BulkInviteInput} {fresh : Nat → UUID × String}
    (h : handleBulkInvite env now uc orgParam input fresh db = .ok db') :
    ∃ orgID, orgParam = some orgID ∧
      checkOrgPermission (db.checker env) (some uc) orgID "org.members.invite" = .ok () ∧
      InvitesOnly orgID input.orgRole db db' := by
  unfold handleBulkInvite at h
  split at h
  · cases h
  rename_i orgID
  obtain ⟨_, hcheck, hbody⟩ := bind_eq_ok.mp h
  split at hbody
  · rename_i created hbulk
    cases hbody
    refine ⟨orgID, rfl, hcheck, ?_⟩
    unfold bulkInviteMembers at hbulk
    iterate 3
      split at hbulk
      · cases hbulk
    · cases hbulk
    split at hbulk
    · cases hbulk
    rename_i hcreate
    rw [← Except.ok.inj hbulk]
    exact .createInvites hcreate
  · cases hbody

theorem handleAccept_ok {token : String} {committed : Bool}
    (h : handleAccept env now uc token committed db = .ok db') :
    db' = db ∨ ∃ invite ∈ db.invites, invite.tokenHash = env.hashToken token ∧
      ∃ joined, db.createMembership uc.userID invite.orgID invite.orgRole = .ok joined ∧
        db'.memberships = joined.memberships ∧
        ∀ inv ∈ db'.invites, ∃ old ∈ db.invites, old.tokenHash = inv.tokenHash ∧
          old.orgID = inv.orgID ∧ old.orgRole = inv.orgRole := by
  unfold handleAccept acceptInvite at h
  split at h
  · rename_i accepted haccept
    cases h
    split at haccept
    · cases haccept
    rename_i invite hfind
    split at haccept
    · exact .inl (Except.ok.inj haccept).symm
    iterate 3
      split at haccept
      · cases haccept
    · cases haccept
    rename_i joined hjoin
    split at haccept
    · cases haccept
    cases haccept
    refine .inr ⟨invite, List.mem_of_find?_eq_some hfind, by
      simpa using List.find?_some hfind, joined, hjoin, rfl, fun inv hinv => ?_⟩
    obtain ⟨_, memberships, _, rfl⟩ := createMembership_ok hjoin
    rw [Table.mem_updateWhere] at hinv
    obtain ⟨old, hold, rfl⟩ := hinv
    refine ⟨old, hold, ?_⟩
    split <;> exact ⟨rfl, rfl, rfl⟩
  · cases h

end BurnerByte.Org
