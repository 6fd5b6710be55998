import BurnerByte.Teams.InviteEffects
import BurnerByte.Teams.Requests

/-!
# Inviting many addresses at once

`BulkInviteMembers` looks at every address first, and notes which ones are skipped and why. Then
it creates the invitations in one transaction. The transaction commits exactly if each of these
invitations can be stored, and the answer then lists the notes and the number of invitations.
-/

namespace BurnerByte.Teams

open Sql Rbac Outcome

/-! ## Statements -/

section

variable {db : Db} {new : Db.NewInvite}

theorem exists_createInvite (hholds : db.Holds new) (hid : ∀ inv ∈ db.invites, inv.id ≠ new.id)
    (hhash : ∀ inv ∈ db.invites, inv.tokenHash ≠ new.tokenHash) :
    ∃ db', db.createInvite new = .ok db' := by
  obtain ⟨email, hemail⟩ := Option.isSome_iff_exists.mp hholds.email
  unfold Db.createInvite
  rw [dif_pos ⟨hholds.orgRole, hholds.teamRole⟩]
  split
  · rename_i hnone
    rw [hemail] at hnone
    cases hnone
  split
  · rename_i hnone
    exact absurd hnone (UniqueTable.insert_ne_none hid hhash)
  · rw [dif_pos ⟨hholds.org, hholds.team, hholds.inviter⟩]
    exact ⟨_, rfl⟩

variable {inviteID : UUID} {assignments : List TeamAssign}

theorem exists_createInviteTeamAssignment {teamID : UUID} {role : String}
    (hinvite : ∃ inv ∈ db.invites, inv.id = inviteID) (hteam : ∃ team ∈ db.teams, team.id = teamID)
    (hnew : ∀ a ∈ db.assignments, assignmentKey a ≠ (inviteID, teamID))
    (hrole : (Sso.varchar 50 role).isSome) :
    ∃ db', db.createInviteTeamAssignment inviteID teamID role = .ok db' := by
  obtain ⟨stored, hstored⟩ := Option.isSome_iff_exists.mp hrole
  unfold Db.createInviteTeamAssignment
  split
  · rename_i hnone
    rw [hstored] at hnone
    cases hnone
  rename_i stored' _
  split
  · rename_i hnone
    obtain ⟨_, hsome⟩ : ∃ t, db.assignments.insert ⟨inviteID, teamID, stored'⟩ = some t :=
      Table.exists_insert hnew
    rw [hnone] at hsome
    cases hsome
  · rw [dif_pos ⟨hinvite, hteam⟩]
    exact ⟨_, rfl⟩

theorem exists_createInviteTeamAssignments (hinvite : ∃ inv ∈ db.invites, inv.id = inviteID)
    (hteams : ∀ a ∈ assignments, ∃ team ∈ db.teams, team.id = a.teamID)
    (hdistinct : (assignments.map TeamAssign.teamID).Nodup)
    (hnew : ∀ a ∈ assignments, ∀ old ∈ db.assignments, assignmentKey old ≠ (inviteID, a.teamID))
    (hroles : ∀ a ∈ assignments, (Sso.varchar 50 a.teamRole).isSome) :
    ∃ db', createInviteTeamAssignments db inviteID assignments = .ok db' := by
  unfold createInviteTeamAssignments
  induction assignments generalizing db with
  | nil => exact ⟨db, rfl⟩
  | cons a assignments ih =>
    simp only [List.forall_mem_cons] at hteams hnew hroles
    rw [List.map_cons, List.nodup_cons] at hdistinct
    obtain ⟨next, hfirst⟩ := exists_createInviteTeamAssignment hinvite hteams.1 hnew.1 hroles.1
    obtain ⟨hsame, hinvites, stored, _, hrows⟩ := createInviteTeamAssignment_eq_ok hfirst
    rw [List.foldlM_cons, hfirst]
    refine ih (by rwa [hinvites]) (by rw [hsame.teams]; exact hteams.2) hdistinct.2 ?_ hroles.2
    intro later hlater old hold
    have hold : old ∈ (⟨inviteID, a.teamID, stored⟩ :: db.assignments.rows : List _) := hrows ▸ hold
    rcases List.mem_cons.mp hold with rfl | hold
    · intro hkey
      exact hdistinct.1 (List.mem_map.mpr ⟨later, hlater, (congrArg Prod.snd hkey).symm⟩)
    · exact hnew.2 later hlater old hold

/-- The teams of an invitation that passes the check exist, and none comes twice. -/
theorem validateTeamAssignments_ok {env : Org.Env} {orgID : UUID} {seen : List UUID}
    (h : validateTeamAssignments env db orgID seen assignments = .ok ()) :
    (∀ a ∈ assignments, ∃ team ∈ db.teams, team.id = a.teamID) ∧
      (assignments.map TeamAssign.teamID).Nodup ∧ ∀ a ∈ assignments, a.teamID ∉ seen := by
  induction assignments generalizing seen with
  | nil => exact ⟨by simp, List.nodup_nil, by simp⟩
  | cons a assignments ih =>
    obtain ⟨hunseen, h⟩ := guard_eq_ok.mp h
    obtain ⟨_, hfirst, hrest⟩ := bind_eq_ok.mp h
    obtain ⟨hteams, hdistinct, hlater⟩ := ih hrest
    have hteam : ∃ team ∈ db.teams, team.id = a.teamID := by
      unfold validateTeamAssign at hfirst
      split at hfirst
      · cases hfirst
      rename_i team hfind
      exact ⟨team, UniqueTable.find?_eq_some_iff.mp hfind⟩
    refine ⟨List.forall_mem_cons.mpr ⟨hteam, hteams⟩, ?_, List.forall_mem_cons.mpr ⟨?_, ?_⟩⟩
    · refine List.nodup_cons.mpr ⟨fun hmem => ?_, hdistinct⟩
      obtain ⟨later, hlaterMem, hid⟩ := List.mem_map.mp hmem
      exact hlater later hlaterMem (by rw [hid]; exact List.mem_cons_self)
    · simpa using hunseen
    · exact fun later hmem hseen => hlater later hmem (List.mem_cons_of_mem _ hseen)

end

/-! ## The invitations of one request -/

section

variable (env : Org.Env) (now : Nat) (orgID inviterID : UUID) (input : BulkInviteMemberInput)
  (fresh : String → UUID × String)

/-- The invitation of an address. -/
def newInvite (email : String) : Db.NewInvite where
  id := (fresh email).1
  orgID := orgID
  teamID := none
  email := email
  orgRole := input.orgRole
  teamRole := none
  allowedAuth := Org.defaultAuth input.allowedAuth
  tokenHash := env.hashToken (fresh email).2
  invitedBy := inviterID
  expiresAt := now + env.inviteExpiry

/-- The statements for one address. -/
def inviteAddress (db : Db) (email : String) : Except RepoError Db := do
  let created ← (db.deletePendingInviteByEmail orgID email).createInvite
    (newInvite env now orgID inviterID input fresh email)
  createInviteTeamAssignments created (fresh email).1 input.teamAssignments

/-- The invitation of the address and its teams fit their columns, and the organization and the
inviter exist. -/
@[mk_iff] structure Db.Stores (db : Db) (email : String) : Prop where
  role : input.orgRole ∈ orgRoles
  email : (Sso.varchar 255 email).isSome
  org : (db.getOrg orgID).isSome
  inviter : (db.svc.accounts.getByID inviterID).isSome
  teams : ∀ a ∈ input.teamAssignments, (Sso.varchar 50 a.teamRole).isSome

/-- The ids and tokens that are drawn for the addresses are new, and differ from each other. -/
structure Draws (emails : List String) (db : Db) : Prop where
  id_new : ∀ email ∈ emails, ∀ inv ∈ db.invites, inv.id ≠ (fresh email).1
  hash_new : ∀ email ∈ emails, ∀ inv ∈ db.invites, inv.tokenHash ≠ env.hashToken (fresh email).2
  id_inj : ∀ email ∈ emails, ∀ other ∈ emails, (fresh email).1 = (fresh other).1 → email = other
  hash_inj : ∀ email ∈ emails, ∀ other ∈ emails,
    env.hashToken (fresh email).2 = env.hashToken (fresh other).2 → email = other

end

section

variable {env : Org.Env} {now : Nat} {orgID inviterID : UUID} {input : BulkInviteMemberInput}
  {fresh : String → UUID × String} {db db' db₁ db₁' : Db} {email : String} {emails : List String}

variable {result : BulkInviteResult}

theorem bulkInvite_live_ok
    (h : inviteAddress env now orgID inviterID input fresh db email = .ok db₁) :
    bulkInvite env now orgID inviterID input fresh (.live db, result) email =
      (.live db₁, { result with created := result.created + 1 }) := by
  obtain ⟨created, hcreate, hteams⟩ := bind_eq_ok.mp h
  unfold newInvite at hcreate
  simp only [bulkInvite, Tx.exec, hcreate, hteams]

theorem bulkInvite_live_error {err : RepoError}
    (h : inviteAddress env now orgID inviterID input fresh db email = .error err) :
    (bulkInvite env now orgID inviterID input fresh (.live db, result) email).1 = .aborted := by
  unfold inviteAddress newInvite at h
  cases hcreate : (db.deletePendingInviteByEmail orgID email).createInvite
      (newInvite env now orgID inviterID input fresh email) with
  | error err' =>
    unfold newInvite at hcreate
    simp only [bulkInvite, Tx.exec, hcreate]
  | ok created =>
    unfold newInvite at hcreate
    rw [hcreate] at h
    have hteams : createInviteTeamAssignments created (fresh email).1 input.teamAssignments =
      .error err := h
    simp only [bulkInvite, Tx.exec, hcreate, hteams]

theorem foldl_bulkInvite_aborted {s : Tx Db × BulkInviteResult} (h : s.1 = .aborted)
    (emails : List String) :
    (emails.foldl (bulkInvite env now orgID inviterID input fresh) s).1 = .aborted := by
  induction emails generalizing s with
  | nil => exact h
  | cons email emails ih =>
    refine ih ?_
    simp only [bulkInvite, h, Tx.exec_aborted]

theorem foldl_bulkInvite_ok
    (h : emails.foldlM (inviteAddress env now orgID inviterID input fresh) db = .ok db₁) :
    emails.foldl (bulkInvite env now orgID inviterID input fresh) (.live db, result) =
      (.live db₁, { result with created := result.created + emails.length }) := by
  induction emails generalizing db result with
  | nil =>
    cases h
    rfl
  | cons email emails ih =>
    obtain ⟨next, hfirst, hrest⟩ := bind_eq_ok.mp h
    rw [List.foldl_cons, bulkInvite_live_ok hfirst, ih hrest]
    simp only [List.length_cons]
    rw [Nat.add_assoc, Nat.add_comm 1]

theorem foldl_bulkInvite_error {err : RepoError}
    (h : emails.foldlM (inviteAddress env now orgID inviterID input fresh) db = .error err) :
    (emails.foldl (bulkInvite env now orgID inviterID input fresh) (.live db, result)).1 =
      .aborted := by
  induction emails generalizing db result with
  | nil => cases h
  | cons email emails ih =>
    rw [List.foldl_cons]
    cases hfirst : inviteAddress env now orgID inviterID input fresh db email with
    | error err' =>
      exact foldl_bulkInvite_aborted (bulkInvite_live_error hfirst) emails
    | ok next =>
      rw [List.foldlM_cons, hfirst] at h
      rw [bulkInvite_live_ok hfirst]
      exact ih h

theorem inviteAddress_eq_ok
    (h : inviteAddress env now orgID inviterID input fresh db email = .ok db₁) :
    db.SameButInvites db₁ ∧ db.Stores orgID inviterID input email ∧
      ∀ inv ∈ db₁.invites, inv ∈ db.invites ∨
        inv.id = (fresh email).1 ∧ inv.tokenHash = env.hashToken (fresh email).2 := by
  obtain ⟨created, hcreate, hteams⟩ := bind_eq_ok.mp h
  obtain ⟨hsame, hholds, _, _, _, _, hrows⟩ := createInvite_eq_ok hcreate
  obtain ⟨hsame', hinvites, hroles, _⟩ := createInviteTeamAssignments_eq_ok hteams
  have hdeleted : db.SameButInvites (db.deletePendingInviteByEmail orgID email) :=
    ⟨rfl, rfl, rfl, rfl, rfl⟩
  refine ⟨hdeleted.trans (hsame.trans hsame'), ⟨hholds.orgRole, hholds.email, ?_, ?_, hroles⟩, ?_⟩
  · obtain ⟨org, horg⟩ := hholds.org
    exact Option.isSome_iff_exists.mpr ⟨org, Table.find?_eq_some_iff.mpr horg⟩
  · obtain ⟨⟨id, user⟩, haccount, hid⟩ := hholds.inviter
    obtain rfl : id = inviterID := hid
    exact Option.isSome_iff_exists.mpr ⟨user, Account.Accounts.getByID_eq_some.mpr haccount⟩
  · intro x hx
    rw [hinvites] at hx
    change x ∈ created.invites.rows at hx
    rw [hrows] at hx
    rcases List.mem_cons.mp hx with rfl | hx
    · exact .inr ⟨rfl, rfl⟩
    · exact .inl (UniqueTable.mem_deleteWhere.mp hx).1

theorem inviteAddresses_same
    (h : emails.foldlM (inviteAddress env now orgID inviterID input fresh) db = .ok db₁) :
    db.SameButInvites db₁ := by
  induction emails generalizing db with
  | nil =>
    obtain rfl := Except.ok.inj h
    exact .refl db
  | cons email emails ih =>
    obtain ⟨next, hfirst, hrest⟩ := bind_eq_ok.mp h
    exact (inviteAddress_eq_ok hfirst).1.trans (ih hrest)

theorem exists_inviteAddress (hdraws : Draws env fresh emails db) (hemail : email ∈ emails)
    (hteams : ∀ a ∈ input.teamAssignments, ∃ team ∈ db.teams, team.id = a.teamID)
    (hdistinct : (input.teamAssignments.map TeamAssign.teamID).Nodup)
    (h : db.Stores orgID inviterID input email) :
    ∃ db', inviteAddress env now orgID inviterID input fresh db email = .ok db' := by
  have hid : ∀ inv ∈ (db.deletePendingInviteByEmail orgID email).invites,
      inv.id ≠ (fresh email).1 :=
    fun inv hinv => hdraws.id_new email hemail inv (UniqueTable.mem_deleteWhere.mp hinv).1
  obtain ⟨org, horg⟩ := Option.isSome_iff_exists.mp h.org
  obtain ⟨user, huser⟩ := Option.isSome_iff_exists.mp h.inviter
  obtain ⟨created, hcreate⟩ : ∃ created, (db.deletePendingInviteByEmail orgID email).createInvite
      (newInvite env now orgID inviterID input fresh email) = .ok created := by
    refine exists_createInvite ⟨h.role, fun _ hrole => absurd hrole (Option.not_mem_none _),
      h.email, ?_, fun _ hteam => absurd hteam (Option.not_mem_none _), ?_⟩ hid ?_
    · exact ⟨org, Table.find?_eq_some_iff.mp horg⟩
    · exact ⟨⟨inviterID, user⟩, Account.Accounts.getByID_eq_some.mp huser, rfl⟩
    · exact fun inv hinv => hdraws.hash_new email hemail inv (UniqueTable.mem_deleteWhere.mp hinv).1
  obtain ⟨hsame, _, hassigned, _, _, _, hrows⟩ := createInvite_eq_ok hcreate
  obtain ⟨db', hassign⟩ : ∃ db',
      createInviteTeamAssignments created (fresh email).1 input.teamAssignments = .ok db' := by
    have hnew := hrows ▸ List.mem_cons_self
    refine exists_createInviteTeamAssignments ⟨_, hnew, rfl⟩ ?_ hdistinct ?_ h.teams
    · rw [hsame.teams]
      exact hteams
    · -- an assignment that exists belongs to an invitation that exists
      intro a _ old hold hkey
      rw [hassigned] at hold
      obtain ⟨owner, howner, hparent⟩ :=
        (db.deletePendingInviteByEmail orgID email).assignment_invite old hold
      exact hid owner howner (hparent.trans (congrArg Prod.fst hkey))
  exact ⟨db', bind_eq_ok.mpr ⟨created, hcreate, hassign⟩⟩

theorem Draws.subset {fewer : List String} (h : Draws env fresh emails db)
    (hsubset : fewer ⊆ emails) : Draws env fresh fewer db where
  id_new email hemail := h.id_new email (hsubset hemail)
  hash_new email hemail := h.hash_new email (hsubset hemail)
  id_inj email hemail other hother := h.id_inj email (hsubset hemail) other (hsubset hother)
  hash_inj email hemail other hother := h.hash_inj email (hsubset hemail) other (hsubset hother)

theorem Draws.next (h : Draws env fresh (email :: emails) db) (hnew : email ∉ emails)
    (hinvite : inviteAddress env now orgID inviterID input fresh db email = .ok db₁) :
    Draws env fresh emails db₁ where
  id_new later hlater inv hinv := by
    rcases (inviteAddress_eq_ok hinvite).2.2 inv hinv with hold | ⟨hid, _⟩
    · exact h.id_new later (List.mem_cons_of_mem email hlater) inv hold
    intro hsame
    obtain rfl := h.id_inj email List.mem_cons_self later (List.mem_cons_of_mem email hlater)
      (hid.symm.trans hsame)
    exact hnew hlater
  hash_new later hlater inv hinv := by
    rcases (inviteAddress_eq_ok hinvite).2.2 inv hinv with hold | ⟨_, hhash⟩
    · exact h.hash_new later (List.mem_cons_of_mem email hlater) inv hold
    intro hsame
    obtain rfl := h.hash_inj email List.mem_cons_self later (List.mem_cons_of_mem email hlater)
      (hhash.symm.trans hsame)
    exact hnew hlater
  id_inj := (h.subset (List.subset_cons_self email emails)).id_inj
  hash_inj := (h.subset (List.subset_cons_self email emails)).hash_inj

theorem Db.Stores.congr (hsvc : db'.svc.accounts = db.svc.accounts)
    (horg : db'.getOrg orgID = db.getOrg orgID) :
    db'.Stores orgID inviterID input email ↔ db.Stores orgID inviterID input email := by
  rw [Db.stores_iff, Db.stores_iff, hsvc, horg]

/-- All addresses are invited exactly if each invitation can be stored. -/
theorem exists_inviteAddresses_iff (hdraws : Draws env fresh emails db) (hnodup : emails.Nodup)
    (hteams : ∀ a ∈ input.teamAssignments, ∃ team ∈ db.teams, team.id = a.teamID)
    (hdistinct : (input.teamAssignments.map TeamAssign.teamID).Nodup) :
    (∃ db', emails.foldlM (inviteAddress env now orgID inviterID input fresh) db = .ok db') ↔
      ∀ email ∈ emails, db.Stores orgID inviterID input email := by
  induction emails generalizing db with
  | nil => exact iff_of_true ⟨db, rfl⟩ fun _ h => absurd h List.not_mem_nil
  | cons email emails ih =>
    obtain ⟨hnew, hnodup⟩ := List.nodup_cons.mp hnodup
    rw [List.foldlM_cons, List.forall_mem_cons]
    cases hfirst : inviteAddress env now orgID inviterID input fresh db email with
    | error err =>
      refine iff_of_false (by rintro ⟨_, h⟩; cases h) fun h => ?_
      obtain ⟨_, hok⟩ := exists_inviteAddress hdraws List.mem_cons_self hteams hdistinct h.1
      rw [hfirst] at hok
      cases hok
    | ok next =>
      obtain ⟨hsame, hstores, _⟩ := inviteAddress_eq_ok hfirst
      have horg : next.getOrg orgID = db.getOrg orgID := by rw [Db.getOrg, hsame.orgs]; rfl
      refine Iff.trans (ih (hdraws.next hnew hfirst) hnodup (by rwa [hsame.teams])) ?_
      simp only [hstores, true_and, Db.Stores.congr (congrArg _ hsame.svc) horg]

end

/-! ## The screening of the addresses -/

/-- The address has a pending invitation of the organization. -/
def Db.PendingIn (db : Db) (now : Nat) (orgID : UUID) (email : String) : Prop :=
  ∃ inv ∈ db.invites, inv.orgID = orgID ∧ inv.email = email ∧ inv.acceptedAt = none ∧
    now < inv.expiresAt

/-- The address has a pending invitation of another organization. -/
def Db.PendingElsewhere (db : Db) (now : Nat) (orgID : UUID) (email : String) : Prop :=
  ∃ inv ∈ db.invites, inv.orgID ≠ orgID ∧ inv.email = email ∧ inv.acceptedAt = none ∧
    now < inv.expiresAt
  deriving Decidable

/-- The address is in order, and is not that of a member. -/
@[mk_iff] structure Eligible (env : Org.Env) (db : Db) (orgID : UUID) (email : String) : Prop where
  nonempty : email ≠ ""
  valid : env.emailError email = none
  stranger : isOrgMember db orgID email = false

/-- The address is one of the request, and eligible. -/
def Names (env : Org.Env) (db : Db) (orgID : UUID) (emails : List String) (email : String) : Prop :=
  email ∈ emails.map env.normalizeEmail ∧ Eligible env db orgID email

/-- What is known after some addresses. -/
structure Screened (env : Org.Env) (now : Nat) (db : Db) (orgID : UUID) (emails : List String)
    (s : Screening) : Prop where
  seen : ∀ email, email ∈ s.seen ↔ email ∈ emails.map env.normalizeEmail ∧ email ≠ ""
  nodup : s.valid.Nodup
  valid : ∀ email, email ∈ s.valid ↔
    Names env db orgID emails email ∧ hasPendingInvite now db email = false
  invited : ∀ email, ⟨email, "already_invited"⟩ ∈ s.result.skipped ↔
    Names env db orgID emails email ∧ hasPendingInvite now db email = true

section

variable {env : Org.Env} {now : Nat} {orgID : UUID} {db : Db} {emails : List String}
  {s : Screening}

theorem hasPendingInvite_iff {email : String} : hasPendingInvite now db email = true ↔
    db.PendingIn now orgID email ∨ db.PendingElsewhere now orgID email := by
  have hany : hasPendingInvite now db email = true ↔ ∃ inv ∈ db.invites,
      inv.email = email ∧ inv.acceptedAt = none ∧ now < inv.expiresAt := by
    unfold hasPendingInvite
    simp only [List.any_eq_true, Bool.and_eq_true, decide_eq_true_eq, Option.isNone_iff_eq_none,
      and_assoc]
    rfl
  rw [hany]
  constructor
  · rintro ⟨inv, hinv, hpending⟩
    by_cases horg : inv.orgID = orgID
    · exact .inl ⟨inv, hinv, horg, hpending⟩
    · exact .inr ⟨inv, hinv, horg, hpending⟩
  · rintro (⟨inv, hinv, _, hpending⟩ | ⟨inv, hinv, _, hpending⟩) <;> exact ⟨inv, hinv, hpending⟩

theorem names_append {raw email : String} : Names env db orgID (emails ++ [raw]) email ↔
    Names env db orgID emails email ∨
      email = env.normalizeEmail raw ∧ Eligible env db orgID email := by
  unfold Names
  rw [List.map_append, List.mem_append, List.map_singleton, List.mem_singleton, or_and_right]

/-- An address that is not eligible, or came before, changes only the other notes. -/
theorem Screened.pass (h : Screened env now db orgID emails s) {raw : String} {s' : Screening}
    (hpass : Eligible env db orgID (env.normalizeEmail raw) →
      env.normalizeEmail raw ∈ emails.map env.normalizeEmail)
    (hseen : ∀ email, email ∈ s'.seen ↔
      email ∈ s.seen ∨ email = env.normalizeEmail raw ∧ email ≠ "")
    (hvalid : s'.valid = s.valid)
    (hskipped : ∀ email, ⟨email, "already_invited"⟩ ∈ s'.result.skipped ↔
      ⟨email, "already_invited"⟩ ∈ s.result.skipped) :
    Screened env now db orgID (emails ++ [raw]) s' := by
  have hnames (email : String) :
      Names env db orgID (emails ++ [raw]) email ↔ Names env db orgID emails email := by
    rw [names_append, or_iff_left_of_imp]
    rintro ⟨rfl, heligible⟩
    exact ⟨hpass heligible, heligible⟩
  refine ⟨fun email => ?_, hvalid ▸ h.nodup, fun email => ?_, fun email => ?_⟩
  · rw [hseen, h.seen, List.map_append, List.mem_append, List.map_singleton, List.mem_singleton,
      or_and_right]
  · rw [hvalid, h.valid, hnames]
  · rw [hskipped, h.invited, hnames]

theorem Screened.screenEmail (h : Screened env now db orgID emails s) (raw : String) :
    Screened env now db orgID (emails ++ [raw]) (Teams.screenEmail env now db orgID s raw) := by
  have hcons (hnonempty : env.normalizeEmail raw ≠ "") (email : String) :
      email ∈ env.normalizeEmail raw :: s.seen ↔
        email ∈ s.seen ∨ email = env.normalizeEmail raw ∧ email ≠ "" := by
    grind
  unfold Teams.screenEmail
  dsimp only
  split
  · rename_i hempty
    refine h.pass (fun heligible => absurd hempty heligible.nonempty) (fun email => ?_) rfl
      fun _ => Iff.rfl
    grind
  rename_i hnonempty
  split
  · rename_i hseen
    have hbefore : env.normalizeEmail raw ∈ s.seen := by simpa using hseen
    refine h.pass (fun _ => ((h.seen _).mp hbefore).1) (fun email => ?_) rfl fun email => by simp
    grind
  rename_i hunseen
  split
  · rename_i reason herror
    refine h.pass (fun heligible => ?_) (hcons hnonempty) rfl fun _ => Iff.rfl
    rw [heligible.valid] at herror
    cases herror
  rename_i hvalid
  split
  · rename_i hmember
    refine h.pass (fun heligible => ?_) (hcons hnonempty) rfl fun email => by simp
    rw [heligible.stranger] at hmember
    cases hmember
  rename_i hstranger
  -- the address is eligible, and has not come before
  have heligible : Eligible env db orgID (env.normalizeEmail raw) :=
    ⟨hnonempty, hvalid, Bool.eq_false_iff.mpr hstranger⟩
  have hfirst : ¬ Names env db orgID emails (env.normalizeEmail raw) := by
    rintro ⟨hmem, _⟩
    exact hunseen (by simpa using (h.seen _).mpr ⟨hmem, hnonempty⟩)
  have hseen' : ∀ email, email ∈ env.normalizeEmail raw :: s.seen ↔
      email ∈ (emails ++ [raw]).map env.normalizeEmail ∧ email ≠ "" := by
    intro email
    rw [hcons hnonempty, h.seen, List.map_append, List.mem_append, List.map_singleton,
      List.mem_singleton, or_and_right]
  split
  · refine ⟨hseen', h.nodup, fun email => ?_, fun email => ?_⟩
    · rw [h.valid, names_append]
      grind
    · rw [List.mem_append, h.invited, names_append]
      grind
  · rename_i hpending
    refine ⟨hseen', ?_, fun email => ?_, fun email => ?_⟩
    · refine List.Nodup.append h.nodup (List.nodup_singleton _) ?_
      rw [List.disjoint_singleton]
      exact fun hmem => hfirst ((h.valid _).mp hmem).1
    · rw [List.mem_append, h.valid, names_append, List.mem_singleton]
      grind
    · rw [h.invited, names_append]
      grind

theorem screened_foldl (rest : List String) (h : Screened env now db orgID emails s) :
    Screened env now db orgID (emails ++ rest)
      (rest.foldl (Teams.screenEmail env now db orgID) s) := by
  induction rest generalizing emails s with
  | nil => rwa [List.append_nil]
  | cons raw rest ih =>
    rw [List.append_cons, List.foldl_cons]
    exact ih (h.screenEmail raw)

theorem screened_all (env : Org.Env) (now : Nat) (db : Db) (orgID : UUID) (emails : List String) :
    Screened env now db orgID emails
    (emails.foldl (Teams.screenEmail env now db orgID) ⟨[], [], ⟨0, [], []⟩⟩) := by
  have hstart : Screened env now db orgID [] ⟨[], [], ⟨0, [], []⟩⟩ :=
    ⟨by simp, List.nodup_nil, by simp [Names], by simp [Names]⟩
  exact screened_foldl emails hstart

end

/-! ## The whole request -/

/-- The request is refused before its addresses are looked at. -/
def Refused (env : Org.Env) (db : Db) (orgID : UUID) (input : BulkInviteMemberInput) : Prop :=
  100 < input.emails.length ∨ env.cache.hasRole input.orgRole = false ∨
    env.authError (Org.defaultAuth input.allowedAuth) ≠ none ∨
    validateTeamAssignments env db orgID [] input.teamAssignments ≠ .ok ()

/-- The request asks for the invitation of an address that has no pending one of the
organization. -/
def Asks (env : Org.Env) (now : Nat) (db : Db) (orgID : UUID) (input : BulkInviteMemberInput)
    (email : String) : Prop :=
  Names env db orgID input.emails email ∧ ¬ db.PendingIn now orgID email

/-- Some invitation that is asked for, and that nothing pending stands against, cannot be
stored. -/
def Spoilt (env : Org.Env) (now : Nat) (db : Db) (orgID inviterID : UUID)
    (input : BulkInviteMemberInput) : Prop :=
  ∃ email, Asks env now db orgID input email ∧ ¬ db.PendingElsewhere now orgID email ∧
    ¬ db.Stores orgID inviterID input email

section

variable {env : Org.Env} {now : Nat} {orgID inviterID : UUID} {input : BulkInviteMemberInput}
  {fresh : String → UUID × String} {db db₁ : Db}

variable {s : Screening}

/-- The addresses that are invited. -/
theorem Screened.valid_iff (h : Screened env now db orgID input.emails s) {email : String} :
    email ∈ s.valid ↔
      Asks env now db orgID input email ∧ ¬ db.PendingElsewhere now orgID email := by
  rw [h.valid, Bool.eq_false_iff, Ne, @hasPendingInvite_iff now orgID db email, not_or]
  unfold Asks
  rw [and_assoc]

/-- The transaction commits exactly if it is not spoilt. -/
theorem exists_inviteAddresses_iff_not_spoilt (inviterID : UUID)
    (hscreened : Screened env now db orgID input.emails s)
    (hdraws : Draws env fresh (input.emails.map env.normalizeEmail) db)
    (hteams : validateTeamAssignments env db orgID [] input.teamAssignments = .ok ()) :
    (∃ db', s.valid.foldlM (inviteAddress env now orgID inviterID input fresh) db = .ok db') ↔
      ¬ Spoilt env now db orgID inviterID input := by
  obtain ⟨hteams, hdistinct, _⟩ := validateTeamAssignments_ok hteams
  have hsubset : s.valid ⊆ input.emails.map env.normalizeEmail :=
    fun email hemail => (hscreened.valid_iff.mp hemail).1.1.1
  rw [exists_inviteAddresses_iff (hdraws.subset hsubset) hscreened.nodup hteams hdistinct]
  unfold Spoilt
  simp only [hscreened.valid_iff, not_exists, not_and, not_not, and_imp]

/-- A request that is not refused invites every address that it does not skip, or is spoilt. -/
theorem bulkInviteMembers_cases (inviterID : UUID) (hrefused : ¬ Refused env db orgID input)
    (hdraws : Draws env fresh (input.emails.map env.normalizeEmail) db)
    (hscreen : input.emails.foldl (screenEmail env now db orgID) ⟨[], [], ⟨0, [], []⟩⟩ = s) :
    (¬ Spoilt env now db orgID inviterID input ∧ ∃ db₁,
      s.valid.foldlM (inviteAddress env now orgID inviterID input fresh) db = .ok db₁ ∧
      bulkInviteMembers env now db orgID input inviterID fresh =
        .ok ({ s.result with created := s.result.created + s.valid.length }, db₁)) ∨
    Spoilt env now db orgID inviterID input ∧
      bulkInviteMembers env now db orgID input inviterID fresh =
        .error "commit bulk invites: commit unexpectedly resulted in rollback" := by
  simp only [Refused, not_or, not_not, Bool.not_eq_false] at hrefused
  obtain ⟨hlength, hrole, hauth, hteams⟩ := hrefused
  have hcommits := exists_inviteAddresses_iff_not_spoilt inviterID
    (hscreen ▸ screened_all env now db orgID input.emails) hdraws hteams
  unfold bulkInviteMembers
  rw [if_neg hlength, if_neg (by simp [hrole]), hauth, hteams, hscreen]
  cases hinvite : s.valid.foldlM (inviteAddress env now orgID inviterID input fresh) db with
  | ok db₁ =>
    refine .inl ⟨hcommits.mp ⟨db₁, hinvite⟩, db₁, rfl, ?_⟩
    simp only [foldl_bulkInvite_ok hinvite, Tx.commit]
  | error err =>
    refine .inr ⟨?_, by simp only [foldl_bulkInvite_error hinvite, Tx.commit]⟩
    by_contra hclean
    obtain ⟨_, hok⟩ := hcommits.mpr hclean
    rw [hinvite] at hok
    cases hok

theorem bulkInviteMembers_same {result : BulkInviteResult}
    (h : bulkInviteMembers env now db orgID input inviterID fresh = .ok (result, db')) :
    db.SameButInvites db' := by
  obtain ⟨_, h⟩ := guard_eq_ok.mp h
  obtain ⟨_, h⟩ := guard_eq_ok.mp h
  split at h
  · cases h
  · cases h
  generalize input.emails.foldl (screenEmail env now db orgID) ⟨[], [], ⟨0, [], []⟩⟩ = s at h
  cases hinvite : s.valid.foldlM (inviteAddress env now orgID inviterID input fresh) db with
  | error err =>
    simp only [foldl_bulkInvite_error hinvite, Tx.commit] at h
    cases h
  | ok db₁ =>
    simp only [foldl_bulkInvite_ok hinvite, Tx.commit] at h
    cases h
    exact inviteAddresses_same hinvite

end

end BurnerByte.Teams
