import BurnerByte.Teams.Effects
import BurnerByte.Teams.Invites

/-!
# What an invitation stores

Inviting members deletes and stores invitations with their teams, and leaves all other tables
alone. A call that fails has made no statement, or only the deletion of the pending invitation.
-/

namespace BurnerByte.Teams

open Outcome Rbac Sql

/-! ## Statements -/

/-- Everything but the invitations is as before. -/
structure Db.SameButInvites (db db' : Db) : Prop where
  svc : db'.svc = db.svc
  orgs : db'.orgs = db.orgs
  teams : db'.teams = db.teams
  orgMembers : db'.orgMembers = db.orgMembers
  teamMembers : db'.teamMembers = db.teamMembers

/-- What the row of a new invitation needs, apart from unused ids. -/
structure Db.Holds (db : Db) (new : Db.NewInvite) : Prop where
  orgRole : new.orgRole ∈ orgRoles
  teamRole : ∀ role ∈ new.teamRole, role ∈ teamRoles
  email : (Sso.varchar 255 new.email).isSome
  org : ∃ org ∈ db.orgs, org.id = new.orgID
  team : ∀ teamID ∈ new.teamID, ∃ team ∈ db.teams.toTable, team.id = teamID
  inviter : ∃ account ∈ db.svc.accounts.table, account.id = new.invitedBy

section

variable {db db₁ db₂ db₃ : Db} {new : Db.NewInvite}

theorem Db.SameButInvites.refl (db : Db) : db.SameButInvites db := ⟨rfl, rfl, rfl, rfl, rfl⟩

theorem Db.SameButInvites.trans (h : db₁.SameButInvites db₂) (h' : db₂.SameButInvites db₃) :
    db₁.SameButInvites db₃ :=
  ⟨h'.svc.trans h.svc, h'.orgs.trans h.orgs, h'.teams.trans h.teams,
    h'.orgMembers.trans h.orgMembers, h'.teamMembers.trans h.teamMembers⟩

theorem createInvite_eq_ok (h : db.createInvite new = .ok db₁) :
    db.SameButInvites db₁ ∧ db.Holds new ∧ db₁.assignments = db.assignments ∧
      ∃ email hroles, Sso.varchar 255 new.email = some email ∧
        db₁.invites.rows = new.row email hroles :: db.invites.rows := by
  unfold Db.createInvite at h
  split at h
  · rename_i hroles
    split at h
    · cases h
    rename_i email hemail
    split at h
    · cases h
    rename_i invites hinsert
    split at h
    · rename_i hrefs
      cases h
      have hholds : db.Holds new :=
        ⟨hroles.1, hroles.2, by rw [hemail]; rfl, hrefs.1, hrefs.2.1, hrefs.2.2⟩
      exact ⟨⟨rfl, rfl, rfl, rfl, rfl⟩, hholds, rfl, email, hroles, hemail,
        UniqueTable.rows_insert hinsert⟩
    · cases h
  · cases h

variable {inviteID : UUID} {assignments : List TeamAssign}

theorem createInviteTeamAssignment_eq_ok {teamID : UUID} {role : String}
    (h : db.createInviteTeamAssignment inviteID teamID role = .ok db₁) :
    db.SameButInvites db₁ ∧ db₁.invites = db.invites ∧ ∃ stored, Sso.varchar 50 role = some stored ∧
      db₁.assignments.rows = ⟨inviteID, teamID, stored⟩ :: db.assignments.rows := by
  unfold Db.createInviteTeamAssignment at h
  split at h
  · cases h
  rename_i stored hrole
  split at h
  · cases h
  rename_i assignments hinsert
  split at h
  · cases h
    exact ⟨⟨rfl, rfl, rfl, rfl, rfl⟩, rfl, stored, hrole, Table.rows_insert hinsert⟩
  · cases h

/-- The rows of the teams of an invitation, in the order in which they are stored. -/
def teamRows (inviteID : UUID) (assignments : List TeamAssign) : List InviteTeamAssign :=
  (assignments.filterMap fun a =>
    (Sso.varchar 50 a.teamRole).map fun role => ⟨inviteID, a.teamID, role⟩).reverse

theorem createInviteTeamAssignments_eq_ok
    (h : createInviteTeamAssignments db inviteID assignments = .ok db₁) :
    db.SameButInvites db₁ ∧ db₁.invites = db.invites ∧
      (∀ a ∈ assignments, (Sso.varchar 50 a.teamRole).isSome) ∧
      db₁.assignments.rows = teamRows inviteID assignments ++ db.assignments.rows := by
  induction assignments generalizing db with
  | nil =>
    obtain rfl := Except.ok.inj h
    exact ⟨.refl db, rfl, by simp, rfl⟩
  | cons a assignments ih =>
    obtain ⟨next, hfirst, hrest⟩ := bind_eq_ok.mp h
    obtain ⟨hsame, hinvites, stored, hrole, hrows⟩ := createInviteTeamAssignment_eq_ok hfirst
    obtain ⟨hsame', hinvites', hroles, hrows'⟩ := ih hrest
    refine ⟨hsame.trans hsame', hinvites'.trans hinvites, ?_, ?_⟩
    · exact List.forall_mem_cons.mpr ⟨by rw [hrole]; rfl, hroles⟩
    · simp [hrows', hrows, teamRows, hrole]

end

/-! ## Calls -/

/-- The checks that come before the deletion. -/
structure Passes (env : Org.Env) (db : Db) (orgID : UUID) (input : InviteMemberInput) :
    Prop where
  email : input.email ≠ ""
  address : env.emailError (env.normalizeEmail input.email) = none
  role : env.cache.hasRole input.orgRole = true
  auth : env.authError (Org.defaultAuth input.allowedAuth) = none
  teams : validateTeamAssignments env db orgID [] input.teamAssignments = .ok ()

variable {db : Db} {env : Org.Env} {now : Nat} {orgID : UUID}

theorem inviteMember_cases (env : Org.Env) (now : Nat) (db : Db) (orgID : UUID)
    (input : InviteMemberInput) (inviterID id : UUID) (token : String) :
    (¬ Passes env db orgID input ∧
      ∃ msg, inviteMember env now db orgID input inviterID id token = (.error msg, db)) ∨
    Passes env db orgID input ∧
      ((∃ msg, inviteMember env now db orgID input inviterID id token =
        (.error msg, db.deletePendingInviteByEmail orgID (env.normalizeEmail input.email))) ∨
      ∃ teamID teamRole created db',
        let new : Db.NewInvite := ⟨id, orgID, teamID, env.normalizeEmail input.email,
          input.orgRole, teamRole, Org.defaultAuth input.allowedAuth, env.hashToken token,
          inviterID, now + env.inviteExpiry⟩
        (db.deletePendingInviteByEmail orgID (env.normalizeEmail input.email)).createInvite new =
            .ok created ∧
          createInviteTeamAssignments created id input.teamAssignments = .ok db' ∧
          inviteMember env now db orgID input inviterID id token = (.ok new, db')) := by
  unfold inviteMember
  dsimp only
  split
  · rename_i hempty
    exact .inl ⟨fun h => h.email hempty, _, rfl⟩
  rename_i hemail
  split
  · rename_i hreason
    exact .inl ⟨fun h => (nomatch hreason.symm.trans h.address), _, rfl⟩
  rename_i haddress
  split
  · rename_i hrole
    exact .inl ⟨fun h => by simp [h.role] at hrole, _, rfl⟩
  rename_i hrole
  split
  · rename_i hauth
    exact .inl ⟨fun h => (nomatch hauth.symm.trans h.auth), _, rfl⟩
  · rename_i hteams
    exact .inl ⟨fun h => (nomatch hteams.symm.trans h.teams), _, rfl⟩
  rename_i hauth hteams
  refine .inr ⟨⟨hemail, haddress, by simpa using hrole, hauth, hteams⟩, ?_⟩
  split
  · exact .inl ⟨_, rfl⟩
  split
  · exact .inl ⟨_, rfl⟩
  rename_i hcreate
  split
  · exact .inl ⟨_, rfl⟩
  rename_i hassign
  exact .inr ⟨_, _, _, _, hcreate, hassign, rfl⟩

theorem inviteMember_same (input : InviteMemberInput) (inviterID id : UUID) (token : String) :
    db.SameButInvites (inviteMember env now db orgID input inviterID id token).2 := by
  have hdeleted : db.SameButInvites
      (db.deletePendingInviteByEmail orgID (env.normalizeEmail input.email)) :=
    ⟨rfl, rfl, rfl, rfl, rfl⟩
  obtain ⟨_, _, hcall⟩ | ⟨_, ⟨_, hcall⟩ | ⟨_, _, created, db', hcreate, hassign, hcall⟩⟩ :=
    inviteMember_cases env now db orgID input inviterID id token
  · rw [hcall]
    exact .refl db
  · rw [hcall]
    exact hdeleted
  · rw [hcall]
    exact hdeleted.trans ((createInvite_eq_ok hcreate).1.trans
      (createInviteTeamAssignments_eq_ok hassign).1)

end BurnerByte.Teams
