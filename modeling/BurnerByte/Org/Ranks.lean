import BurnerByte.Org.Effects
import BurnerByte.Rbac.Scopes

/-!
# Ranks of members

A user who manages the members of an org should raise nobody above their own rank
and touch nobody who is not below it. Of the handlers only `handleChangeRole`
compares ranks, and only with the rank that the target has. So the rule holds in
the runs whose requests ask for no role above the actor's and deactivate only
members below the actor, and not in others.
-/

namespace BurnerByte.Org

open Sql Handler Rbac Outcome

section

variable (env : Env) (actor : UUID)

def rankOf (role : String) : Int := env.cache.getRank role

/-- The actor is a member of the org, with at least the rank. -/
def Db.ActorReaches (db : Db) (orgID : UUID) (rank : Int) : Prop :=
  ∃ a ∈ db.memberships, a.userID = actor ∧ a.orgID = orgID ∧ rank ≤ rankOf env a.role
  deriving Decidable

/-- From `db₀` to `db`, nobody became a member above the actor, and no membership of
another user was changed or removed unless it was strictly below the actor. -/
@[mk_iff] structure Contained (db₀ db : Db) : Prop where
  added : ∀ m ∈ db.memberships, m ∉ db₀.memberships →
    db₀.ActorReaches env actor m.orgID (rankOf env m.role)
  lost : ∀ m ∈ db₀.memberships, m.userID ≠ actor → m ∉ db.memberships →
    db₀.ActorReaches env actor m.orgID (rankOf env m.role + 1)

instance (db₀ db : Db) : Decidable (Contained env actor db₀ db) :=
  decidable_of_iff' _ (contained_iff env actor db₀ db)

/-- The requests of the actor, who is no system admin, and of users who accept an
invitation that did not exist in `db₀`. -/
def OwnRequest (db₀ : Db) : Nat × Request → Prop
  | (_, .directAdd uc _ _ _) | (_, .invite uc _ _ _ _) | (_, .bulkInvite uc _ _ _)
  | (_, .changeRole uc _ _ _) | (_, .deactivate uc _ _) =>
    uc.userID = actor ∧ uc.isSystemAdmin = false
  | (_, .accept _ token _) => ∀ inv ∈ db₀.invites, inv.tokenHash ≠ env.hashToken token

/-- Wherever the actor is a member, the role does not rank above theirs. -/
def RoleWithin (db : Db) (orgParam : Option UUID) (role : String) : Prop :=
  ∀ a ∈ db.memberships, a.userID = actor → orgParam = some a.orgID →
    rankOf env role ≤ rankOf env a.role
  deriving Decidable

/-- The request asks for no role above the actor's own, and deactivates only a
member strictly below the actor. -/
def RankBounded (db : Db) : Nat × Request → Prop
  | (_, .directAdd _ orgParam _ role) => RoleWithin env actor db orgParam role
  | (_, .invite _ orgParam input _ _) => RoleWithin env actor db orgParam input.orgRole
  | (_, .bulkInvite _ orgParam input _) => RoleWithin env actor db orgParam input.orgRole
  | (_, .changeRole _ orgParam _ role) => RoleWithin env actor db orgParam role
  | (_, .deactivate _ orgParam userParam) =>
    ∀ a ∈ db.memberships, a.userID = actor → orgParam = some a.orgID →
      ∀ t ∈ db.memberships, userParam = some t.userID → t.orgID = a.orgID →
        rankOf env t.role < rankOf env a.role
  | (_, .accept _ _ _) => True

instance (db₀ : Db) : (e : Nat × Request) → Decidable (OwnRequest env actor db₀ e)
  | (_, .directAdd uc _ _ _) | (_, .invite uc _ _ _ _) | (_, .bulkInvite uc _ _ _)
  | (_, .changeRole uc _ _ _) | (_, .deactivate uc _ _) =>
    inferInstanceAs (Decidable (uc.userID = actor ∧ uc.isSystemAdmin = false))
  | (_, .accept _ token _) =>
    inferInstanceAs (Decidable (∀ inv ∈ db₀.invites, inv.tokenHash ≠ env.hashToken token))

instance (db : Db) : (e : Nat × Request) → Decidable (RankBounded env actor db e)
  | (_, .directAdd _ orgParam _ role) | (_, .changeRole _ orgParam _ role) =>
    inferInstanceAs (Decidable (RoleWithin env actor db orgParam role))
  | (_, .invite _ orgParam input _ _) =>
    inferInstanceAs (Decidable (RoleWithin env actor db orgParam input.orgRole))
  | (_, .bulkInvite _ orgParam input _) =>
    inferInstanceAs (Decidable (RoleWithin env actor db orgParam input.orgRole))
  | (_, .deactivate _ orgParam userParam) =>
    inferInstanceAs (Decidable (∀ a ∈ db.memberships, a.userID = actor →
      orgParam = some a.orgID → ∀ t ∈ db.memberships, userParam = some t.userID →
        t.orgID = a.orgID → rankOf env t.role < rankOf env a.role))
  | (_, .accept _ _ _) => .isTrue trivial

end

/-! ## The invariant -/

theorem actor_member_of_check {env : Env} {db : Db} {uc : UserContext} {orgID : UUID} {key : String}
    (h : checkOrgPermission (db.checker env) (some uc) orgID key = .ok ())
    (hadmin : uc.isSystemAdmin = false) :
    ∃ a ∈ db.memberships, a.userID = uc.userID ∧ a.orgID = orgID := by
  obtain ⟨a, ha⟩ := member_of_checkOrgPermission h hadmin
  obtain ⟨hmem, hkey⟩ := Table.find?_eq_some_iff.mp ha
  rw [membershipKey, Prod.mk.injEq] at hkey
  exact ⟨a, hmem, hkey⟩

/-- Besides what the rule says, the actor's own memberships are as they were, and
the invitations of the run are not above the actor either. -/
structure Bounded (env : Env) (actor : UUID) (db₀ mid db : Db) : Prop
    extends Contained env actor mid db where
  own : ∀ m, m.userID = actor → (m ∈ db.memberships ↔ m ∈ mid.memberships)
  invites : ∀ inv ∈ db.invites, (∃ old ∈ db₀.invites, old.tokenHash = inv.tokenHash) ∨
    mid.ActorReaches env actor inv.orgID (rankOf env inv.orgRole)

namespace Bounded

variable {env : Env} {actor : UUID} {db₀ mid db db' : Db}

theorem refl (env : Env) (actor : UUID) (db : Db) : Bounded env actor db db db where
  added _ hm hno := absurd hm hno
  lost _ hm _ hno := absurd hm hno
  own _ _ := Iff.rfl
  invites inv hinv := .inl ⟨inv, hinv, rfl⟩

section

variable (h : Bounded env actor db₀ mid db)

include h

/-- The comparison can start anew at any state of the run. -/
theorem restart : Bounded env actor db₀ db db where
  added _ hm hno := absurd hm hno
  lost _ hm _ hno := absurd hm hno
  own _ _ := Iff.rfl
  invites inv hinv := by
    refine (h.invites inv hinv).imp_right ?_
    rintro ⟨a, ha, hactor, hrest⟩
    exact ⟨a, (h.own a hactor).mpr ha, hactor, hrest⟩

/-- What one request may do: new memberships not above the actor, lost ones below the
actor, neither of them the actor's, and new invitations not above the actor. -/
theorem next (hnew : ∀ m ∈ db'.memberships, m ∈ db.memberships ∨ m.userID ≠ actor ∧
      mid.ActorReaches env actor m.orgID (rankOf env m.role))
    (hlost : ∀ m ∈ db.memberships, m ∈ db'.memberships ∨ m.userID ≠ actor ∧
      mid.ActorReaches env actor m.orgID (rankOf env m.role + 1))
    (hinvites : ∀ inv ∈ db'.invites, (∃ old ∈ db.invites, old.tokenHash = inv.tokenHash ∧
        old.orgID = inv.orgID ∧ old.orgRole = inv.orgRole) ∨
      mid.ActorReaches env actor inv.orgID (rankOf env inv.orgRole)) :
    Bounded env actor db₀ mid db' where
  added := by
    intro m hm hno
    rcases hnew m hm with hold | ⟨_, hreach⟩
    · exact h.added m hold hno
    · exact hreach
  lost := by
    intro m hm hother hno
    by_cases hmid : m ∈ db.memberships
    · rcases hlost m hmid with hkept | ⟨_, hreach⟩
      · exact absurd hkept hno
      · exact hreach
    · exact h.lost m hm hother hmid
  own := by
    intro m hactor
    rw [← h.own m hactor]
    constructor
    · intro hm
      rcases hnew m hm with hold | ⟨hother, _⟩
      · exact hold
      · exact absurd hactor hother
    · intro hm
      rcases hlost m hm with hkept | ⟨hother, _⟩
      · exact hkept
      · exact absurd hactor hother
  invites := by
    intro inv hinv
    rcases hinvites inv hinv with ⟨old, hold, htoken, horg, hrole⟩ | hreach
    · rw [← htoken, ← horg, ← hrole]
      exact h.invites old hold
    · exact .inr hreach

theorem reaches {orgID : UUID} {rank : Int}
    (hreach : db.ActorReaches env actor orgID rank) : mid.ActorReaches env actor orgID rank := by
  obtain ⟨a, ha, hactor, hrest⟩ := hreach
  exact ⟨a, (h.own a hactor).mp ha, hactor, hrest⟩

/-- A member can be added who does not rank above the actor. The actor is a member
already, so it is somebody else. -/
theorem join {m : OrgMembership} {memberships : _}
    (hinsert : db.memberships.insert m = some memberships)
    (hreach : mid.ActorReaches env actor m.orgID (rankOf env m.role))
    (hmembers : db'.memberships = memberships)
    (hinvites : ∀ inv ∈ db'.invites, ∃ old ∈ db.invites, old.tokenHash = inv.tokenHash ∧
      old.orgID = inv.orgID ∧ old.orgRole = inv.orgRole) :
    Bounded env actor db₀ mid db' := by
  obtain ⟨hfresh, hmem⟩ := Table.insert_eq_some hinsert
  have hother : m.userID ≠ actor := by
    intro hactor
    obtain ⟨a, ha, haactor, horg, _⟩ := hreach
    refine hfresh a ((h.own a haactor).mpr ha) ?_
    simp only [membershipKey, haactor, hactor, horg]
  apply h.next
  · intro x hx
    rw [hmembers] at hx
    rcases (hmem x).mp hx with rfl | hold
    · exact .inr ⟨hother, hreach⟩
    · exact .inl hold
  · intro x hx
    rw [hmembers]
    exact .inl ((hmem x).mpr (.inr hx))
  · intro inv hinv
    exact .inl (hinvites inv hinv)

theorem invite {orgID : UUID} {role : String} (honly : InvitesOnly orgID role db db')
    (hreach : mid.ActorReaches env actor orgID (rankOf env role)) :
    Bounded env actor db₀ mid db' := by
  apply h.next
  · intro m hm
    rw [honly.memberships] at hm
    exact .inl hm
  · intro m hm
    rw [honly.memberships]
    exact .inl hm
  · intro inv hinv
    rcases honly.invites inv hinv with hold | ⟨rfl, rfl⟩
    · exact .inl ⟨inv, hold, rfl, rfl, rfl⟩
    · exact .inr hreach

end

end Bounded

/-! ## Runs -/

section

variable {env : Env} {actor : UUID} {db₀ mid db : Db}

variable {uc : UserContext} {role : String} {orgParam : Option UUID} {db' : Db}

section

variable (h : Bounded env actor db₀ mid db)

include h

theorem reaches_of_check {orgID : UUID} {key : String}
    (huc : uc.userID = actor ∧ uc.isSystemAdmin = false)
    (hcheck : checkOrgPermission (db.checker env) (some uc) orgID key = .ok ())
    (hrole : RoleWithin env actor db (some orgID) role) :
    mid.ActorReaches env actor orgID (rankOf env role) := by
  obtain ⟨a, ha, hactor, rfl⟩ := actor_member_of_check hcheck huc.2
  rw [huc.1] at hactor
  exact h.reaches ⟨a, ha, hactor, rfl, hrole a ha hactor rfl⟩

/-- The rank check makes the target somebody below the actor; the guard is needed
for the new role only. -/
theorem changeRole_bounded {userParam : Option UUID}
    (huc : uc.userID = actor ∧ uc.isSystemAdmin = false)
    (hrole : RoleWithin env actor db orgParam role)
    (hok : handleChangeRole env uc orgParam userParam role db = .ok db') :
    Bounded env actor db₀ mid db' := by
  obtain ⟨orgID, userID, rfl, hrank, hchange⟩ := handleChangeRole_ok hok
  obtain ⟨_, _, _, hupdate⟩ := changeRole_ok hchange
  rcases Checker.requireRankAbove_ok_iff.mp hrank with htrue | ⟨a, t, ha, ht, hlt⟩
  · rw [huc.2] at htrue
    cases htrue
  obtain ⟨hamem, hakey⟩ := Table.find?_eq_some_iff.mp ha
  obtain ⟨htmem, htkey⟩ := Table.find?_eq_some_iff.mp ht
  rw [membershipKey, Prod.mk.injEq, huc.1] at hakey
  have hbelow : mid.ActorReaches env actor orgID (rankOf env t.role + 1) :=
    h.reaches ⟨a, hamem, hakey.1, hakey.2, hlt⟩
  have hother : userID ≠ actor := by
    rintro rfl
    have hsame : t = a := Table.eq_of_key_eq htmem hamem (by
      rw [htkey, membershipKey, hakey.1, hakey.2])
    rw [hsame] at hlt
    exact absurd hlt (Int.lt_irrefl _)
  obtain ⟨_, current, hcurrent, hinvites, hmem⟩ := updateMemberRole_ok hupdate
  obtain rfl := Option.some.inj (hcurrent.symm.trans ht)
  obtain ⟨rfl, rfl⟩ := Prod.mk.inj htkey
  apply h.next
  · intro m hm
    refine ((hmem m).mp hm).symm.imp And.left ?_
    rintro rfl
    exact ⟨hother, h.reaches ⟨a, hamem, hakey.1, hakey.2, hrole a hamem hakey.1 (by rw [hakey.2])⟩⟩
  · intro m hm
    by_cases hkey : membershipKey m = membershipKey current
    · obtain rfl : m = current := Table.eq_of_key_eq hm htmem hkey
      exact .inr ⟨hother, hbelow⟩
    · exact .inl ((hmem m).mpr (.inr ⟨hm, hkey⟩))
  · intro inv hinv
    rw [hinvites] at hinv
    exact .inl ⟨inv, hinv, rfl, rfl, rfl⟩

theorem deactivate_bounded {userParam : Option UUID}
    (huc : uc.userID = actor ∧ uc.isSystemAdmin = false)
    (hbelow : ∀ a ∈ db.memberships, a.userID = actor → orgParam = some a.orgID →
      ∀ t ∈ db.memberships, userParam = some t.userID → t.orgID = a.orgID →
        rankOf env t.role < rankOf env a.role)
    (hok : handleDeactivate env uc orgParam userParam db = .ok db') :
    Bounded env actor db₀ mid db' := by
  obtain ⟨orgID, userID, rfl, rfl, hother, hcheck, hdeactivate⟩ := handleDeactivate_ok hok
  obtain ⟨_, _, _, rfl⟩ := deactivateUser_ok hdeactivate
  obtain ⟨a, ha, hactor, rfl⟩ := actor_member_of_check hcheck huc.2
  rw [huc.1] at hactor hother
  apply h.next
  · intro m hm
    exact .inl (Table.mem_deleteWhere.mp hm).1
  · intro m hm
    by_cases hkey : membershipKey m = (userID, a.orgID)
    · rw [membershipKey, Prod.mk.injEq] at hkey
      refine .inr ⟨by rw [hkey.1]; exact hother, h.reaches ⟨a, ha, hactor, hkey.2.symm, ?_⟩⟩
      exact hbelow a ha hactor rfl m hm (by rw [hkey.1]) hkey.2
    · exact .inl (Table.mem_deleteWhere.mpr ⟨hm, by simpa using hkey⟩)
  · intro inv hinv
    exact .inl ⟨inv, hinv, rfl, rfl, rfl⟩

end

theorem step_bounded (db₀ mid db : Db) (e : Nat × Request) (h : Bounded env actor db₀ mid db)
    (he : OwnRequest env actor db₀ e ∧ RankBounded env actor db e) :
    Bounded env actor db₀ mid (step env db e) := by
  obtain ⟨now, r⟩ := e
  obtain ⟨hown, hbounded⟩ := he
  cases r with
  | directAdd uc orgParam userText role =>
    apply getD_of_ok h
    intro db' hok
    obtain ⟨orgID, userID, rfl, hcheck, hcreate⟩ := handleDirectAdd_ok hok
    obtain ⟨_, memberships, hinsert, rfl⟩ := createMembership_ok hcreate
    exact h.join hinsert (reaches_of_check h hown hcheck hbounded) rfl
      fun inv hinv => ⟨inv, hinv, rfl, rfl, rfl⟩
  | invite uc orgParam input id token =>
    rcases handleInvite_cases env now uc orgParam input id token db with
      hsame | ⟨orgID, rfl, hcheck, honly⟩
    · rwa [step, hsame]
    · exact h.invite honly (reaches_of_check h hown hcheck hbounded)
  | bulkInvite uc orgParam input fresh =>
    apply getD_of_ok h
    intro db' hok
    obtain ⟨orgID, rfl, hcheck, honly⟩ := handleBulkInvite_ok hok
    exact h.invite honly (reaches_of_check h hown hcheck hbounded)
  | changeRole uc orgParam userParam role =>
    apply getD_of_ok h
    intro db' hok
    exact changeRole_bounded h hown hbounded hok
  | deactivate uc orgParam userParam =>
    apply getD_of_ok h
    intro db' hok
    exact deactivate_bounded h hown hbounded hok
  | accept uc token committed =>
    apply getD_of_ok h
    intro db' hok
    rcases handleAccept_ok hok with
      rfl | ⟨invite, hinvite, htoken, joined, hjoin, hmembers, hinvites⟩
    · exact h
    obtain ⟨_, memberships, hinsert, rfl⟩ := createMembership_ok hjoin
    rcases h.invites invite hinvite with ⟨old, hold, hsame⟩ | hreach
    · exact absurd (hsame.trans htoken) (hown old hold)
    · exact h.join hinsert hreach hmembers hinvites

end

/-- In every run of requests of an actor and of acceptances of their invitations,
if no request asks for a role above the actor's and every deactivation is of a
member below the actor, then from any state of the run to a later one nobody becomes
a member above the actor, and no membership of another user is changed or removed
that was not strictly below the actor. -/
theorem members_contained (env : Env) (actor : UUID) (db₀ : Db) (es fs : List (Nat × Request))
    (h : Trace.Guarded (step env)
      (fun db e => OwnRequest env actor db₀ e ∧ RankBounded env actor db e) db₀ (es ++ fs)) :
    Contained env actor (Trace.run (step env) db₀ es) (Trace.run (step env) db₀ (es ++ fs)) := by
  obtain ⟨hes, hfs⟩ := Trace.Guarded.append_iff.mp h
  have hmid : Bounded env actor db₀ db₀ (Trace.run (step env) db₀ es) :=
    hes.invariant (.refl env actor db₀) (step_bounded db₀ db₀)
  rw [Trace.run_append]
  exact (hfs.invariant hmid.restart (step_bounded db₀ _)).toContained

/-! ## Two owners, an admin and a member -/

/-- The shipped roles, and one invitation token with its hash. -/
def sampleEnv : Env where
  cache := shippedRoles.cache
  hashToken token :=
    if token = "t1" then "628b49d96dcde97a430dd4f597705899e09a968f793491e4b704cae33a40dc02"
    else token
  normalizeEmail email := email
  emailError _ := none
  authError _ := none
  equalFold a b := a = b
  inviteExpiry := 100

/-- Users 2 and 4 own org 1, user 1 is an admin and user 3 a member. -/
def sampleDb : Db where
  users := ⟨[⟨1, "user@example.com"⟩, ⟨2, "b@example.com"⟩, ⟨3, "c@example.com"⟩,
    ⟨4, "d@example.com"⟩, ⟨5, "e@example.com"⟩], by decide⟩
  memberships := ⟨[⟨1, 1, "admin", admin_mem_orgRoles⟩, ⟨2, 1, "owner", by decide⟩,
    ⟨3, 1, "member", by decide⟩, ⟨4, 1, "owner", by decide⟩], by decide⟩
  invites := .empty

/-- A run of the actor's requests that breaks the rule. -/
def Escapes (env : Env) (actor : UUID) (db₀ : Db) (es : List (Nat × Request)) : Prop :=
  Trace.Guarded (step env) (fun _ e => OwnRequest env actor db₀ e) db₀ es ∧
    ¬ Contained env actor db₀ (Trace.run (step env) db₀ es)
  deriving Decidable

/-- The admin's invitation of user 5, and its acceptance. -/
def inviteAndAccept (role : String) : List (Nat × Request) :=
  [(0, .invite (plainUser 1) (some 1) ⟨"e@example.com", role, [], none, none⟩ 50 "t1"),
    (1, .accept { plainUser 5 with email := "e@example.com" } "t1" true)]

/-- After the admin has invited user 5 as a member, they promote them to their own
rank and deactivate user 3. -/
theorem members_contained_sample :
    Contained sampleEnv 1 (Trace.run (step sampleEnv) sampleDb (inviteAndAccept "member"))
      (Trace.run (step sampleEnv) sampleDb
        (inviteAndAccept "member" ++ [(2, .changeRole (plainUser 1) (some 1) (some 5) "admin"),
          (3, .deactivate (plainUser 1) (some 1) (some 3))])) :=
  members_contained _ _ _ _ _ (by decide +kernel)

/-- The admin makes user 5 an owner, directly or by an invitation, promotes user 3 to
owner, and deactivates an owner: none of these is refused. -/
theorem members_not_contained :
    Escapes sampleEnv 1 sampleDb [(0, .directAdd (plainUser 1) (some 1) (.id 5) "owner")] ∧
      Escapes sampleEnv 1 sampleDb (inviteAndAccept "owner") ∧
      Escapes sampleEnv 1 sampleDb [(0, .changeRole (plainUser 1) (some 1) (some 3) "owner")] ∧
      Escapes sampleEnv 1 sampleDb [(0, .deactivate (plainUser 1) (some 1) (some 2))] := by
  decide +kernel

end BurnerByte.Org
