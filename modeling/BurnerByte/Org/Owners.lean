import BurnerByte.Account.Addresses
import BurnerByte.Auth.Middleware
import BurnerByte.Core.References
import BurnerByte.Org.Ranks
import BurnerByte.Sso.Directory

/-!
# Owners of an org

An org is created with an owner, and an org that has an owner should keep one for as long
as it exists. Changing a role and deactivating a member refuse to take the last owner
away. Deleting a user takes their memberships with it and does not ask, neither when users
delete their own account nor when an administrator deletes it.

The memberships that SSO logins create are left out.
-/

namespace BurnerByte.Org

open Go Sql Handler Rbac Outcome
open Trace (Guarded run)

/-! ## The database -/

structure Organization where
  id : UUID
  name : String
  slug : String

/-- The columns of a user that prove who makes a request. -/
structure Credentials where
  passwordHash : Option String
  ssoProvider : Option String

structure Installation where
  db : Db
  orgs : UniqueTable Organization UUID String Organization.id Organization.slug
  credentials : UUID → Credentials
  setupCompleted : Bool
  member_user : References db.memberships.rows OrgMembership.userID db.users
  member_org : References db.memberships.rows OrgMembership.orgID orgs.toTable
  invite_org : References db.invites.rows Invite.orgID orgs.toTable

namespace Installation

section

variable (s : Installation)

/-- Statements that would leave a reference without its row are refused. -/
def write (db : Db) : Option Installation :=
  if h : References db.memberships.rows OrgMembership.userID db.users ∧
      References db.memberships.rows OrgMembership.orgID s.orgs.toTable ∧
      References db.invites.rows Invite.orgID s.orgs.toTable then
    some { s with db, member_user := h.1, member_org := h.2.1, invite_org := h.2.2 }
  else none

def createUser (user : User) (credentials : Credentials) : Except RepoError Installation :=
  if s.db.users.rows.any fun u => u.email = user.email then .error .conflict
  else
    match hinsert : s.db.users.insert user with
    | none => .error .conflict
    | some users =>
      .ok { s with
        db := { s.db with users }
        credentials := fun id => if id = user.id then credentials else s.credentials id
        member_user := s.member_user.of_parent_mem (Table.insert_eq_some hinsert).2 }

def createOrg (org : Organization) : Except RepoError Installation :=
  match Sso.varchar 255 org.name, Sso.varchar 255 org.slug with
  | some name, some slug =>
    match hinsert : s.orgs.insert ⟨org.id, name, slug⟩ with
    | none => .error .conflict
    | some orgs =>
      .ok { s with
        orgs
        member_org := s.member_org.of_parent_mem (UniqueTable.mem_insert hinsert)
        invite_org := s.invite_org.of_parent_mem (UniqueTable.mem_insert hinsert) }
  | _, _ => .error (.other "create org: value too long for type")

def createMembership (userID orgID : UUID) (role : String) : Except RepoError Installation :=
  match s.db.createMembership userID orgID role with
  | .error err => .error err
  | .ok db =>
    match s.write db with
    | none => .error (.other "create membership: foreign key violation")
    | some s => .ok s

/-- The memberships of the user are deleted with the user, and invitations forget who sent
them. -/
def deleteUser (userID : UUID) : Installation :=
  { s with
    db :=
      { users := s.db.users.deleteWhere fun u => u.id = userID
        memberships := s.db.memberships.deleteWhere fun m => m.userID = userID
        invites := s.db.invites.updateWhere (fun inv => inv.invitedBy = some userID)
          (fun inv => { inv with invitedBy := none }) fun _ => rfl }
    member_user := s.member_user.deleteKey userID
    member_org := s.member_org.filter _
    invite_org := s.invite_org.update _ _ fun _ => rfl }

/-- Memberships and invitations are deleted with the org. -/
def deleteOrg (orgID : UUID) : Installation :=
  { s with
    db :=
      { s.db with
        memberships := s.db.memberships.deleteWhere fun m => m.orgID = orgID
        invites := s.db.invites.deleteWhere fun inv => inv.orgID = orgID }
    orgs := s.orgs.deleteWhere fun org => org.id = orgID
    member_user := s.member_user.filter _
    member_org := s.member_org.deleteKey orgID
    invite_org := s.invite_org.deleteKey orgID }

end

end Installation

/-! ## Creating an org -/

def isSlugChar (c : Char) : Bool := ('a' ≤ c && c ≤ 'z') || ('0' ≤ c && c ≤ '9')

/-- Replace every run of other characters by one dash. -/
def dashRuns : Bool → List Char → List Char
  | _, [] => []
  | inRun, c :: t =>
    if isSlugChar c then c :: dashRuns false t
    else if inRun then dashRuns true t
    else '-' :: dashRuns true t

/-- A slug made of a name. A name that gives none gets another one. -/
def slugOr (other : String) (casing : Casing) (name : String) : String :=
  let dashed := dashRuns false (lowerText casing (trimText name)).toList
  let slug := String.ofList ((dashed.dropWhile (· = '-')).rdropWhile (· = '-'))
  if slug = "" then other else slug

def generateSlug : Casing → String → String := slugOr "org"

example : generateSlug .ascii " Acme & Sons! " = "acme-sons" := by decide

/-- The setup has a function of its own for that. -/
def setupSlug (name : String) : String :=
  String.ofList (name.toList.filterMap fun c =>
    if isSlugChar c || c = '-' then some c
    else if 'A' ≤ c && c ≤ 'Z' then some c.toLower
    else if c = ' ' then some '-'
    else none)

/-- What a request of `CreateOrg` draws, and whether its transaction commits. -/
structure OrgDraws where
  id : UUID
  suffix : String
  committed : Bool

/-- There is at most one org. -/
def createOrg (casing : Casing) (s : Installation) (name : String) (creatorID : UUID)
    (draws : OrgDraws) : Except String Installation := do
  if 0 < s.orgs.rows.length then .error "organization already exists"
  else if name = "" then .error "name is required"
  else
    let slug := generateSlug casing name
    let slug := if (s.orgs.findBy slug).isSome then slug ++ "-" ++ draws.suffix else slug
    let s ← (s.createOrg ⟨draws.id, name, slug⟩).mapError RepoError.message
    let s ← (s.createMembership creatorID draws.id "owner").mapError RepoError.message
    if !draws.committed then .error "commit: transaction aborted" else .ok s

def handleCreateOrg (casing : Casing) (uc : UserContext) (name : String) (draws : OrgDraws)
    (s : Installation) : Except HttpError Installation := do
  Auth.requireSystemAdmin uc
  (createOrg casing s name uc.userID draws).mapError serviceError

/-- The org of the setup. The flag `stored` of the accounts' input is the outcome of the
inserts that concern neither the org nor its members. -/
structure SetupOrg where
  id : UUID
  slug : String
  /-- Addresses and roles. -/
  invites : List (String × String)
  fresh : Nat → UUID × String

/-- An insertion that fails aborts the transaction, although the code means to go on. -/
def setupInvites (env : Env) (now : Nat) (db : Db) (org : SetupOrg) (adminID : UUID) : Option Db :=
  (org.invites.filter fun inv => inv.1 ≠ "" && (Mail.parseAddress inv.1).isSome).zipIdx.foldlM
    (fun db (inv, i) =>
      db.createInvite (org.fresh i).1 org.id inv.1 (if inv.2 = "" then "member" else inv.2)
        (env.hashToken (org.fresh i).2) adminID (now + env.inviteExpiry)) db

def complete (cfg : Account.Config) (env : Env) (now : Nat) (input : Account.SetupInput)
    (org : SetupOrg) (s : Installation) : Except String Installation := do
  input.check cfg
  if s.setupCompleted then .error "setup already completed"
  else
    let hash ← (cfg.env.hashPassword input.password).mapError fun _ => "failed to hash password"
    let s ← (s.createUser ⟨input.userID, input.email⟩ ⟨some hash, none⟩).mapError fun err =>
      match err with
      | .conflict => "admin email already exists"
      | _ => "failed to create admin user"
    let slug := if org.slug = "" then setupSlug input.orgName else org.slug
    let s ← (s.createOrg ⟨org.id, input.orgName, slug⟩).mapError fun _ =>
      "failed to create organization"
    let s ← (s.createMembership input.userID org.id "owner").mapError fun _ =>
      "failed to add admin to org"
    input.stored
    match (setupInvites env now s.db org input.userID).bind s.write with
    | none => .error "failed to mark setup complete"
    | some s => .ok { s with setupCompleted := true }

/-! ## Deleting -/

section

variable (cfg : Account.Config)

def deleteAccount (s : Installation) (userID : UUID) (password : String) :
    Except String Installation :=
  if (s.db.users.find? userID).isNone then .error RepoError.notFound.message
  else
    match (s.credentials userID).passwordHash with
    | none => .error "SSO-only accounts must re-authenticate via SSO before deletion"
    | some hash =>
      if !cfg.env.checkPassword hash password then .error "incorrect password"
      else .ok (s.deleteUser userID)

def handleDeleteAccount (uc : UserContext) (password : String) (s : Installation) :
    Except HttpError Installation := do
  rejectAPIKey (some uc)
  (deleteAccount cfg s uc.userID password).mapError serviceError

/-- The handler of administrators. -/
def handleDeleteUser (uc : UserContext) (userParam : Option UUID) (s : Installation) :
    Except HttpError Installation := do
  Auth.requireSystemAdmin uc
  match userParam with
  | none => .error (badRequest "invalid user ID")
  | some userID =>
    if userID = uc.userID then .error (badRequest "cannot delete your own account from admin panel")
    else .ok (s.deleteUser userID)

/-- Users of an SSO provider need no password, but one that they give is checked. -/
def confirmIdentity (c : Credentials) (password : String) : Except HttpError Unit :=
  if c.ssoProvider.all (· = "") then
    if password = "" then .error (badRequest "password is required to delete an organization")
    else
      match c.passwordHash with
      -- the handler dereferences a nil pointer, and the router recovers
      | none => .error ⟨500, ""⟩
      | some hash =>
        if !cfg.env.checkPassword hash password then .error (forbidden "incorrect password")
        else .ok ()
  else
    match c.passwordHash with
    | none => .ok ()
    | some hash =>
      if password ≠ "" && !cfg.env.checkPassword hash password then
        .error (forbidden "incorrect password")
      else .ok ()

def handleDeleteOrg (env : Env) (uc : UserContext) (orgParam : Option UUID) (password : String)
    (s : Installation) : Except HttpError Installation := do
  match orgParam with
  | none => .error (badRequest "invalid org ID")
  | some orgID =>
    checkOrgPermission (s.db.checker env) (some uc) orgID "org.delete"
    if (s.db.users.find? uc.userID).isNone then .error ⟨500, "failed to verify identity"⟩
    else
      confirmIdentity cfg (s.credentials uc.userID) password
      .ok (s.deleteOrg orgID)

end

/-! ## Runs -/

inductive Operation where
  /-- A request that manages members. -/
  | members (req : Request)
  | createOrg (uc : UserContext) (name : String) (draws : OrgDraws)
  | setup (input : Account.SetupInput) (org : SetupOrg)
  | deleteOrg (uc : UserContext) (orgParam : Option UUID) (password : String)
  | deleteAccount (uc : UserContext) (password : String)
  | deleteUser (uc : UserContext) (userParam : Option UUID)
  /-- A registration of whatever kind. -/
  | signUp (user : User) (credentials : Credentials)
  | setCredentials (userID : UUID) (credentials : Credentials)

/-- An operation, with the time and the settings under which it is performed. -/
structure Event where
  cfg : Account.Config
  env : Env
  now : Nat
  operation : Operation

def Installation.step (s : Installation) (e : Event) : Installation :=
  match e.operation with
  | .members req => (s.write (Org.step e.env s.db (e.now, req))).getD s
  | .createOrg uc name draws =>
    (handleCreateOrg e.cfg.casing uc name draws s).toOption.getD s
  | .setup input org => (complete e.cfg e.env e.now input org s).toOption.getD s
  | .deleteOrg uc orgParam password =>
    (handleDeleteOrg e.cfg e.env uc orgParam password s).toOption.getD s
  | .deleteAccount uc password => (handleDeleteAccount e.cfg uc password s).toOption.getD s
  | .deleteUser uc userParam => (handleDeleteUser uc userParam s).toOption.getD s
  | .signUp user credentials => (s.createUser user credentials).toOption.getD s
  | .setCredentials userID credentials =>
    { s with credentials := fun id => if id = userID then credentials else s.credentials id }

/-! ## Requests that manage members -/

def Db.Owned (db : Db) (orgID : UUID) : Prop :=
  ∃ m ∈ db.memberships, m.orgID = orgID ∧ m.role = "owner"
  deriving Decidable

/-- Somebody other than the user owns the org. -/
def Db.OwnedBeside (db : Db) (orgID userID : UUID) : Prop :=
  ∃ m ∈ db.memberships, m.orgID = orgID ∧ m.role = "owner" ∧ m.userID ≠ userID
  deriving Decidable

variable {env : Env} {db db' : Db} {orgID userID : UUID}

/-- Of two owners one is not the user, since a user has one membership of an org. -/
theorem Db.ownedBeside_of_countOwners (h : 1 < db.countOwners orgID) (userID : UUID) :
    db.OwnedBeside orgID userID := by
  obtain ⟨m, hm, howner, hkey⟩ := Table.exists_key_ne h (userID, orgID)
  obtain ⟨horg, hrole⟩ : m.orgID = orgID ∧ m.role = "owner" := by simpa using howner
  refine ⟨m, hm, horg, hrole, ?_⟩
  intro huser
  exact hkey (by rw [membershipKey, huser, horg])

theorem Db.Owned.of_subset (h : db.Owned orgID)
    (hsubset : ∀ m ∈ db.memberships, m ∈ db'.memberships) : db'.Owned orgID := by
  obtain ⟨m, hm, howner⟩ := h
  exact ⟨m, hsubset m hm, howner⟩

variable {role : String} {orgID' : UUID}

theorem Db.Owned.createMembership (h : db.Owned orgID)
    (hcreate : db.createMembership userID orgID' role = .ok db') : db'.Owned orgID := by
  obtain ⟨_, memberships, hinsert, rfl⟩ := createMembership_ok hcreate
  exact h.of_subset fun m hm => ((Table.insert_eq_some hinsert).2 m).mpr (.inr hm)

theorem Db.owned_iff :
    db.Owned orgID ↔ ∃ m ∈ db.memberships, (m.orgID = orgID && m.role = "owner") = true := by
  simp [Db.Owned]

section

variable (h : db.Owned orgID)

include h

/-- The org keeps an owner when one membership of an org changes, if that is none of an owner
of the org or leaves another one. -/
theorem Db.Owned.of_other {current : OrgMembership}
    (hfind : db.memberships.find? (userID, orgID') = some current)
    (hkept : ∀ m ∈ db.memberships, membershipKey m ≠ (userID, orgID') → m ∈ db'.memberships)
    (hcurrent : current.role = "owner" → 1 < db.countOwners orgID' ∨ db'.Owned orgID') :
    db'.Owned orgID := by
  rw [Db.owned_iff] at h ⊢
  refine Table.exists_of_other h hfind hkept ?_
  intro howner
  obtain ⟨horg, hrole⟩ : current.orgID = orgID ∧ current.role = "owner" := by simpa using howner
  obtain ⟨_, horg'⟩ := Prod.mk.inj (Table.find?_eq_some_iff.mp hfind).2
  obtain rfl := horg.symm.trans horg'
  exact (hcurrent hrole).imp_right Db.owned_iff.mp

theorem Db.Owned.updateMemberRole {current : OrgMembership}
    (hfind : db.memberships.find? (userID, orgID') = some current)
    (hlast : current.role = "owner" → role = "owner" ∨ 1 < db.countOwners orgID')
    (hupdate : db.updateMemberRole userID orgID' role = .ok db') : db'.Owned orgID := by
  obtain ⟨_, old, hold, _, hmem⟩ := updateMemberRole_ok hupdate
  refine h.of_other hfind (fun m hm hkey => (hmem m).mpr (.inr ⟨hm, hkey⟩)) ?_
  intro howner
  refine (hlast howner).symm.imp_right ?_
  intro hrole
  exact ⟨_, (hmem _).mpr (.inl rfl), (Prod.mk.inj (Table.find?_eq_some_iff.mp hold).2).2, hrole⟩

/-- No request that manages members takes the last owner of an org away. -/
theorem Db.Owned.step (e : Nat × Request) : (step env db e).Owned orgID := by
  have hkept {result : Except HttpError Db} (hok : ∀ db', result = .ok db' → db'.Owned orgID) :
      (result.toOption.getD db).Owned orgID := getD_of_ok (P := (Db.Owned · orgID)) h hok
  obtain ⟨now, r⟩ := e
  cases r with
  | directAdd uc orgParam userText role =>
    refine hkept fun db' hok => ?_
    obtain ⟨_, _, _, _, hcreate⟩ := handleDirectAdd_ok hok
    exact h.createMembership hcreate
  | invite uc orgParam input id token =>
    cases handleInvite_cases env now uc orgParam input id token db with
    | inl hsame => rwa [Org.step, hsame]
    | inr honly =>
      obtain ⟨_, _, _, honly⟩ := honly
      exact h.of_subset fun m hm => honly.memberships ▸ hm
  | bulkInvite uc orgParam input fresh =>
    refine hkept fun db' hok => ?_
    obtain ⟨_, _, _, honly⟩ := handleBulkInvite_ok hok
    exact h.of_subset fun m hm => honly.memberships ▸ hm
  | changeRole uc orgParam userParam role =>
    refine hkept fun db' hok => ?_
    obtain ⟨_, _, _, _, hchange⟩ := handleChangeRole_ok hok
    obtain ⟨current, hfind, hlast, hupdate⟩ := changeRole_ok hchange
    exact h.updateMemberRole hfind hlast hupdate
  | deactivate uc orgParam userParam =>
    refine hkept fun db' hok => ?_
    obtain ⟨_, _, _, _, _, _, hdeactivate⟩ := handleDeactivate_ok hok
    obtain ⟨current, hfind, hlast, rfl⟩ := deactivateUser_ok hdeactivate
    refine h.of_other hfind ?_ fun howner => .inl (hlast howner)
    intro m hm hkey
    exact Table.mem_deleteWhere.mpr ⟨hm, by simpa using hkey⟩
  | accept uc token committed =>
    refine hkept fun db' hok => ?_
    cases handleAccept_ok hok with
    | inl hsame =>
      rw [hsame]
      exact h
    | inr hjoined =>
      obtain ⟨invite, _, _, joined, hjoin, hmembers, _⟩ := hjoined
      exact (h.createMembership hjoin).of_subset fun m hm => hmembers ▸ hm

end

/-! ## Runs of an installation -/

def Installation.Exists (s : Installation) (orgID : UUID) : Prop := ∃ org ∈ s.orgs, org.id = orgID
  deriving Decidable

/-- As long as the org exists, it has an owner. -/
def Installation.Kept (orgID : UUID) (s : Installation) : Prop :=
  s.Exists orgID → s.db.Owned orgID

/-- The user whom an operation deletes. -/
def Event.deletes (e : Event) (s : Installation) : Option UUID :=
  match e.operation with
  | .deleteAccount uc password =>
    if (handleDeleteAccount e.cfg uc password s).isOk then some uc.userID else none
  | .deleteUser uc userParam => if (handleDeleteUser uc userParam s).isOk then userParam else none
  | _ => none

/-- The operation does not delete the last owner of the org. -/
def Spares (orgID : UUID) (s : Installation) (e : Event) : Prop :=
  ∀ userID, e.deletes s = some userID → s.db.Owned orgID → s.db.OwnedBeside orgID userID

section

variable {cfg : Account.Config} {s s' : Installation}

variable {uc : UserContext} {e : Event}

theorem Installation.write_eq_some (h : s.write db = some s') : s'.db = db ∧ s'.orgs = s.orgs := by
  unfold Installation.write at h
  split at h
  · cases h
    exact ⟨rfl, rfl⟩
  · cases h

theorem Installation.createUser_eq_ok {user : User} {credentials : Credentials}
    (h : s.createUser user credentials = .ok s') :
    s'.db.memberships = s.db.memberships ∧ s'.orgs = s.orgs := by
  obtain ⟨_, h⟩ := guard_eq_ok.mp h
  split at h
  · cases h
  cases h
  exact ⟨rfl, rfl⟩

theorem Installation.createOrg_eq_ok {org : Organization} (h : s.createOrg org = .ok s') :
    s'.db = s.db ∧ ∃ row, s'.orgs.rows = row :: s.orgs.rows ∧ row.id = org.id := by
  unfold Installation.createOrg at h
  split at h
  · split at h
    · cases h
    rename_i orgs hinsert
    cases h
    exact ⟨rfl, _, UniqueTable.rows_insert hinsert, rfl⟩
  · cases h

theorem Installation.createMembership_eq_ok (h : s.createMembership userID orgID role = .ok s') :
    s.db.createMembership userID orgID role = .ok s'.db ∧ s'.orgs = s.orgs := by
  unfold Installation.createMembership at h
  split at h
  · cases h
  rename_i db hcreate
  split at h
  · cases h
  rename_i written hwrite
  cases h
  obtain ⟨rfl, horgs⟩ := Installation.write_eq_some hwrite
  exact ⟨hcreate, horgs⟩

theorem createOrg_eq_ok {casing : Casing} {name : String} {creatorID : UUID} {draws : OrgDraws}
    (h : createOrg casing s name creatorID draws = .ok s') :
    ∃ org created, org.id = draws.id ∧ s.createOrg org = .ok created ∧
      created.createMembership creatorID draws.id "owner" = .ok s' ∧ s.orgs.rows = [] := by
  obtain ⟨hnone, h⟩ := guard_eq_ok.mp h
  obtain ⟨_, h⟩ := guard_eq_ok.mp h
  obtain ⟨created, hcreate, h⟩ := bind_eq_ok.mp h
  obtain ⟨joined, hjoin, h⟩ := bind_eq_ok.mp h
  obtain ⟨_, h⟩ := guard_eq_ok.mp h
  cases h
  exact ⟨_, created, rfl, mapError_eq_ok.mp hcreate, mapError_eq_ok.mp hjoin,
    List.eq_nil_of_length_eq_zero (Nat.eq_zero_of_not_pos hnone)⟩

/-- The invitations of the setup are no memberships. -/
theorem setupInvites_memberships {now : Nat} {org : SetupOrg} {adminID : UUID}
    (h : setupInvites env now db org adminID = some db') : db'.memberships = db.memberships := by
  unfold setupInvites at h
  generalize (org.invites.filter _).zipIdx = entries at h
  induction entries generalizing db with
  | nil =>
    cases h
    rfl
  | cons entry entries ih =>
    obtain ⟨next, hnext, hrest⟩ := Option.bind_eq_some_iff.mp h
    exact (ih hrest).trans (InvitesOnly.createInvite hnext).memberships

namespace Installation.Kept

section

variable (h : s.Kept orgID)

include h

/-- Nothing happens to the orgs, and no membership is lost. -/
theorem of_owned (horgs : s'.orgs = s.orgs)
    (howned : s.db.Owned orgID → s'.db.Owned orgID) : s'.Kept orgID := by
  rintro ⟨org, horg, hid⟩
  rw [horgs] at horg
  exact howned (h ⟨org, horg, hid⟩)

/-- An org that is created with an owner. -/
theorem found {org : Organization} {created : Installation}
    (hcreate : s.createOrg org = .ok created)
    (hjoin : created.createMembership userID org.id "owner" = .ok s') : s'.Kept orgID := by
  obtain ⟨hdb, new, hrows, hnew⟩ := Installation.createOrg_eq_ok hcreate
  obtain ⟨hmember, horgs⟩ := Installation.createMembership_eq_ok hjoin
  rintro ⟨row, hrow, rfl⟩
  rw [horgs] at hrow
  change row ∈ created.orgs.rows at hrow
  rw [hrows] at hrow
  cases List.mem_cons.mp hrow with
  | inl heq =>
    rw [heq, hnew]
    obtain ⟨_, memberships, hinsert, hmember⟩ := createMembership_ok hmember
    rw [Db.Owned, hmember]
    exact ⟨_, ((Table.insert_eq_some hinsert).2 _).mpr (.inl rfl), rfl, rfl⟩
  | inr hold =>
    rw [hdb] at hmember
    exact (h ⟨row, hold, rfl⟩).createMembership hmember

theorem createOrg {casing : Casing} {name : String} {draws : OrgDraws}
    (hok : handleCreateOrg casing uc name draws s = .ok s') :
    s'.Kept orgID := by
  obtain ⟨_, _, hok⟩ := bind_eq_ok.mp hok
  obtain ⟨_, _, hid, hcreate, hjoin, _⟩ := Org.createOrg_eq_ok (mapError_eq_ok.mp hok)
  exact h.found hcreate (hid ▸ hjoin)

theorem complete {now : Nat} {input : Account.SetupInput} {org : SetupOrg}
    (hok : complete cfg env now input org s = .ok s') : s'.Kept orgID := by
  obtain ⟨_, _, hok⟩ := bind_eq_ok.mp hok
  obtain ⟨_, hok⟩ := guard_eq_ok.mp hok
  obtain ⟨_, _, hok⟩ := bind_eq_ok.mp hok
  obtain ⟨joining, huser, hok⟩ := bind_eq_ok.mp hok
  obtain ⟨created, hcreate, hok⟩ := bind_eq_ok.mp hok
  obtain ⟨joined, hjoin, hok⟩ := bind_eq_ok.mp hok
  obtain ⟨_, _, hok⟩ := bind_eq_ok.mp hok
  obtain ⟨hmembers, horgs⟩ := Installation.createUser_eq_ok (mapError_eq_ok.mp huser)
  have hjoining : joining.Kept orgID :=
    h.of_owned horgs fun howned => howned.of_subset fun m hm => hmembers ▸ hm
  have hfounded := hjoining.found (mapError_eq_ok.mp hcreate)
    (mapError_eq_ok.mp hjoin)
  split at hok
  · cases hok
  rename_i invited hinvites
  cases hok
  obtain ⟨db, hdb, hwrite⟩ := Option.bind_eq_some_iff.mp hinvites
  obtain ⟨rfl, horgs⟩ := Installation.write_eq_some hwrite
  exact hfounded.of_owned horgs fun howned =>
    howned.of_subset fun m hm => setupInvites_memberships hdb ▸ hm

/-- The org that is deleted does not exist any more, and others are not concerned. -/
theorem deleteOrg (orgID' : UUID) : (s.deleteOrg orgID').Kept orgID := by
  rintro ⟨org, horg, rfl⟩
  obtain ⟨hmem, hother⟩ := UniqueTable.mem_deleteWhere.mp horg
  obtain ⟨m, hm, hmorg, hrole⟩ := h ⟨org, hmem, rfl⟩
  refine ⟨m, Table.mem_deleteWhere.mpr ⟨hm, ?_⟩, hmorg, hrole⟩
  rw [hmorg]
  exact hother

end

end Installation.Kept

theorem handleDeleteOrg_ok {orgParam : Option UUID} {password : String}
    (h : handleDeleteOrg cfg env uc orgParam password s = .ok s') :
    ∃ orgID, s' = s.deleteOrg orgID := by
  unfold handleDeleteOrg at h
  split at h
  · cases h
  rename_i orgID
  simp only [bind_eq_ok, guard_eq_ok] at h
  obtain ⟨_, _, _, _, _, h⟩ := h
  exact ⟨orgID, (Except.ok.inj h).symm⟩

theorem handleDeleteUser_ok {userParam : Option UUID}
    (h : handleDeleteUser uc userParam s = .ok s') :
    ∃ userID, userParam = some userID ∧ s' = s.deleteUser userID := by
  obtain ⟨_, _, h⟩ := bind_eq_ok.mp h
  cases userParam with
  | none => cases h
  | some userID =>
    obtain ⟨_, h⟩ := guard_eq_ok.mp h
    exact ⟨userID, rfl, (Except.ok.inj h).symm⟩

/-- An operation that deletes a user does nothing else. -/
theorem step_of_deletes (h : e.deletes s = some userID) : s.step e = s.deleteUser userID := by
  unfold Event.deletes at h
  unfold Installation.step
  split at h
  · rename_i uc password hop
    rw [hop]
    cases hdelete : handleDeleteAccount e.cfg uc password s with
    | error err =>
      rw [hdelete] at h
      cases h
    | ok deleted =>
      rw [hdelete] at h
      cases h
      simp only [hdelete]
      obtain ⟨_, _, hdelete⟩ := bind_eq_ok.mp hdelete
      have hservice := mapError_eq_ok.mp hdelete
      obtain ⟨_, hservice⟩ := guard_eq_ok.mp hservice
      split at hservice
      · cases hservice
      obtain ⟨_, hservice⟩ := guard_eq_ok.mp hservice
      exact (Except.ok.inj hservice).symm
  · rename_i uc userParam hop
    rw [hop]
    cases hdelete : handleDeleteUser uc userParam s with
    | error err =>
      rw [hdelete] at h
      cases h
    | ok deleted =>
      rw [hdelete] at h
      obtain ⟨deletedID, rfl, rfl⟩ := handleDeleteUser_ok hdelete
      cases h
      simp only [hdelete]
      rfl
  · cases h

/-- An org keeps an owner exactly if it has another one than the user. -/
theorem owned_deleteUser_iff : (s.deleteUser userID).db.Owned orgID ↔
    s.db.OwnedBeside orgID userID := by
  constructor
  · rintro ⟨m, hm, horg, hrole⟩
    obtain ⟨hmem, hother⟩ := Table.mem_deleteWhere.mp hm
    exact ⟨m, hmem, horg, hrole, by simpa using hother⟩
  · rintro ⟨m, hm, horg, hrole, hother⟩
    exact ⟨m, Table.mem_deleteWhere.mpr ⟨hm, by simpa using hother⟩, horg, hrole⟩

/-- Every operation that deletes no user keeps the owners. -/
theorem Installation.Kept.step (h : s.Kept orgID) (he : e.deletes s = none) :
    (s.step e).Kept orgID := by
  unfold Event.deletes at he
  unfold Installation.step
  cases hop : e.operation with
  | members req =>
    simp only
    cases hwrite : s.write (Org.step e.env s.db (e.now, req)) with
    | none => exact h
    | some written =>
      obtain ⟨hdb, horgs⟩ := Installation.write_eq_some hwrite
      refine h.of_owned horgs fun howned => ?_
      rw [Option.getD_some, hdb]
      exact howned.step _
  | createOrg uc name draws =>
    exact getD_of_ok h fun _ hok => h.createOrg hok
  | setup input org =>
    exact getD_of_ok h fun _ hok => h.complete hok
  | deleteOrg uc orgParam password =>
    refine getD_of_ok h fun s' hok => ?_
    obtain ⟨orgID', rfl⟩ := handleDeleteOrg_ok hok
    exact h.deleteOrg orgID'
  | deleteAccount uc password =>
    refine getD_of_ok h fun s' hok => ?_
    simp [hop, hok, Except.isOk, Except.toBool] at he
  | deleteUser uc userParam =>
    refine getD_of_ok h fun s' hok => ?_
    obtain ⟨userID, rfl, _⟩ := handleDeleteUser_ok hok
    simp [hop, hok, Except.isOk, Except.toBool] at he
  | signUp user credentials =>
    refine getD_of_ok h fun s' hok => ?_
    obtain ⟨hmembers, horgs⟩ := Installation.createUser_eq_ok hok
    exact h.of_owned horgs fun howned => howned.of_subset fun m hm => hmembers ▸ hm
  | setCredentials userID credentials => exact h

theorem spares_iff (h : s.Kept orgID) : Spares orgID s e ↔ (s.step e).Kept orgID := by
  cases he : e.deletes s with
  | none =>
    refine ⟨fun _ => h.step he, fun _ userID hdeletes => ?_⟩
    rw [he] at hdeletes
    cases hdeletes
  | some deleted =>
    rw [step_of_deletes he]
    constructor
    · intro hspares hexists
      exact owned_deleteUser_iff.mpr (hspares deleted he (h hexists))
    · intro hkept userID hdeletes howned
      cases he.symm.trans hdeletes
      -- the org of a membership exists
      obtain ⟨m, hm, rfl, _⟩ := howned
      exact owned_deleteUser_iff.mp (hkept (s.member_org m hm))

/-- An org that has an owner keeps one, in every state of a run in which it exists, if and
only if no operation of the run deletes the last one. -/
theorem owner_kept_iff {events : List Event} (howned : s.db.Owned orgID) :
    (∀ done, done <+: events → (run Installation.step s done).Exists orgID →
      (run Installation.step s done).db.Owned orgID) ↔
      Guarded Installation.step (Spares orgID) s events := by
  have hstart : s.Kept orgID := fun _ => howned
  have hstep : ∀ s e, Installation.Kept orgID s →
      (Spares orgID s e ↔ (Installation.step s e).Kept orgID) := fun _ _ h => spares_iff h
  exact (Guarded.iff_always hstart hstep).symm

end

/-! ## The only owner leaves -/

/-- Before the setup. -/
def freshInstallation : Installation where
  db := ⟨.empty, .empty, .empty⟩
  orgs := .empty
  credentials _ := ⟨none, none⟩
  setupCompleted := false
  member_user _ h := by cases h
  member_org _ h := by cases h
  invite_org _ h := by cases h

def sampleEvent (operation : Operation) : Event := ⟨Account.sampleConfig, sampleEnv, 0, operation⟩

/-- The setup creates the org 1 with user 1 as its owner. -/
def sampleInstallation : Installation :=
  freshInstallation.step
    (sampleEvent (.setup (Account.sampleSetup "admin@example.com") ⟨1, "", [], fun _ => (0, "")⟩))

/-- User 1 deletes their account. -/
def leave : Event := sampleEvent (.deleteAccount (plainUser 1) "correct horse")

/-- An administrator deletes user 1. -/
def dismissed : Event :=
  sampleEvent (.deleteUser { plainUser 3 with isSystemAdmin := true } (some 1))

/-- User 2 joins the org as a second owner. -/
def joinAsOwner : List Event :=
  [sampleEvent (.signUp ⟨2, "b@example.com"⟩ ⟨none, some "google"⟩),
    sampleEvent (.members (.directAdd (plainUser 1) (some 1) (.id 2) "owner"))]

theorem second_owner_kept :
    (run Installation.step sampleInstallation (joinAsOwner ++ [leave])).db.Owned 1 := by
  have howned : sampleInstallation.db.Owned 1 := by decide +kernel
  have hexists : (run Installation.step sampleInstallation
      (joinAsOwner ++ [leave])).Exists 1 := by decide +kernel
  have hspares : Guarded Installation.step (Spares 1) sampleInstallation
      (joinAsOwner ++ [leave]) := by
    refine ⟨fun _ h => (by cases h), fun _ h => (by cases h), fun userID h _ => ?_, trivial⟩
    have hdeletes : leave.deletes
        (run Installation.step sampleInstallation joinAsOwner) = some 1 := by decide +kernel
    cases hdeletes.symm.trans h
    decide +kernel
  exact (owner_kept_iff howned).mpr hspares _ (List.prefix_refl _) hexists

/-- The only owner deletes their account, or is deleted by an administrator. The org remains. -/
theorem only_owner_deleted :
    sampleInstallation.db.Owned 1 ∧
      (run Installation.step sampleInstallation [leave]).Exists 1 ∧
      ¬ (run Installation.step sampleInstallation [leave]).db.Owned 1 ∧
      (run Installation.step sampleInstallation [dismissed]).Exists 1 ∧
      ¬ (run Installation.step sampleInstallation [dismissed]).db.Owned 1 := by
  decide +kernel

end BurnerByte.Org
