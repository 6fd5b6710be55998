import BurnerByte.Teams.Requests

/-!
# How the invited sign in

An invitation lists the methods by which the invited user may sign in. While registration is closed,
`Register` and the first login with SSO compare the method with the list of an invitation before
they create the account. `AcceptInvite` gives the memberships, and compares nothing: an account that
is older than the invitation, or was created while registration was open, or under another
invitation, accepts it however its user signed in.

Beside the database there is a history: who has signed in, and how, and whose account was created
under which invitation. No request reads it.
-/

namespace BurnerByte.Teams

open Go Rbac Sql

/-! ## Signing in -/

def HasAccount (id : UUID) (svc : Account.Service) : Prop :=
  (svc.accounts.getByID id).isSome = true

/-- Every account of one service exists in the other. -/
def KeepsAccounts (svc svc' : Account.Service) : Prop :=
  ∀ id, HasAccount id svc → HasAccount id svc'

variable {limits : Account.Limits} {svc svc' : Account.Service} {method : Method} {userID : UUID}
  {db : Db} {token : String}

theorem isSome_of_moves {id : UUID} {old new : Option Account.User} (h : limits.Moves id old new)
    (hold : old.isSome = true) : new.isSome = true := by
  cases h with
  | same found => exact hold
  | _ => rfl

theorem keepsAccounts_of_does (h : svc.DoesWithin limits svc') : KeepsAccounts svc svc' :=
  fun id hid => h.invariant hid fun _ _ hs he => isSome_of_moves (he.moves id) hs

theorem KeepsAccounts.references {α : Type} {rows : List α} {userID : α → UUID}
    (h : KeepsAccounts svc svc') (hrows : References rows userID svc.accounts.table) :
    References rows userID svc'.accounts.table := by
  intro row hrow
  exact SsoLogin.isSome_getByID_iff.mp (h _ (SsoLogin.isSome_getByID_iff.mpr (hrows row hrow)))

/-- The database with the accounts and sessions of a service. -/
def Db.withService (db : Db) (svc : Account.Service) (h : KeepsAccounts db.svc svc) : Db :=
  { db with
    svc
    orgMember_user := h.references db.orgMember_user
    teamMember_user := h.references db.teamMember_user }

/-- The columns of an invitation that a registration reads. -/
def Invite.row (invite : Invite) : Account.Invite :=
  ⟨invite.email, invite.acceptedAt, invite.expiresAt, invite.allowedAuth⟩

/-- A registration with the token of an invitation. -/
def registration (env : Org.Env) (db : Db) (token : String) (input : Account.RegisterInput) :
    Account.RegisterInput :=
  { input with invite := (db.getInviteByToken (env.hashToken token)).map Invite.row }

/-- The user whose password was right, whether or not there was room for another session. -/
def passwordUser (cfg : Account.Config) (db : Db) (input : Account.PasswordInput) : Option UUID :=
  match db.svc.accounts.getByEmail (Account.normalizeEmail cfg input.email) with
  | none => none
  | some account =>
    match Account.login cfg.env { input.checks with session := .ok () } account.user with
    | .error _ => none
    | .ok _ => some account.id

/-- The invitation under which an account was registered. Nobody looks at it while registration is
open. -/
def registeredUnder (env : Org.Env) (cfg : Account.Config) (db : Db) (token : String) :
    Option Invite :=
  if cfg.allowRegistration then none else db.getInviteByToken (env.hashToken token)

namespace SsoLogin

section

variable (login : SsoLogin) (db : Db)

/-- The domain of the address, and the account with which the login goes on. -/
def chosen : Option (String × Sso.Chosen) :=
  let p := db.platform login.providers login.mappings
  match Sso.checkDomain login.cfg login.faults p.dir login.result with
  | .error _ => none
  | .ok domain =>
    (Sso.selectAccount login.cfg login.faults p login.result domain login.draws).1.toOption.map
      (domain, ·)

def user : Option UUID := (login.chosen db).map fun c => c.2.id

/-- The rules for the domain of the address. -/
def rules (domain : String) : List Sso.SSODomainMapping :=
  Sso.matchingRules login.cfg login.faults (db.platform login.providers login.mappings).dir
    login.result domain

/-- The pending invitation that a first login finds by its address. -/
def pendingInvite : Option Invite :=
  db.invites.rows.find? fun invite =>
    invite.email = lowerText login.cfg.casing login.result.email && invite.acceptedAt.isNone &&
      decide (login.draws.now < invite.expiresAt)

/-- The invitation under which the login created an account. Nobody looks at it while registration
is open, or where a rule for the domain applies. -/
def createdUnder : Option Invite :=
  match login.chosen db with
  | none => none
  | some (domain, chosen) =>
    if chosen.isNew && !login.cfg.allowRegistration && (login.rules db domain).isEmpty then
      login.pendingInvite db
    else none

end

end SsoLogin

/-! ## The history -/

/-- A method, as invitations list it. -/
abbrev Method := String

def password : Method := "password"

def sso (provider : String) : Method := "sso:" ++ provider

structure World where
  db : Db
  /-- Who has signed in, and how. -/
  signIns : List (UUID × Method)
  /-- Whose account was created under which invitation. -/
  enrolments : List (UUID × Invite)

section

variable (env : Org.Env) (w : World) (db : Db) (invite : Invite)

/-- A user, if any, has signed in, and their account was created under an invitation, if any. -/
def World.signIn (method : Method) (user : Option UUID) (invite : Option Invite) : World where
  db
  signIns := user.toList.map (·, method) ++ w.signIns
  enrolments := user.toList.flatMap (fun id => invite.toList.map (id, ·)) ++ w.enrolments

inductive Event where
  | register (cfg : Account.Config) (token : String) (input : Account.RegisterInput)
  | login (cfg : Account.Config) (input : Account.PasswordInput)
  | ssoLogin (login : SsoLogin)
  | acceptInvite (now : Nat) (token : String) (userID : UUID) (userEmail : String)
  /-- Any other request: members are invited, changed and removed, and users change their
  accounts. -/
  | other (db : Db)

def World.step : Event → World
  | .register cfg token input =>
    let r := Account.register cfg w.db.svc (registration env w.db token input)
    w.signIn (w.db.withService r.2 (keepsAccounts_of_does (Account.register_does _))) password
      (r.1.toOption.map fun _ => input.userID) (registeredUnder env cfg w.db token)
  | .login cfg input =>
    let r := Account.passwordLogin cfg w.db.svc input
    w.signIn (w.db.withService r.2 (keepsAccounts_of_does (Account.passwordLogin_does input)))
      password (passwordUser cfg w.db input) none
  | .ssoLogin login =>
    w.signIn (w.db.ssoLogin login) (sso login.result.provider) (login.user w.db)
      (login.createdUnder w.db)
  | .acceptInvite now token userID userEmail =>
    { w with
      db := ((acceptInvite env now w.db token userID userEmail).map Prod.snd).toOption.getD w.db }
  | .other db => { w with db }

/-! ## The list of an invitation -/

/-- Not every method is allowed. -/
def Invite.Restricted : Prop :=
  invite.allowedAuth ≠ [] ∧ "any" ∉ invite.allowedAuth
  deriving Decidable

/-- The user has signed in by a method of the list. -/
def World.Listed (userID : UUID) (invite : Invite) : Prop :=
  ∃ method ∈ invite.allowedAuth, (userID, method) ∈ w.signIns
  deriving Decidable

/-- Nobody acquires a membership through a restricted invitation who has not signed in by a
method of its list. -/
def Lawful : Event → Prop
  | .acceptInvite now token userID userEmail =>
    ∀ invite result db', w.db.getInviteByToken (env.hashToken token) = some invite →
      invite.Restricted → acceptInvite env now w.db token userID userEmail = .ok (result, db') →
      Acquires w.db db' userID → w.Listed userID invite
  | _ => True

/-- The user exists and is a member neither of the organization nor of a team of the invitation,
and the roles there are roles of the database. -/
def Db.Admissible (userID : UUID) : Prop :=
  (∃ account ∈ db.svc.accounts.table, account.id = userID) ∧
    db.getOrgMembership userID invite.orgID = none ∧
    ∀ a ∈ db.inviteTeams invite, db.isLive a.teamID = true →
      a.teamRole ∈ teamRoles ∧ db.getMembership userID a.teamID = none
  deriving Decidable

/-- The invitation is pending and addressed to the user, who can be admitted. -/
def Db.Invites (now : Nat) (db : Db) (invite : Invite) (userID : UUID)
    (userEmail : String) : Prop :=
  invite.acceptedAt = none ∧ now ≤ invite.expiresAt ∧
    env.equalFold invite.email userEmail = true ∧ db.Admissible invite userID
  deriving Decidable

/-- A restricted invitation that is open to a user is accepted only if their account was created
under it, or they have signed in by a method of its list since. -/
def Proper : Event → Prop
  | .acceptInvite now token userID userEmail =>
    ∀ invite, w.db.getInviteByToken (env.hashToken token) = some invite → invite.Restricted →
      w.db.Invites env now invite userID userEmail →
      (userID, invite) ∈ w.enrolments ∨ w.Listed userID invite
  | _ => True

end

section

variable {env : Org.Env} {now : Nat} {db db' : Db} {token : String} {invite : Invite}
  {userID : UUID} {userEmail : String}

theorem exists_acceptPending_iff_admissible (hinvite : invite ∈ db.invites) :
    (∃ result db', acceptPending now db invite userID = .ok (result, db')) ↔
      db.Admissible invite userID := by
  constructor
  · rintro ⟨result, db', h⟩
    obtain ⟨member, _, hinsert, _⟩ := acceptPending_eq_ok.mp ⟨result, h⟩
    have huser := (exists_createOrgMembership_iff.mp ⟨member, hinsert⟩).2.2.1
    exact ⟨huser, (exists_acceptPending_iff hinvite huser).mp ⟨result, db', h⟩⟩
  · rintro ⟨huser, h⟩
    exact (exists_acceptPending_iff hinvite huser).mpr h

/-- A user acquires a membership by accepting exactly if the invitation is open to them. -/
theorem acceptInvite_acquires_iff
    (hfind : db.getInviteByToken (env.hashToken token) = some invite) :
    (∃ result db', acceptInvite env now db token userID userEmail = .ok (result, db') ∧
        Acquires db db' userID) ↔ db.Invites env now invite userID userEmail := by
  have hinvite : invite ∈ db.invites := (UniqueTable.findBy_eq_some_iff.mp hfind).1
  unfold acceptInvite Db.Invites
  simp only [hfind]
  rw [← @exists_acceptPending_iff_admissible now db invite userID hinvite]
  split
  · rename_i haccepted
    refine iff_of_false ?_ fun h => ?_
    · rintro ⟨result, db', h, hacquires⟩
      cases h
      rcases hacquires with ⟨m, hm, _, hnew⟩ | ⟨m, hm, _, hnew⟩
      · exact hnew hm
      · exact hnew hm
    · rw [h.1] at haccepted
      cases haccepted
  · rename_i hpending
    have hnone : invite.acceptedAt = none := by simpa using hpending
    split
    · exact iff_of_false (fun ⟨_, _, h, _⟩ => nomatch h) fun h => absurd h.2.1 (by omega)
    split
    · rename_i hemail
      refine iff_of_false (fun ⟨_, _, h, _⟩ => nomatch h) fun h => ?_
      rw [h.2.2.1] at hemail
      cases hemail
    rename_i hemail
    have hfold : env.equalFold invite.email userEmail = true := by simpa using hemail
    constructor
    · rintro ⟨result, db', h, _⟩
      exact ⟨hnone, by omega, hfold, result, db', h⟩
    · rintro ⟨_, _, _, result, db', h⟩
      have hadmissible := (exists_acceptPending_iff_admissible hinvite).mp ⟨result, db', h⟩
      exact ⟨result, db', h, acquires_of_getOrgMembership hadmissible.2.1
        (admits_of_acceptPending hinvite hadmissible.1 h).org⟩

end

/-! ## Accounts that were created under an invitation -/

/-- Who was enrolled under a restricted invitation signed in by a method of its list. -/
def World.Enrolled (w : World) : Prop :=
  ∀ entry ∈ w.enrolments, entry.2.Restricted → w.Listed entry.1 entry.2

variable {invite : Invite} {w : World} {env : Org.Env}

theorem mem_of_isAuthMethodAllowed (hrestricted : invite.Restricted)
    (h : Account.isAuthMethodAllowed invite.allowedAuth method = true) :
    method ∈ invite.allowedAuth := by
  simp only [Account.isAuthMethodAllowed, Bool.or_eq_true, List.isEmpty_iff, List.any_eq_true,
    decide_eq_true_eq] at h
  rcases h with hempty | ⟨listed, hmem, rfl | rfl⟩
  · exact absurd hempty hrestricted.1
  · exact absurd hmem hrestricted.2
  · exact hmem

theorem World.Enrolled.signIn {user : Option UUID} {invite : Option Invite} (h : w.Enrolled)
    (hallowed : ∀ id ∈ user, ∀ inv ∈ invite,
      Account.isAuthMethodAllowed inv.allowedAuth method = true) :
    (w.signIn db method user invite).Enrolled := by
  rintro ⟨id, inv⟩ hentry hrestricted
  rcases List.mem_append.mp hentry with hnew | hold
  · simp only [List.mem_flatMap, Option.mem_toList, List.mem_map, Prod.mk.injEq] at hnew
    obtain ⟨user', huser, inv', hinvite, rfl, rfl⟩ := hnew
    refine ⟨method, mem_of_isAuthMethodAllowed hrestricted (hallowed user' huser inv' hinvite), ?_⟩
    exact List.mem_append_left _ (List.mem_map.mpr ⟨user', Option.mem_toList.mpr huser, rfl⟩)
  · obtain ⟨listed, hlisted, hmem⟩ := h _ hold hrestricted
    exact ⟨listed, hlisted, List.mem_append_right _ hmem⟩

/-- Registration compares the list of the invitation that is recorded. -/
theorem allowed_of_register {cfg : Account.Config} {input : Account.RegisterInput}
    {pair : Account.TokenPair}
    (h : (Account.register cfg db.svc (registration env db token input)).1 = .ok pair)
    (hunder : registeredUnder env cfg db token = some invite) :
    Account.isAuthMethodAllowed invite.allowedAuth password = true := by
  unfold registeredUnder at hunder
  split at hunder
  · cases hunder
  rename_i hclosed
  obtain ⟨row, hrow, hallowed⟩ :=
    Account.exists_invite_of_register h (Bool.eq_false_iff.mpr hclosed)
  simp only [registration, hunder, Option.map_some, Option.some.injEq] at hrow
  subst hrow
  exact hallowed

namespace SsoLogin

variable {login : SsoLogin} {db : Db} {invite : Invite}

theorem getPendingInviteByEmail_platform :
    (db.platform login.providers login.mappings).dir.getPendingInviteByEmail
      (lowerText login.cfg.casing login.result.email) login.draws.now =
        (login.pendingInvite db).map Invite.row :=
  List.find?_map

theorem select_of_chosen {domain : String} {chosen : Sso.Chosen}
    (h : login.chosen db = some (domain, chosen)) :
    ∃ p', Sso.selectAccount login.cfg login.faults (db.platform login.providers login.mappings)
      login.result domain login.draws = (.ok chosen, p') := by
  unfold SsoLogin.chosen at h
  dsimp only at h
  split at h
  · cases h
  rename_i domain' _
  obtain ⟨_, hok, heq⟩ := Option.map_eq_some_iff.mp h
  obtain ⟨rfl, rfl⟩ := Prod.mk.inj heq
  generalize Sso.selectAccount login.cfg login.faults _ login.result domain' login.draws = r
    at hok
  obtain ⟨_, p'⟩ := r
  obtain rfl := Outcome.toOption_eq_some.mp hok
  exact ⟨p', rfl⟩

/-- A first login compares the list of the invitation that is recorded. -/
theorem allowed_of_createdUnder (h : login.createdUnder db = some invite) :
    Account.isAuthMethodAllowed invite.allowedAuth (sso login.result.provider) = true := by
  unfold createdUnder at h
  split at h
  · cases h
  rename_i domain chosen hchosen
  split at h
  · rename_i hcond
    simp only [Bool.and_eq_true, List.isEmpty_iff, Bool.not_eq_true'] at hcond
    obtain ⟨⟨hnew, hclosed⟩, hrules⟩ := hcond
    obtain ⟨p', hselect⟩ := select_of_chosen hchosen
    obtain ⟨row, hrow, hallowed⟩ := Sso.exists_invite_of_checkPendingInvite
      (Sso.checkPendingInvite_of_selectAccount hselect hnew hrules) hclosed
    rw [getPendingInviteByEmail_platform, h, Option.map_some, Option.some.injEq] at hrow
    subst hrow
    exact hallowed
  · cases h

end SsoLogin

theorem enrolled_step (env : Org.Env) (w : World) (e : Event) (h : w.Enrolled) :
    (w.step env e).Enrolled := by
  cases e with
  | register cfg token input =>
    refine h.signIn fun id hid invite hinvite => ?_
    obtain ⟨pair, hpair, _⟩ := Option.map_eq_some_iff.mp hid
    exact allowed_of_register (Outcome.toOption_eq_some.mp hpair) hinvite
  | login cfg input => exact h.signIn nofun
  | ssoLogin login =>
    exact h.signIn fun _ _ invite hinvite => SsoLogin.allowed_of_createdUnder hinvite
  | _ => exact h

/-! ## Memberships of the invited -/

theorem lawful_iff_listed {now : Nat} {userEmail : String} :
    Lawful env w (.acceptInvite now token userID userEmail) ↔
      ∀ invite, w.db.getInviteByToken (env.hashToken token) = some invite → invite.Restricted →
        w.db.Invites env now invite userID userEmail → w.Listed userID invite := by
  constructor
  · intro h invite hfind hrestricted hopen
    obtain ⟨result, db', haccept, hacquires⟩ := (acceptInvite_acquires_iff hfind).mpr hopen
    exact h invite result db' hfind hrestricted haccept hacquires
  · intro h invite result db' hfind hrestricted haccept hacquires
    exact h invite hfind hrestricted
      ((acceptInvite_acquires_iff hfind).mp ⟨result, db', haccept, hacquires⟩)

theorem World.Enrolled.lawful_iff_proper (h : w.Enrolled) (e : Event) :
    Lawful env w e ↔ Proper env w e := by
  cases e with
  | acceptInvite now token userID userEmail =>
    rw [lawful_iff_listed]
    constructor
    · intro hlisted invite hfind hrestricted hopen
      exact .inr (hlisted invite hfind hrestricted hopen)
    · intro hproper invite hfind hrestricted hopen
      rcases hproper invite hfind hrestricted hopen with henrolled | hlisted
      · exact h _ henrolled hrestricted
      · exact hlisted
  | _ => exact Iff.rfl

/-- In a run nobody acquires a membership through a restricted invitation without having signed in
by a method of its list, exactly if each such invitation that is open to a user is accepted only if
their account was created under it, or they have signed in by one of its methods. -/
theorem memberships_by_listed_methods_iff (env : Org.Env) (db : Db)
    (signIns : List (UUID × Method)) (events : List Event) :
    (∀ done e rest, events = done ++ e :: rest →
        Lawful env (Trace.run (World.step env) ⟨db, signIns, []⟩ done) e) ↔
      Trace.Guarded (World.step env) (Proper env) ⟨db, signIns, []⟩ events := by
  rw [Trace.Guarded.iff_forall]
  refine forall_congr' fun done => forall_congr' fun e => forall_congr' fun rest => ?_
  have henrolled : (Trace.run (World.step env) ⟨db, signIns, []⟩ done).Enrolled :=
    Trace.run_induct (enrolled_step env) (fun _ hentry => absurd hentry List.not_mem_nil) done
  exact imp_congr_right fun _ => henrolled.lawful_iff_proper e

/-- User 1 invites an address to organization 1 and team 5, to sign in with Google. -/
def invitedToGoogle (db : Db) : Db :=
  (inviteMember Org.sampleEnv 0 db 1
    ⟨"e@example.com", "member", ["sso:google"], none, none, [⟨5, "member"⟩]⟩ 1 9 "t1").2

/-- The invited address registers with a password, as user 6, while registration is open. -/
def signUp : Event :=
  .register Account.sampleConfig "t1"
    ⟨"e@example.com", "Eve", "correct horse", none, 10, 6, 10, ⟨10, 10, 6, "h6", 6⟩⟩

def acceptAsSix : Event := .acceptInvite 50 "t1" 6 "e@example.com"

/-- The world before user 6 accepts, who registered after they were invited. -/
def signedUpAfter : World :=
  Trace.run (World.step Org.sampleEnv) ⟨invitedToGoogle sampleDb, [], []⟩ [signUp]

/-- The world before user 6 accepts, who registered before they were invited. -/
def signedUpBefore : World :=
  let w := World.step Org.sampleEnv ⟨sampleDb, [], []⟩ signUp
  w.step Org.sampleEnv (.other (invitedToGoogle w.db))

def googleInvite (w : World) : Option Invite :=
  w.db.getInviteByToken (Org.sampleEnv.hashToken "t1")

/-- The invitation is restricted and open to user 6, who has signed in by other methods only. -/
def opensToUnlisted (w : World) : Bool :=
  match googleInvite w with
  | none => false
  | some invite =>
    decide invite.Restricted && decide (w.db.Invites Org.sampleEnv 50 invite 6 "e@example.com") &&
      !decide (w.Listed 6 invite)

theorem not_lawful_of_opensToUnlisted (h : opensToUnlisted w = true) :
    ¬ Lawful Org.sampleEnv w acceptAsSix := by
  intro hlawful
  unfold opensToUnlisted at h
  split at h
  · cases h
  rename_i invite hfind
  simp only [Bool.and_eq_true, decide_eq_true_eq, Bool.not_eq_true', decide_eq_false_iff_not] at h
  obtain ⟨⟨hrestricted, hopen⟩, hunlisted⟩ := h
  exact hunlisted (lawful_iff_listed.mp hlawful invite hfind hrestricted hopen)

/-- A user who only ever used a password becomes a member through an invitation that allows Google
only, whether they registered after or before they were invited. -/
theorem password_user_admitted :
    (signedUpAfter.signIns = [(6, "password")] ∧
        ¬ Lawful Org.sampleEnv signedUpAfter acceptAsSix) ∧
      signedUpBefore.signIns = [(6, "password")] ∧
        ¬ Lawful Org.sampleEnv signedUpBefore acceptAsSix := by
  refine ⟨⟨by decide +kernel, ?_⟩, by decide +kernel, ?_⟩
  · exact not_lawful_of_opensToUnlisted (by decide +kernel)
  · exact not_lawful_of_opensToUnlisted (by decide +kernel)

end BurnerByte.Teams
