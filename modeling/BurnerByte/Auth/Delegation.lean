import BurnerByte.Auth.Confinement

/-!
# What a key passes on, and the team it is for

A key may hold the scope to manage keys. The service then checks the scopes of a new or changed
key for their names only, and does not compare them with those of the key at work. And a key is a
row of one team, but the context of a request does not name it: the checks ask for the roles of
the key's creator, in whatever team the route names.
-/

namespace BurnerByte.Auth

open Go Sql Handler Rbac Outcome

/-! ## Scopes in a table of keys -/

/-- Each key had the same scopes before. -/
def KeepsScopes (keys keys' : Table APIKey UUID APIKey.id) : Prop :=
  ∀ key ∈ keys', ∃ old ∈ keys, old.id = key.id ∧ old.scopes = key.scopes

theorem SameKeys.keepsScopes {keys keys' : Table APIKey UUID APIKey.id}
    (h : SameKeys keys keys') : KeepsScopes keys keys' := by
  intro key hkey
  obtain ⟨old, hold, hid, _, hscopes⟩ := h key hkey
  exact ⟨old, hold, hid, hscopes⟩

/-- One key is there with the scopes, and the others had the same scopes before. -/
structure SetsScopes (id : UUID) (scopes : List String) (keys keys' : Table APIKey UUID APIKey.id) :
    Prop where
  exists_key : ∃ key ∈ keys', key.id = id
  scopes : ∀ key ∈ keys', key.id = id → key.scopes = scopes
  others : ∀ key ∈ keys', key.id ≠ id → ∃ old ∈ keys, old.id = key.id ∧ old.scopes = key.scopes

variable {key : APIKey} {scopes : List String} {env : Env} {s : State} {uc : UserContext}

theorem SetsScopes.insert {keys keys' : Table APIKey UUID APIKey.id}
    (h : keys.insert key = some keys') : SetsScopes key.id key.scopes keys keys' := by
  obtain ⟨hfree, hmem⟩ := Table.insert_eq_some h
  refine ⟨⟨key, (hmem key).mpr (.inl rfl), rfl⟩, ?_, ?_⟩
  · intro row hrow hid
    rcases (hmem row).mp hrow with rfl | hold
    · rfl
    · exact absurd hid (hfree row hold)
  · intro row hrow hid
    rcases (hmem row).mp hrow with rfl | hold
    · exact absurd rfl hid
    · exact ⟨row, hold, rfl, rfl⟩

theorem SetsScopes.updateWhere {keys : Table APIKey UUID APIKey.id} {f : APIKey → APIKey}
    (hid : ∀ key, (f key).id = key.id) (hkey : key ∈ keys) :
    SetsScopes key.id (f key).scopes keys
      (keys.updateWhere (fun row => row.id = key.id) f hid) := by
  have hkeys (row : APIKey) : row ∈ keys.updateWhere (fun row => row.id = key.id) f hid ↔
      ∃ old ∈ keys, (if old.id = key.id then f old else old) = row := by
    simp
  refine ⟨⟨f key, (hkeys _).mpr ⟨key, hkey, if_pos rfl⟩, hid key⟩, ?_, ?_⟩
  · intro row hrow hrowID
    obtain ⟨old, hold, rfl⟩ := (hkeys row).mp hrow
    by_cases holdID : old.id = key.id
    · obtain rfl := Table.eq_of_key_eq hold hkey holdID
      rw [if_pos rfl]
    · rw [if_neg holdID] at hrowID
      exact absurd hrowID holdID
  · intro row hrow hrowID
    obtain ⟨old, hold, rfl⟩ := (hkeys row).mp hrow
    by_cases holdID : old.id = key.id
    · rw [if_pos holdID] at hrowID
      exact absurd ((hid old).trans holdID) hrowID
    · rw [if_neg holdID]
      exact ⟨old, hold, rfl, rfl⟩

/-! ## Keys that requests have written -/

/-- A new key is asked for with some of the scopes. A key is updated with some of the scopes, or
has no others and keeps them. -/
def Route.AsksWithin (scopes : List String) (keys : Table APIKey UUID APIKey.id) : Route → Prop
  | .createKey _ _ input _ _ => ∀ i ∈ input, i.scopes ⊆ scopes
  | .updateKey _ _ keyID input => ∀ i ∈ input, ∀ key ∈ keys, keyID = some key.id →
    (if i.scopes = [] then key.scopes else i.scopes) ⊆ scopes
  | _ => True

instance (scopes : List String) (keys : Table APIKey UUID APIKey.id) :
    (route : Route) → Decidable (route.AsksWithin scopes keys)
  | .createKey _ _ input _ _ => inferInstanceAs (Decidable (∀ i ∈ input, i.scopes ⊆ scopes))
  | .updateKey _ _ keyID input =>
    inferInstanceAs (Decidable (∀ i ∈ input, ∀ key ∈ keys, keyID = some key.id →
      (if i.scopes = [] then key.scopes else i.scopes) ⊆ scopes))
  | .wsTicket _ | .rotateKey _ _ _ _ | .revokeKey _ _ _ | .bulkRevoke _ _ _ | .other _ _ =>
    .isTrue trivial

variable {route : Route} {now : Nat} {l l' : Ledger}

theorem asksWithin_of_target {keys : Table APIKey UUID APIKey.id} (h : route.target = none) :
    route.AsksWithin scopes keys := by
  cases route with
  | createKey orgID teamID body id digits => cases h
  | updateKey orgID teamID keyID body =>
    intro _ _ key _ hid
    cases h.symm.trans hid
  | wsTicket | rotateKey | revokeKey | bulkRevoke | other => trivial

/-- A route that succeeds sets the scopes that it asks for, on its key only. -/
theorem handleRoute_scopes {s' : State} {reply : Reply}
    (h : handleRoute env now s uc route = .ok (reply, s')) :
    (∃ id written, route.target = some id ∧ SetsScopes id written s.keys s'.keys ∧
        ∀ scopes, route.AsksWithin scopes s.keys ↔ written ⊆ scopes) ∨
      route.target = none ∧ KeepsScopes s.keys s'.keys ∧
        ∀ scopes, route.AsksWithin scopes s.keys := by
  have hwrote := handleRoute_wrote h
  generalize s'.keys = keys' at hwrote ⊢
  cases hwrote with
  | created hscopes hinsert =>
    refine .inl ⟨_, _, rfl, .insert hinsert, fun scopes => ?_⟩
    simp [Route.AsksWithin, hscopes]
  | updated hkey =>
    refine .inl ⟨_, _, rfl, .updateWhere _ hkey, fun scopes => ?_⟩
    constructor
    · exact fun hwithin => hwithin _ rfl _ hkey rfl
    · rintro hwithin _ ⟨⟩ other hother hsame
      obtain rfl := Table.eq_of_key_eq hother hkey (Option.some.inj hsame).symm
      exact hwithin
  | rotated =>
    refine .inr ⟨rfl, fun key hkey => ?_, fun _ => trivial⟩
    rw [Table.mem_updateWhere] at hkey
    obtain ⟨old, hold, rfl⟩ := hkey
    refine ⟨old, hold, ?_⟩
    split <;> exact ⟨rfl, rfl⟩
  | same htarget hsame =>
    exact .inr ⟨htarget, hsame.keepsScopes, fun _ => asksWithin_of_target htarget⟩

/-- The server, and the ids of the keys that the requests so far have created or updated. -/
structure Ledger where
  server : State
  written : List UUID

def Ledger.step (env : Env) (l : Ledger) (r : Request) : Ledger where
  server := (serve env l.server r).2
  written :=
    match (serve env l.server r).1 with
    | .ok _ => r.route.target.toList ++ l.written
    | .error _ => l.written

/-- The keys that the requests have written have no scope but the given ones. -/
def Ledger.Within (scopes : List String) (l : Ledger) : Prop :=
  ∀ key ∈ l.server.keys, key.id ∈ l.written → key.scopes ⊆ scopes

/-- If the request is carried out, it asks for none but the scopes. -/
def AsksWithin (env : Env) (scopes : List String) (l : Ledger) (r : Request) : Prop :=
  (serve env l.server r).1.toOption.isSome = true → r.route.AsksWithin scopes l.server.keys

instance (env : Env) (scopes : List String) (l : Ledger) (r : Request) :
    Decidable (AsksWithin env scopes l r) :=
  inferInstanceAs (Decidable (_ → _))

theorem within_of_keepsScopes (h : l.Within scopes)
    (hkeys : KeepsScopes l.server.keys l'.server.keys) (hwritten : l'.written = l.written) :
    l'.Within scopes := by
  intro key hkey hid
  obtain ⟨old, hold, hsame, hscopes⟩ := hkeys key hkey
  rw [hwritten, ← hsame] at hid
  rw [← hscopes]
  exact h old hold hid

theorem within_iff_of_setsScopes {written : List String} {id : UUID} (h : l.Within scopes)
    (hkeys : SetsScopes id written l.server.keys l'.server.keys)
    (hwritten : l'.written = id :: l.written) : l'.Within scopes ↔ written ⊆ scopes := by
  constructor
  · intro hwithin
    obtain ⟨key, hkey, hid⟩ := hkeys.exists_key
    rw [← hkeys.scopes key hkey hid]
    refine hwithin key hkey ?_
    rw [hwritten, hid]
    exact List.mem_cons_self
  · intro hsub key hkey hmem
    by_cases hid : key.id = id
    · rwa [hkeys.scopes key hkey hid]
    obtain ⟨old, hold, hsame, hscopes⟩ := hkeys.others key hkey hid
    rw [hwritten] at hmem
    rw [← hscopes]
    exact h old hold (hsame ▸ List.mem_of_ne_of_mem hid hmem)

theorem step_within_iff (l : Ledger) (r : Request) (h : l.Within scopes) :
    AsksWithin env scopes l r ↔ (l.step env r).Within scopes := by
  cases hreply : (serve env l.server r).1 with
  | error err =>
    refine iff_of_true ?_ ?_
    · intro hok
      rw [hreply] at hok
      cases hok
    · refine within_of_keepsScopes h ?_ ?_
      · rw [Ledger.step, serve_error_keys hreply]
        exact (SameKeys.refl l.server.keys).keepsScopes
      · simp only [Ledger.step, hreply]
  | ok reply =>
    have hasks : AsksWithin env scopes l r ↔ r.route.AsksWithin scopes l.server.keys := by
      simp [AsksWithin, hreply, Except.toOption]
    obtain ⟨uc, s', hmiddleware, _, hhandle⟩ := serve_ok hreply
    have hkeys : s'.keys = l.server.keys := by
      rw [← middleware_keys env r.now l.server r.credentials, hmiddleware]
    rw [hasks, ← hkeys]
    rcases handleRoute_scopes hhandle with ⟨id, written, htarget, hsets, hiff⟩ |
      ⟨htarget, hkeeps, hasks⟩
    · rw [hiff scopes]
      rw [hkeys] at hsets
      refine (within_iff_of_setsScopes h hsets ?_).symm
      simp [Ledger.step, hreply, htarget]
    · refine iff_of_true (hasks scopes) ?_
      rw [hkeys] at hkeeps
      refine within_of_keepsScopes h hkeeps ?_
      simp [Ledger.step, hreply, htarget]

/-- Along a run of requests, the keys that they create and update have no scope but those of a
given key, exactly if the requests that are carried out ask for no others. -/
theorem delegates_within_iff (env : Env) (s : State) (k : APIKey) (rs : List Request) :
    (∀ done, done <+: rs → (Trace.run (Ledger.step env) ⟨s, []⟩ done).Within k.scopes) ↔
      Trace.Guarded (Ledger.step env) (AsksWithin env k.scopes) ⟨s, []⟩ rs :=
  (Trace.Guarded.iff_always (by intro key _ hmem; cases hmem) step_within_iff).symm

/-- The request presents the key, and nothing else. -/
def Request.Presents (env : Env) (raw : Bytes) (r : Request) : Prop :=
  r.credentials.ticket = [] ∧ r.credentials.bearer env = some raw
  deriving Decidable

/-- Set the scopes of a key of team 1. -/
def setScopes (keyID : UUID) (scopes : List String) : Request :=
  withKey 48 (.updateKey 1 1 (some keyID) (some ⟨some "deploy", none, scopes, none, none, none⟩))

/-- The key creates a second key with its own scopes, and renames it. -/
theorem second_key_within :
    (Trace.run (Ledger.step sampleEnv) ⟨sampleState, []⟩
        [createSecond ["team.apikeys.manage"], setScopes 6 []]).written = [6, 6] ∧
      (Trace.run (Ledger.step sampleEnv) ⟨sampleState, []⟩
        [createSecond ["team.apikeys.manage"], setScopes 6 []]).Within sampleKey.scopes :=
  ⟨by decide +kernel, (delegates_within_iff sampleEnv sampleState sampleKey
    [createSecond ["team.apikeys.manage"], setScopes 6 []]).mpr (by decide +kernel) _
    List.prefix_rfl⟩

/-- A key that may only manage keys creates one that reads e-mails, or lets itself read e-mails. -/
theorem key_passes_on_more :
    (∀ r ∈ [createSecond ["team.emails.view"], setScopes 5 ["team.emails.view"]],
        r.Presents sampleEnv (rawKey (List.replicate 64 48))) ∧
      KeyOf sampleEnv sampleState (rawKey (List.replicate 64 48)) sampleKey ∧
      ∀ r ∈ [createSecond ["team.emails.view"], setScopes 5 ["team.emails.view"]],
        ¬ (Trace.run (Ledger.step sampleEnv) ⟨sampleState, []⟩ [r]).Within sampleKey.scopes := by
  refine ⟨by decide +kernel, sampleKey_keyOf, ?_⟩
  unfold Ledger.Within
  decide +kernel

/-! ## The team of a key -/

/-- The user in whose name a request with the key is made. -/
def APIKey.creator (key : APIKey) : UUID := key.createdBy.getD uuidNil

theorem keyContext_of_getByHash {token : Bytes} {remoteIP : Bytes}
    (hkey : s.getByHash (env.hash token) = some key)
    (h : keyContext env now s token remoteIP = .ok uc) :
    uc.userID = key.creator ∧ uc.isSystemAdmin = false ∧ uc.apiKeyScopes = some key.scopes := by
  rw [keyContext, hkey] at h
  simp only [guard_eq_ok] at h
  obtain ⟨_, _, _, _, h⟩ := h
  split at h
  · cases h
  rename_i user hfind
  cases h
  exact ⟨(Table.find?_eq_some_iff.mp hfind).2, rfl, rfl⟩

theorem middleware_of_presents {r : Request} {raw : Bytes} (hr : r.Presents env raw)
    (hraw : isKeyToken raw = true) (h : (middleware env r.now s r.credentials).1 = .ok uc) :
    keyContext env r.now s raw r.credentials.remoteIP = .ok uc := by
  obtain ⟨hticket, hbearer⟩ := hr
  rw [middleware, if_neg (not_not_intro hticket)] at h
  obtain ⟨_, h⟩ := guard_eq_ok.mp h
  rw [hbearer] at h
  simpa only [hraw, if_true] using h

/-- A request with a key passes a check if the permission is one of its scopes and the creator
passes it. -/
theorem checkTeamPermission_key_iff {c : Checker} (hadmin : uc.isSystemAdmin = false)
    (hscopes : uc.apiKeyScopes = some key.scopes) {orgID teamID : UUID} {permissionKey : String} :
    checkTeamPermission c (some uc) orgID teamID permissionKey = .ok () ↔
      permissionKey ∈ key.scopes ∧ c.teamOrgID teamID = some orgID ∧
        (c.orgFallback uc orgID permissionKey = true ∨
          c.teamMembershipBranch uc teamID permissionKey = .ok ()) := by
  constructor
  · intro h
    obtain ⟨_, hdeny, hrbac⟩ := bind_eq_ok.mp h
    refine ⟨mem_of_denyByScope_ok hscopes key.scopes_ne hdeny, ?_⟩
    have hok := Checker.requireTeamPermission_ok_iff.mp (rbacError_ok hrbac)
    simpa [hadmin] using hok
  · rintro ⟨hmem, hgranted⟩
    have hdeny : denyByScope (some uc) permissionKey = .ok () := by
      simp [denyByScope, hasScope, hscopes, hmem]
    rw [checkTeamPermission, hdeny, ok_bind,
      Checker.requireTeamPermission_ok_iff.mpr (.inr hgranted)]
    rfl

/-- In no other team does the creator hold a scope of the key, be it by an org role or by a role
in the team, or all of them by the rank of an admin. -/
def APIKey.CreatorConfined (c : Checker) (key : APIKey) : Prop :=
  ∀ orgID teamID, teamID ≠ key.teamID → c.teamOrgID teamID = some orgID →
    (∀ m, c.orgMembership key.creator orgID = some m → c.orgRoleRank m < 2 ∧
        ∀ scope ∈ key.scopes, c.cache.hasPermission m.role scope = false) ∧
      ∀ tm, c.teamMembership key.creator teamID = some tm →
        ∀ scope ∈ key.scopes, c.cache.hasPermission tm.role scope = false

/-- The permission checks let a request with a key into no team but the key's own, exactly if the
key's creator holds none of its scopes in another team. -/
theorem key_in_own_team_iff (env : Env) (s : State) (r : Request) (raw : Bytes) (key : APIKey)
    (uc : UserContext) (c : Checker) (hr : r.Presents env raw) (hraw : isKeyToken raw = true)
    (hkey : s.getByHash (env.hash raw) = some key)
    (huc : (middleware env r.now s r.credentials).1 = .ok uc) :
    (∀ orgID teamID permissionKey,
        checkTeamPermission c (some uc) orgID teamID permissionKey = .ok () →
          teamID = key.teamID) ↔
      key.CreatorConfined c := by
  obtain ⟨huser, hadmin, hscopes⟩ :=
    keyContext_of_getByHash hkey (middleware_of_presents hr hraw huc)
  simp only [checkTeamPermission_key_iff hadmin hscopes, Checker.orgFallback_eq_true_iff,
    Checker.teamMembershipBranch_ok_iff, huser]
  constructor
  · intro h orgID teamID hne horg
    constructor
    · intro m hm
      -- A key has a scope, and the rank of an admin is enough for any.
      obtain ⟨first, hfirst⟩ := List.exists_mem_of_ne_nil key.scopes key.scopes_ne
      constructor
      · by_contra hrank
        exact hne (h orgID teamID first ⟨hfirst, horg, .inl ⟨m, hm, .inl (by omega)⟩⟩)
      · intro scope hscope
        by_contra hheld
        exact hne (h orgID teamID scope ⟨hscope, horg, .inl ⟨m, hm, .inr (by simpa using hheld)⟩⟩)
    · intro tm htm scope hscope
      by_contra hheld
      exact hne (h orgID teamID scope ⟨hscope, horg, .inr ⟨tm, htm, by simpa using hheld⟩⟩)
  · rintro h orgID teamID scope ⟨hscope, horg, hgranted⟩
    by_contra hne
    obtain ⟨horgRole, hteamRole⟩ := h orgID teamID hne horg
    rcases hgranted with ⟨m, hm, hrank | hheld⟩ | ⟨tm, htm, hheld⟩
    · have := (horgRole m hm).1
      omega
    · rw [(horgRole m hm).2 scope hscope] at hheld
      cases hheld
    · rw [hteamRole tm htm scope hscope] at hheld
      cases hheld

/-- User 1 has the role in org 1, and leads some of its teams 1 and 2. -/
def twoTeams (orgRole : String) (h : orgRole ∈ orgRoles) (leads : List UUID) : Checker where
  orgMembership
    | 1, 1 => some ⟨1, 1, orgRole, h⟩
    | _, _ => none
  teamMembership userID teamID :=
    if userID = 1 ∧ teamID ∈ leads then some ⟨1, teamID, "lead", lead_mem_teamRoles⟩ else none
  teamOrgID
    | 1 => some 1
    | 2 => some 1
    | _ => none
  cache := shippedRoles.cache

/-- A request with the key of team 1, on a key route of team 2. -/
def manageKeys : Request := withKey 48 (.revokeKey 1 2 none)

/-- The context of a request with the key of team 1. -/
def sampleContext : UserContext := ⟨1, "root@example.com", "Root", false, some sampleKey.scopes⟩

theorem middleware_manageKeys :
    (middleware sampleEnv manageKeys.now sampleState manageKeys.credentials).1 =
      .ok sampleContext := by
  decide +kernel

theorem sampleKey_confined :
    sampleKey.CreatorConfined (twoTeams "member" (by decide) [1]) := by
  intro orgID teamID hne horg
  have hsecond : teamID = 2 ∧ orgID = 1 := by
    unfold twoTeams at horg
    dsimp only at horg
    split at horg
    · exact absurd rfl hne
    · exact ⟨rfl, (Option.some.inj horg).symm⟩
    · cases horg
  obtain ⟨rfl, rfl⟩ := hsecond
  constructor
  · rintro m ⟨⟩
    decide +kernel
  · intro tm htm
    cases htm

/-- A lead of team 1 who has no further rights in the org has a key of the team. With it they get
into team 1, and into no other team. -/
theorem lead_of_one_team :
    checkTeamPermission (twoTeams "member" (by decide) [1]) (some sampleContext) 1 1
        "team.apikeys.manage" = .ok () ∧
      ∀ orgID permissionKey, checkTeamPermission (twoTeams "member" (by decide) [1])
        (some sampleContext) orgID 2 permissionKey ≠ .ok () := by
  refine ⟨by decide +kernel, fun orgID permissionKey hok => ?_⟩
  have hteam := (key_in_own_team_iff sampleEnv sampleState manageKeys
    (rawKey (List.replicate 64 48)) sampleKey sampleContext (twoTeams "member" (by decide) [1])
    (by decide +kernel)
    (by decide +kernel) (by decide +kernel) middleware_manageKeys).mpr sampleKey_confined
  exact absurd (hteam orgID 2 permissionKey hok) (by decide)

/-- If the lead leads team 2 as well, or is an admin of the org, the key of team 1 manages the
keys of team 2. -/
theorem key_in_other_team :
    sampleState.getByHash (sampleEnv.hash (rawKey (List.replicate 64 48))) = some sampleKey ∧
      manageKeys.Presents sampleEnv (rawKey (List.replicate 64 48)) ∧
      (middleware sampleEnv manageKeys.now sampleState manageKeys.credentials).1 =
        .ok sampleContext ∧
      sampleKey.teamID = 1 ∧
      checkTeamPermission (twoTeams "member" (by decide) [1, 2]) (some sampleContext) 1 2
        "team.apikeys.manage" = .ok () ∧
      checkTeamPermission (twoTeams "admin" admin_mem_orgRoles [1]) (some sampleContext) 1 2
        "team.apikeys.manage" = .ok () :=
  ⟨by decide +kernel, by decide +kernel, middleware_manageKeys, rfl, by decide +kernel,
    by decide +kernel⟩

end BurnerByte.Auth
