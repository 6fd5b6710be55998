import BurnerByte.ApiKeys.Effects
import BurnerByte.Auth.Confinement

/-!
# The scopes of API keys

The guards of the handlers take a request for one with an API key by its scopes, and let it pass
as a signed-in user if it has none. So they rest on what the service stores: a key has a scope,
and every scope is a team permission. `Generate` and `Update` check the scopes, and an `Update`
without scopes leaves those of the row. The check and the write of an `Update` are two statements,
but what was checked is in the call and does not change in between.
-/

namespace BurnerByte.ApiKeys

open Go Handler Rbac Outcome Interleaving

variable {env : Auth.Env} {ι : Type*}

/-! ## Calls -/

/-- The scopes that a call asks for, with the roles in the cache when it checks them. -/
def Call.asks : Call → Option (RoleTable × List String)
  | .generate roles _ _ _ input _ _ => some (roles, input.scopes)
  | .update roles _ _ input _ => some (roles, input.scopes)
  | _ => none

/-- The scopes have been checked if they are about to be written. -/
def Call.Ready : Call → Prop
  | .update roles _ _ input .writing => ∀ scope ∈ input.scopes, scope ∈ roles.teamPermissionKeys
  | _ => True

/-- A call asked for the scope, and found it to be a team permission. -/
def Checked (calls : ι → Call) (scope : String) : Prop :=
  ∃ i roles scopes, (calls i).asks = some (roles, scopes) ∧ scope ∈ scopes ∧
    scope ∈ roles.teamPermissionKeys

variable {calls : ι → Call} {call : Call}

theorem Checked.isTeamKey {scope : String} (h : Checked calls scope) :
    RoleTable.isTeamKey scope = true := by
  obtain ⟨_, _, _, _, _, hmem⟩ := h
  obtain ⟨_, _, hkey⟩ := List.mem_flatMap.mp (List.mem_dedup.mp hmem)
  exact (List.mem_filter.mp hkey).2

theorem ready_of_isFresh (h : call.isFresh = true) : call.Ready := by
  cases call with
  | update roles teamID keyID input stage =>
    obtain rfl : stage = .reading := by simpa [Call.isFresh] using h
    trivial
  | _ => trivial

/-- A call asks for the same scopes until it returns. -/
theorem Continues.asks {db : Db} {next : Call} (h : Continues env db call next)
    {ask : RoleTable × List String} (hnext : next.asks = some ask) : call.asks = some ask := by
  cases h with
  | updateWriting _ | updateFetching _ _ _ _ => exact hnext
  | _ => cases hnext

theorem Continues.ready {db : Db} {next : Call} (h : Continues env db call next) : next.Ready := by
  cases h with
  | updateWriting hcheck =>
    obtain ⟨key, _, hcheck⟩ := bind_eq_ok.mp hcheck
    obtain ⟨_, hcheck⟩ := guard_eq_ok.mp hcheck
    obtain ⟨_, hscopes, _⟩ := bind_eq_ok.mp hcheck
    exact checkScopes_ok hscopes
  | _ => trivial

/-! ## Rows -/

/-- Every scope of a row has been checked, and there is one. -/
def Key.Valid (calls : ι → Call) (key : Key) : Prop :=
  key.scopes ≠ [] ∧ ∀ scope ∈ key.scopes, Checked calls scope

/-- The calls go on as they began, and have filled the table with valid rows. -/
structure Sound (calls : ι → Call) (sys : System ι Call Db) : Prop where
  asks : ∀ i ask, (sys.procs i).asks = some ask → (calls i).asks = some ask
  ready : ∀ i, (sys.procs i).Ready
  rows : ∀ key ∈ sys.shared.keys, key.Valid calls

/-- A statement writes valid rows. -/
theorem Writes.valid {sys : System ι Call Db} (h : Sound calls sys) {i : ι} {key : Key}
    (hkey : Writes env (sys.procs i) sys.shared key) : key.Valid calls := by
  have hready := h.ready i
  have hasks := h.asks i
  cases hkey with
  | kept hkey => exact h.rows key hkey
  | created name hcall hnew =>
    obtain ⟨_, _, hscopes, hne, hvalid⟩ := newKey_ok hnew
    rw [hcall] at hasks
    rw [Key.Valid, hscopes]
    exact ⟨hne, fun scope hscope => ⟨i, _, _, hasks _ rfl, hscope, hvalid scope hscope⟩⟩
  | @updated roles teamID input old name expiresAt hold hcall =>
    rw [hcall] at hasks hready
    rw [Key.Valid, columns]
    split
    · exact h.rows old hold
    rename_i hne
    exact ⟨hne, fun scope hscope => ⟨i, _, _, hasks _ rfl, hscope, hready scope hscope⟩⟩
  | @rotated _ _ old hold _ | @revoked old _ _ hold | @cleared old _ _ hold => exact h.rows old hold

variable [DecidableEq ι]

theorem Sound.step (sys : System ι Call Db) (i : ι) (h : Sound calls sys) :
    Sound calls (sys.step (stmt env) i) := by
  have hnext := continues_stmt env (sys.procs i) sys.shared
  constructor
  · refine System.forall_step (P := fun j (call : Call) => ∀ ask, call.asks = some ask →
      (calls j).asks = some ask) h.asks ?_
    intro ask hask
    exact h.asks i ask (hnext.asks hask)
  · exact System.forall_step (P := fun _ => Call.Ready) h.ready hnext.ready
  · intro key hkey
    exact (mem_stmt hkey).valid h

/-! ## The middleware -/

/-- The key as the model of the middleware has it. -/
def Key.toAPIKey (key : Key) (hne : key.scopes ≠ []) : Auth.APIKey where
  id := key.id
  teamID := key.teamID
  createdBy := key.createdBy
  keyHash := key.keyHash
  scopes := key.scopes
  scopes_ne := hne
  isActive := key.isActive
  allowedIPs := key.allowedIPs
  expiresAt := key.expiresAt
  revokedAt := key.revokedAt

/-- The state that the middleware reads, if every key has a scope. -/
def Db.toState (db : Db) (hne : ∀ key ∈ db.keys, key.scopes ≠ []) (tickets : List Auth.Ticket) :
    Auth.State where
  world := db.world
  keys := ⟨db.keys.rows.pmap Key.toAPIKey hne, by
    rw [List.map_pmap]
    exact (List.pmap_eq_map hne).symm ▸ db.keys.unique⟩
  tickets

theorem find?_pmap_toAPIKey (keyHash : String) (rows : List Key)
    (hne : ∀ key ∈ rows, key.scopes ≠ []) :
    (rows.pmap Key.toAPIKey hne).find? (fun key => key.keyHash = keyHash) =
      (rows.find? fun key => key.keyHash = keyHash).pmap Key.toAPIKey
        fun key hkey => hne key (List.mem_of_find?_eq_some hkey) := by
  induction rows with
  | nil => rfl
  | cons key rows ih =>
    by_cases hkey : key.keyHash = keyHash
    · simp [hkey, Key.toAPIKey]
    have hno : decide (key.keyHash = keyHash) = false := decide_eq_false hkey
    simp only [List.find?_cons, List.pmap_cons, Key.toAPIKey, hno] at ih ⊢
    exact ih fun key hkey => hne key (List.mem_cons_of_mem _ hkey)

/-- On valid rows, an API key is taken as the model of the middleware takes it. -/
theorem authenticate_eq_keyContext (env : Auth.Env) (now : Nat) (db : Db)
    (hne : ∀ key ∈ db.keys, key.scopes ≠ []) (tickets : List Auth.Ticket) (token : Bytes)
    (remoteIP : Bytes) :
    authenticate env now db token remoteIP =
      Auth.keyContext env now (db.toState hne tickets) token remoteIP := by
  have hfind : (db.toState hne tickets).getByHash (env.hash token) =
      (db.getByHash (env.hash token)).pmap Key.toAPIKey
        fun key hkey => hne key (List.mem_of_find?_eq_some hkey) :=
    find?_pmap_toAPIKey (env.hash token) db.keys.rows hne
  cases hget : db.getByHash (env.hash token) with
  | none =>
    simp only [hget, Option.pmap_none] at hfind
    rw [authenticate, hget, Auth.keyContext, hfind]
  | some key =>
    simp only [hget, Option.pmap_some] at hfind
    rw [authenticate, hget, Auth.keyContext, hfind]
    rfl

/-! ## Requests with a key -/

/-- What a request with the context of a key with the scopes is allowed. -/
structure Within (scopes : List String) (uc : UserContext) : Prop where
  org : ∀ c orgID permissionKey,
    checkOrgPermission c (some uc) orgID permissionKey = .ok () → permissionKey ∈ scopes
  team : ∀ c orgID teamID permissionKey,
    checkTeamPermission c (some uc) orgID teamID permissionKey = .ok () → permissionKey ∈ scopes
  orgLevel : ∀ c orgID teamID permissionKey, RoleTable.isTeamKey permissionKey = false →
    checkOrgPermission c (some uc) orgID permissionKey ≠ .ok () ∧
      checkTeamPermission c (some uc) orgID teamID permissionKey ≠ .ok ()
  account : rejectAPIKey (some uc) =
    .error (forbidden "this endpoint cannot be accessed with an API key")

theorem within_of_scopes {uc : UserContext} {scopes : List String}
    (huc : uc.apiKeyScopes = some scopes) (hne : scopes ≠ [])
    (hteam : ∀ scope ∈ scopes, RoleTable.isTeamKey scope = true) : Within scopes uc := by
  have horg (c : Checker) (orgID : UUID) (permissionKey : String)
      (h : checkOrgPermission c (some uc) orgID permissionKey = .ok ()) :
      permissionKey ∈ scopes := by
    obtain ⟨_, hdeny, _⟩ := bind_eq_ok.mp h
    exact Auth.mem_of_denyByScope_ok huc hne hdeny
  have hteam' (c : Checker) (orgID teamID : UUID) (permissionKey : String)
      (h : checkTeamPermission c (some uc) orgID teamID permissionKey = .ok ()) :
      permissionKey ∈ scopes := by
    obtain ⟨_, hdeny, _⟩ := bind_eq_ok.mp h
    exact Auth.mem_of_denyByScope_ok huc hne hdeny
  refine ⟨horg, hteam', ?_, ?_⟩
  · intro c orgID teamID permissionKey hno
    have hnot : permissionKey ∉ scopes := by
      intro hmem
      rw [hteam permissionKey hmem] at hno
      cases hno
    exact ⟨fun h => hnot (horg c orgID permissionKey h),
      fun h => hnot (hteam' c orgID teamID permissionKey h)⟩
  · simp only [rejectAPIKey, Auth.hasKeyScopes_of_scopes huc hne, if_true]

/-- In every interleaving of calls on a table that is empty at first, each key has a scope, and
its scopes are team permissions that a call has checked. Whoever is authenticated with a key stays
within its scopes, whatever roles its creator has. -/
theorem within_scopes_in_every_run (env : Auth.Env) (calls : ι → Call)
    (hfresh : ∀ i, (calls i).isFresh = true) (world : Auth.World) (schedule : List ι) :
    (∀ key ∈ (runCalls env calls world schedule).shared.keys, key.scopes ≠ [] ∧
        ∀ scope ∈ key.scopes, RoleTable.isTeamKey scope = true ∧ Checked calls scope) ∧
      ∀ now token remoteIP uc,
        authenticate env now (runCalls env calls world schedule).shared token remoteIP = .ok uc →
        ∃ key ∈ (runCalls env calls world schedule).shared.keys,
          key.keyHash = env.hash token ∧ Within key.scopes uc := by
  have hstart : Sound calls ⟨calls, ⟨world, .empty⟩⟩ :=
    ⟨fun _ _ h => h, fun i => ready_of_isFresh (hfresh i), nofun⟩
  have hsound : Sound calls (runCalls env calls world schedule) :=
    Trace.run_induct Sound.step hstart schedule
  constructor
  · intro key hkey
    obtain ⟨hne, hchecked⟩ := hsound.rows key hkey
    exact ⟨hne, fun scope hscope => ⟨(hchecked scope hscope).isTeamKey, hchecked scope hscope⟩⟩
  · intro now token remoteIP uc huc
    obtain ⟨key, hkey, hhash, _, hscopes⟩ := authenticate_ok huc
    obtain ⟨hne, hchecked⟩ := hsound.rows key hkey
    exact ⟨key, hkey, hhash,
      within_of_scopes hscopes hne fun scope hscope => (hchecked scope hscope).isTeamKey⟩

/-- User 1 creates a key of team 1, and asks for the right to delete the org later. -/
def sampleCalls : Bool → Call
  | false =>
    .generate sampleRoles 0 1 1 ⟨⟨"ci", ["team.emails.view"], none, []⟩, none⟩ 5
      (List.replicate 64 48)
  | true => .update sampleRoles 1 5 ⟨none, none, ["org.delete"], none, none, none⟩ .reading

/-- The key can be used, but only for what it was created for. -/
theorem org_scope_refused :
    ∃ uc, authenticate Auth.sampleEnv 0
        (runCalls Auth.sampleEnv sampleCalls Auth.sampleState.world [false, true, true]).shared
        (rawKey (List.replicate 64 48)) (lit "192.0.2.1") = .ok uc ∧
      Within ["team.emails.view"] uc := by
  have hscopes : ∀ key ∈ (runCalls Auth.sampleEnv sampleCalls Auth.sampleState.world
      [false, true, true]).shared.keys, key.scopes = ["team.emails.view"] := by decide +kernel
  obtain ⟨uc, huc⟩ := exists_ok (x := authenticate Auth.sampleEnv 0
    (runCalls Auth.sampleEnv sampleCalls Auth.sampleState.world [false, true, true]).shared
    (rawKey (List.replicate 64 48)) (lit "192.0.2.1")) (by decide +kernel)
  obtain ⟨key, hkey, _, hwithin⟩ := (within_scopes_in_every_run Auth.sampleEnv sampleCalls
    (by decide) Auth.sampleState.world [false, true, true]).2 _ _ _ _ huc
  rw [hscopes key hkey] at hwithin
  exact ⟨uc, huc, hwithin⟩

end BurnerByte.ApiKeys
