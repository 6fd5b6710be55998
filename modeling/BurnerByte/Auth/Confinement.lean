import BurnerByte.Auth.Routes
import BurnerByte.Core.Trace
import BurnerByte.Rbac.Scopes

/-!
# What an API key can reach

A client starts with one API key and learns further credentials from the answers to
its requests. Whatever it sends, the contexts built for it should be those of its
key: no system admin, and exactly the key's scopes. A ticket drops both
restrictions, and the key routes let a key choose other scopes. In the runs that
present no ticket and choose no other scopes the restriction holds.
-/

namespace BurnerByte.Auth

open Go Sql Handler Rbac Outcome

/-! ## Clients -/

/-- The credentials a client has learnt. -/
structure Known where
  tickets : List Bytes
  keys : List Bytes

def Known.learn (known : Known) : Except HttpError Reply → Known
  | .ok (.ticket ticket) => { known with tickets := ticket :: known.tickets }
  | .ok (.rawKey raw) => { known with keys := raw :: known.keys }
  | .ok .done => known
  | .error _ => known

structure Session where
  server : State
  known : Known

/-- A request of the client, and what it learns from the answer. -/
def Session.step (env : Env) (c : Session) (r : Request) : Session where
  server := (serve env c.server r).2
  known := c.known.learn (serve env c.server r).1

/-- The row of a key, of which the client knows the text. -/
structure KeyOf (env : Env) (s : State) (raw : Bytes) (k : APIKey) : Prop where
  mem : k ∈ s.keys
  only : ∀ key ∈ s.keys, key.keyHash = env.hash raw → key = k

/-- The client before its first request. -/
def Session.start (s : State) (raw : Bytes) : Session := ⟨s, ⟨[], [raw]⟩⟩

/-! ## Requests of a run -/

section

variable (env : Env)

/-- The random digits of a new key give no key that exists already. -/
def Route.Fresh (keys : Table APIKey UUID APIKey.id) : Route → Prop
  | .createKey _ _ _ _ digits => ∀ key ∈ keys, key.keyHash ≠ env.hash (rawKey digits)
  | .rotateKey _ _ _ digits => ∀ key ∈ keys, key.keyHash ≠ env.hash (rawKey digits)
  | _ => True

/-- The client presents no credential that it has not learnt: no foreign ticket, no
foreign key and no access token. -/
structure OwnCredentials (c : Session) (r : Request) : Prop where
  ticket : liveTicket r.now c.server.tickets r.credentials.ticket ≠ none →
    r.credentials.ticket ∈ c.known.tickets
  key : ∀ token, r.credentials.bearer env = some token → isKeyToken token = true →
    (∃ key ∈ c.server.keys, key.keyHash = env.hash token) → token ∈ c.known.keys
  token : ∀ token, r.credentials.bearer env = some token → isKeyToken token = false →
    env.validateAccessToken r.now token = none
  fresh : r.route.Fresh env c.server.keys

/-- Keys are created and updated with exactly the scopes, and only keys with exactly
the scopes are rotated. -/
def Route.KeepsScopes (scopes : List String) (keys : Table APIKey UUID APIKey.id) : Route → Prop
  | .createKey _ _ input _ _ => ∀ i ∈ input, i.scopes = scopes
  | .updateKey _ _ _ input => ∀ i ∈ input, i.scopes = [] ∨ i.scopes = scopes
  | .rotateKey _ _ keyID _ => ∀ key ∈ keys, keyID = some key.id → key.scopes = scopes
  | _ => True

/-- The request presents no live ticket, and keeps to the scopes. -/
@[mk_iff] structure KeyOnly (scopes : List String) (s : State) (r : Request) : Prop where
  ticket : r.credentials.ticket ≠ [] → liveTicket r.now s.tickets r.credentials.ticket = none
  route : r.route.KeepsScopes scopes s.keys

instance (keys : Table APIKey UUID APIKey.id) : (route : Route) → Decidable (route.Fresh env keys)
  | .createKey _ _ _ _ digits | .rotateKey _ _ _ digits =>
    inferInstanceAs (Decidable (∀ key ∈ keys, key.keyHash ≠ env.hash (rawKey digits)))
  | .wsTicket _ | .updateKey _ _ _ _ | .revokeKey _ _ _ | .bulkRevoke _ _ _ | .other _ _ =>
    .isTrue trivial

instance (scopes : List String) (keys : Table APIKey UUID APIKey.id) :
    (route : Route) → Decidable (route.KeepsScopes scopes keys)
  | .createKey _ _ input _ _ => inferInstanceAs (Decidable (∀ i ∈ input, i.scopes = scopes))
  | .updateKey _ _ _ input =>
    inferInstanceAs (Decidable (∀ i ∈ input, i.scopes = [] ∨ i.scopes = scopes))
  | .rotateKey _ _ keyID _ =>
    inferInstanceAs (Decidable (∀ key ∈ keys, keyID = some key.id → key.scopes = scopes))
  | .wsTicket _ | .revokeKey _ _ _ | .bulkRevoke _ _ _ | .other _ _ => .isTrue trivial

instance (c : Session) (r : Request) : Decidable (OwnCredentials env c r) :=
  decidable_of_iff
    ((liveTicket r.now c.server.tickets r.credentials.ticket ≠ none →
        r.credentials.ticket ∈ c.known.tickets) ∧
      (∀ token ∈ r.credentials.bearer env, isKeyToken token = true →
        (∃ key ∈ c.server.keys, key.keyHash = env.hash token) → token ∈ c.known.keys) ∧
      (∀ token ∈ r.credentials.bearer env, isKeyToken token = false →
        (env.validateAccessToken r.now token).isNone) ∧
      r.route.Fresh env c.server.keys)
    ⟨fun h => ⟨h.1, h.2.1, fun token hbearer hkey => Option.isNone_iff_eq_none.mp
        (h.2.2.1 token hbearer hkey), h.2.2.2⟩,
      fun h => ⟨h.ticket, h.key, fun token hbearer hkey => Option.isNone_iff_eq_none.mpr
        (h.token token hbearer hkey), h.fresh⟩⟩

instance (scopes : List String) (s : State) (r : Request) : Decidable (KeyOnly scopes s r) :=
  decidable_of_iff' _ (keyOnly_iff scopes s r)

/-- The permission that a guard asks for. -/
def Guard.permission : Guard → Option String
  | .systemAdmin => none
  | .noAPIKey => none
  | .scope key => some key
  | .orgPermission _ key => some key
  | .teamPermission _ _ key => some key

/-- The context of the request is that of a key with the scopes, and the request gets
past no guard that such a key should not pass. -/
structure Confined (scopes : List String) (s : State) (r : Request) : Prop where
  context : ∀ uc, (middleware env r.now s r.credentials).1 = .ok uc →
    uc.isSystemAdmin = false ∧ uc.apiKeyScopes = some scopes
  reached : ∀ reply, (serve env s r).1 = .ok reply → ∀ guard ∈ r.route.guards,
    ∃ key ∈ scopes, guard.permission = some key

end

/-! ## Guards -/

variable {uc : UserContext} {scopes : List String} {env : Env} {s : State} {r : Request}

theorem hasKeyScopes_of_scopes (h : uc.apiKeyScopes = some scopes) (hne : scopes ≠ []) :
    uc.hasKeyScopes = true := by
  simp [UserContext.hasKeyScopes, h, hne]

theorem mem_of_denyByScope_ok {key : String} (hscopes : uc.apiKeyScopes = some scopes)
    (hne : scopes ≠ []) (h : denyByScope (some uc) key = .ok ()) : key ∈ scopes := by
  by_contra hno
  simp [denyByScope, hasKeyScopes_of_scopes hscopes hne, hasScope, hscopes, hno] at h

theorem check_ok_of_forM {c : Checker} {guards : List Guard}
    (h : guards.forM (Guard.check c uc) = .ok ()) :
    ∀ guard ∈ guards, guard.check c uc = .ok () := by
  induction guards with
  | nil => simp
  | cons first rest ih =>
    obtain ⟨_, hfirst, hrest⟩ := bind_eq_ok.mp h
    rintro guard (_ | ⟨_, hguard⟩)
    · exact hfirst
    · exact ih hrest guard hguard

theorem serve_ok {reply : Reply} (h : (serve env s r).1 = .ok reply) :
    ∃ uc s', middleware env r.now s r.credentials = (.ok uc, s') ∧
      (∀ guard ∈ r.route.guards, guard.check s'.world.checker uc = .ok ()) ∧
      handleRoute env r.now s' uc r.route = .ok (reply, (serve env s r).2) := by
  unfold serve at h ⊢
  split at h
  · cases h
  rename_i uc s' hmiddleware
  split at h
  · cases h
  rename_i hguards
  split at h
  · cases h
  rename_i hhandle
  cases h
  exact ⟨uc, s', hmiddleware, check_ok_of_forM hguards, by simp only [hhandle]⟩

/-- A refused request changes no key. -/
theorem serve_error_keys {err : HttpError} (h : (serve env s r).1 = .error err) :
    (serve env s r).2.keys = s.keys := by
  have hkeys := middleware_keys env r.now s r.credentials
  unfold serve at h ⊢
  split <;> rename_i hmiddleware <;> rw [hmiddleware] at hkeys
  · exact hkeys
  · rw [hmiddleware] at h
    split
    · exact hkeys
    split
    · exact hkeys
    · simp_all

/-! ## The keys that a client knows -/

/-- Every key whose text the client knows has the scopes. -/
def Session.KeysHave (env : Env) (scopes : List String) (c : Session) : Prop :=
  ∀ key ∈ c.server.keys, ∀ raw ∈ c.known.keys, key.keyHash = env.hash raw → key.scopes = scopes

theorem context_of_keysHave {c : Session} (h : c.KeysHave env scopes)
    (hown : OwnCredentials env c r) (hkey : KeyOnly scopes c.server r)
    (huc : (middleware env r.now c.server r.credentials).1 = .ok uc) :
    uc.isSystemAdmin = false ∧ uc.apiKeyScopes = some scopes := by
  obtain ⟨token, hbearer, htoken, hcontext⟩ := middleware_ok hkey.ticket hown.token huc
  obtain ⟨key, hmem, hhash, hadmin, hscopes⟩ := keyContext_ok hcontext
  have hknown := hown.key token hbearer htoken ⟨key, hmem, hhash⟩
  exact ⟨hadmin, by rw [hscopes, h key hmem token hknown hhash]⟩

/-- From `keys` to `keys'`, each key keeps its hash and, if it has the scopes, its
scopes; or else it has the scopes. -/
def Follows (scopes : List String) (keys keys' : Table APIKey UUID APIKey.id) : Prop :=
  ∀ key ∈ keys', key.scopes = scopes ∨
    ∃ old ∈ keys, old.keyHash = key.keyHash ∧ (old.scopes = scopes → key.scopes = scopes)

theorem Follows.refl (scopes : List String) (keys : Table APIKey UUID APIKey.id) :
    Follows scopes keys keys := fun key hkey => .inr ⟨key, hkey, rfl, id⟩

/-- An update of rows is followed if each row changed is. -/
theorem Follows.updateWhere {keys : Table APIKey UUID APIKey.id} {p : APIKey → Bool}
    {f : APIKey → APIKey} (hid : ∀ key, (f key).id = key.id)
    (h : ∀ key ∈ keys, p key = true → (f key).scopes = scopes ∨
      (f key).keyHash = key.keyHash ∧ (key.scopes = scopes → (f key).scopes = scopes)) :
    Follows scopes keys (keys.updateWhere p f hid) := by
  intro key hkey
  rw [Table.mem_updateWhere] at hkey
  obtain ⟨old, hold, rfl⟩ := hkey
  split
  · rename_i hp
    rcases h old hold hp with hscopes | ⟨hhash, hkept⟩
    · exact .inl hscopes
    · exact .inr ⟨old, hold, hhash.symm, hkept⟩
  · exact .inr ⟨old, hold, rfl, id⟩

/-! ## What the routes do to the keys -/

/-- Each key had the same id, hash and scopes before. -/
def SameKeys (keys keys' : Table APIKey UUID APIKey.id) : Prop :=
  ∀ key ∈ keys', ∃ old ∈ keys,
    old.id = key.id ∧ old.keyHash = key.keyHash ∧ old.scopes = key.scopes

namespace SameKeys

variable {keys mid keys' : Table APIKey UUID APIKey.id}

theorem refl (keys : Table APIKey UUID APIKey.id) : SameKeys keys keys :=
  fun key hkey => ⟨key, hkey, rfl, rfl, rfl⟩

theorem trans (h : SameKeys keys mid) (h' : SameKeys mid keys') : SameKeys keys keys' := by
  intro key hkey
  obtain ⟨old, hold, hid, hhash, hscopes⟩ := h' key hkey
  obtain ⟨older, holder, hid', hhash', hscopes'⟩ := h old hold
  exact ⟨older, holder, hid'.trans hid, hhash'.trans hhash, hscopes'.trans hscopes⟩

theorem deleteWhere (keys : Table APIKey UUID APIKey.id) (p : APIKey → Bool) :
    SameKeys keys (keys.deleteWhere p) :=
  fun key hkey => ⟨key, (Table.mem_deleteWhere.mp hkey).1, rfl, rfl, rfl⟩

/-- An update of other columns. -/
theorem updateWhere (keys : Table APIKey UUID APIKey.id) (p : APIKey → Bool) {f : APIKey → APIKey}
    (hid : ∀ key, (f key).id = key.id) (hhash : ∀ key, (f key).keyHash = key.keyHash)
    (hscopes : ∀ key, (f key).scopes = key.scopes) :
    SameKeys keys (keys.updateWhere p f hid) := by
  intro key hkey
  rw [Table.mem_updateWhere] at hkey
  obtain ⟨old, hold, rfl⟩ := hkey
  refine ⟨old, hold, ?_⟩
  split
  · exact ⟨(hid old).symm, (hhash old).symm, (hscopes old).symm⟩
  · exact ⟨rfl, rfl, rfl⟩

end SameKeys

/-- The key that a route creates or updates. -/
def Route.target : Route → Option UUID
  | .createKey _ _ _ id _ => some id
  | .updateKey _ _ keyID _ => keyID
  | _ => none

/-- What a route that succeeds has done to the keys. -/
inductive Wrote (env : Env) (keys : Table APIKey UUID APIKey.id) :
    Route → Table APIKey UUID APIKey.id → Prop where
  | created {orgID teamID : UUID} {input : CreateAPIKeyInput} {digits : Bytes} {key : APIKey}
      {keys' : Table APIKey UUID APIKey.id} (hscopes : key.scopes = input.scopes)
      (hinsert : keys.insert key = some keys') :
      Wrote env keys (.createKey orgID teamID (some input) key.id digits) keys'
  | updated {orgID teamID : UUID} {input : UpdateAPIKeyInput} {expiresAt : Option Nat}
      {key : APIKey} (hkey : key ∈ keys) :
      Wrote env keys (.updateKey orgID teamID (some key.id) (some input))
        (keys.updateWhere (fun row => row.id = key.id) (input.apply expiresAt) fun _ => rfl)
  | rotated {orgID teamID keyID : UUID} {digits : Bytes} :
      Wrote env keys (.rotateKey orgID teamID (some keyID) digits)
        (keys.updateWhere (fun row => row.id = keyID)
          (fun row => { row with keyHash := env.hash (rawKey digits) }) fun _ => rfl)
  | same {route : Route} {keys' : Table APIKey UUID APIKey.id} (htarget : route.target = none)
      (hsame : SameKeys keys keys') : Wrote env keys route keys'

variable {now : Nat} {s' : State}

theorem generate_ok {teamID userID id : UUID} {input : CreateAPIKeyInput} {digits : Bytes}
    (h : generate env now s teamID userID input id digits = .ok s') :
    ∃ key : APIKey, key.id = id ∧ key.scopes = input.scopes ∧ s.keys.insert key = some s'.keys := by
  unfold generate at h
  split at h
  · cases h
  split at h
  · cases h
  simp only [bind_eq_ok] at h
  obtain ⟨_, _, _, _, expiresAt, _, h⟩ := h
  unfold State.createKey at h
  split at h
  · cases h
  rename_i keys hinsert
  obtain ⟨_, h⟩ := guard_eq_ok.mp h
  obtain ⟨_, h⟩ := guard_eq_ok.mp h
  cases h
  exact ⟨_, rfl, rfl, hinsert⟩

theorem teamKey_ok {teamID keyID : UUID} {key : APIKey} (h : s.teamKey teamID keyID = .ok key) :
    key ∈ s.keys ∧ key.id = keyID := by
  obtain ⟨found, hget, h⟩ := bind_eq_ok.mp h
  obtain ⟨_, h⟩ := guard_eq_ok.mp h
  cases h
  unfold State.getByID at hget
  split at hget
  · cases hget
  rename_i hfind
  obtain ⟨_, hget⟩ := guard_eq_ok.mp hget
  cases hget
  exact Table.find?_eq_some_iff.mp hfind

theorem decodeBody_ok {α : Type} {body : Option α} {input : α} (h : decodeBody body = .ok input) :
    body = some input := by
  cases body with
  | none => cases h
  | some i => exact congrArg some (Except.ok.inj h)

theorem parseKeyID_ok {keyID : Option UUID} {id : UUID} (h : parseKeyID keyID = .ok id) :
    keyID = some id := by
  cases keyID with
  | none => cases h
  | some i => exact congrArg some (Except.ok.inj h)

variable {route : Route}

theorem handleRoute_wrote {reply : Reply} (h : handleRoute env now s uc route = .ok (reply, s')) :
    Wrote env s.keys route s'.keys := by
  cases route with
  | wsTicket fresh =>
    cases h
    exact .same rfl (.refl s.keys)
  | createKey orgID teamID body id digits =>
    obtain ⟨input, hbody, h⟩ := bind_eq_ok.mp h
    obtain ⟨s₁, hgenerate, h⟩ := bind_eq_ok.mp h
    cases h
    obtain rfl := decodeBody_ok hbody
    obtain ⟨key, rfl, hscopes, hinsert⟩ := generate_ok (mapError_eq_ok.mp hgenerate)
    exact .created hscopes hinsert
  | updateKey orgID teamID keyID body =>
    obtain ⟨id, hparse, h⟩ := bind_eq_ok.mp h
    obtain ⟨input, hbody, h⟩ := bind_eq_ok.mp h
    obtain ⟨s₁, hupdate, h⟩ := bind_eq_ok.mp h
    cases h
    obtain rfl := parseKeyID_ok hparse
    obtain rfl := decodeBody_ok hbody
    obtain ⟨key, hkey, h⟩ := bind_eq_ok.mp (mapError_eq_ok.mp hupdate)
    obtain ⟨_, h⟩ := guard_eq_ok.mp h
    obtain ⟨_, _, h⟩ := bind_eq_ok.mp h
    obtain ⟨_, _, h⟩ := bind_eq_ok.mp h
    obtain ⟨expiresAt, _, h⟩ := bind_eq_ok.mp h
    obtain ⟨_, h⟩ := guard_eq_ok.mp h
    obtain ⟨_, h⟩ := guard_eq_ok.mp h
    cases h
    obtain ⟨hmem, rfl⟩ := teamKey_ok hkey
    exact .updated hmem
  | rotateKey orgID teamID keyID digits =>
    obtain ⟨id, hparse, h⟩ := bind_eq_ok.mp h
    obtain ⟨s₁, hrotate, h⟩ := bind_eq_ok.mp h
    cases h
    obtain rfl := parseKeyID_ok hparse
    obtain ⟨_, _, h⟩ := bind_eq_ok.mp (mapError_eq_ok.mp hrotate)
    obtain ⟨_, h⟩ := guard_eq_ok.mp h
    obtain ⟨_, h⟩ := guard_eq_ok.mp h
    cases h
    exact .rotated
  | revokeKey orgID teamID keyID =>
    obtain ⟨id, _, h⟩ := bind_eq_ok.mp h
    obtain ⟨s₁, hrevoke, h⟩ := bind_eq_ok.mp h
    cases h
    obtain ⟨_, _, h⟩ := bind_eq_ok.mp (mapError_eq_ok.mp hrevoke)
    cases h
    exact .same rfl (.updateWhere (f := fun key => { key with revokedAt := some now }) _ _
      (fun _ => rfl) (fun _ => rfl) fun _ => rfl)
  | bulkRevoke orgID teamID body =>
    obtain ⟨keyIDs, _, h⟩ := bind_eq_ok.mp h
    obtain ⟨_, h⟩ := guard_eq_ok.mp h
    cases h
    exact .same rfl (.updateWhere (f := fun key => { key with revokedAt := some now }) _ _
      (fun _ => rfl) (fun _ => rfl) fun _ => rfl)
  | other guards effect =>
    cases h
    exact .same rfl ((SameKeys.deleteWhere s.keys effect.drop).trans
      (.updateWhere (f := APIKey.orphaned now) _ _ (fun _ => rfl) (fun _ => rfl) fun _ => rfl))

theorem handleRoute_follows {reply : Reply} (hkeep : route.KeepsScopes scopes s.keys)
    (h : handleRoute env now s uc route = .ok (reply, s')) : Follows scopes s.keys s'.keys := by
  have hwrote := handleRoute_wrote h
  generalize s'.keys = keys' at hwrote ⊢
  cases hwrote with
  | created hscopes hinsert =>
    intro key hkey
    rcases ((Table.insert_eq_some hinsert).2 key).mp hkey with rfl | hold
    · exact .inl (hscopes.trans (hkeep _ rfl))
    · exact .inr ⟨key, hold, rfl, id⟩
  | updated hmem =>
    refine .updateWhere _ fun key _ _ => .inr ⟨rfl, fun hkept => ?_⟩
    dsimp only [UpdateAPIKeyInput.apply]
    split
    · exact hkept
    rename_i hne
    exact (hkeep _ rfl).resolve_left hne
  | rotated =>
    refine .updateWhere _ fun key hkey hid => .inl ?_
    exact hkeep key hkey (congrArg some (of_decide_eq_true hid).symm)
  | same _ hsame =>
    intro key hkey
    obtain ⟨old, hold, _, hhash, hscopes⟩ := hsame key hkey
    exact .inr ⟨old, hold, hhash, fun hkept => hscopes ▸ hkept⟩

/-- A key that an answer reveals is new. -/
theorem fresh_of_rawKey {raw : Bytes} (hfresh : route.Fresh env s.keys)
    (h : handleRoute env now s uc route = .ok (.rawKey raw, s')) :
    ∀ key ∈ s.keys, key.keyHash ≠ env.hash raw := by
  cases route with
  | updateKey orgID teamID keyID body =>
    obtain ⟨_, _, h⟩ := bind_eq_ok.mp h
    obtain ⟨_, _, h⟩ := bind_eq_ok.mp h
    obtain ⟨_, _, h⟩ := bind_eq_ok.mp h
    cases h
  | revokeKey orgID teamID keyID =>
    obtain ⟨_, _, h⟩ := bind_eq_ok.mp h
    obtain ⟨_, _, h⟩ := bind_eq_ok.mp h
    cases h
  | bulkRevoke orgID teamID body =>
    obtain ⟨_, _, h⟩ := bind_eq_ok.mp h
    split at h <;> cases h
  | wsTicket fresh | other guards effect => cases h
  | _ =>
    obtain ⟨_, _, h⟩ := bind_eq_ok.mp h
    obtain ⟨_, _, h⟩ := bind_eq_ok.mp h
    obtain ⟨hraw, _⟩ := Prod.mk.inj (Except.ok.inj h)
    obtain rfl := Reply.rawKey.inj hraw
    exact hfresh

/-! ## Runs -/

/-- A key that a client knows after a request has the scopes if the keys follow and
what it learns is new. -/
theorem Session.KeysHave.next {c c' : Session} (h : c.KeysHave env scopes)
    (hfollows : Follows scopes c.server.keys c'.server.keys)
    (hknown : ∀ raw ∈ c'.known.keys, raw ∈ c.known.keys ∨
      ∀ key ∈ c.server.keys, key.keyHash ≠ env.hash raw) : c'.KeysHave env scopes := by
  intro key hkey raw hraw hhash
  rcases hfollows key hkey with hscopes | ⟨old, hold, hsame, hkept⟩
  · exact hscopes
  refine hkept ?_
  rcases hknown raw hraw with hold' | hnew
  · exact h old hold raw hold' (hsame.trans hhash)
  · exact absurd (hsame.trans hhash) (hnew old hold)

theorem step_keysHave (c : Session) (r : Request) (h : c.KeysHave env scopes)
    (hr : OwnCredentials env c r ∧ KeyOnly scopes c.server r) :
    (c.step env r).KeysHave env scopes := by
  cases hreply : (serve env c.server r).1 with
  | error err =>
    apply h.next
    · rw [Session.step, serve_error_keys hreply]
      exact .refl scopes c.server.keys
    · intro raw hraw
      rw [Session.step, hreply] at hraw
      exact .inl hraw
  | ok reply =>
    obtain ⟨uc, s', hmiddleware, _, hhandle⟩ := serve_ok hreply
    have hkeys : s'.keys = c.server.keys := by
      rw [← middleware_keys env r.now c.server r.credentials, hmiddleware]
    apply h.next
    · rw [← hkeys]
      exact handleRoute_follows (hkeys ▸ hr.2.route) hhandle
    · intro raw hraw
      rw [Session.step, hreply] at hraw
      cases reply with
      | rawKey new =>
        rcases List.mem_cons.mp hraw with rfl | hold
        · rw [← hkeys]
          exact .inr (fresh_of_rawKey (hkeys ▸ hr.1.fresh) hhandle)
        · exact .inl hold
      | _ => exact .inl hraw

/-- In every run of a client that starts with one key, presents no live ticket, and
creates, updates and rotates keys with exactly the key's scopes only, every context
is that of a key with these scopes, and no guard is passed that such a key should
not pass. -/
theorem key_confined (env : Env) (s : State) (raw : Bytes) (k : APIKey) (hk : KeyOf env s raw k)
    (rs : List Request) (r : Request) (h : Trace.Guarded (Session.step env)
      (fun c r => OwnCredentials env c r ∧ KeyOnly k.scopes c.server r) (.start s raw)
      (rs ++ [r])) :
    Confined env k.scopes (Trace.run (Session.step env) (.start s raw) rs).server r := by
  have hstart : (Session.start s raw).KeysHave env k.scopes := by
    intro key hkey known hknown hhash
    obtain rfl := List.mem_singleton.mp hknown
    rw [hk.only key hkey hhash]
  obtain ⟨hkeys, hown, honly⟩ := h.before hstart step_keysHave
  constructor
  · intro uc huc
    exact context_of_keysHave hkeys hown honly huc
  · intro reply hreply guard hguard
    obtain ⟨uc, s', hmiddleware, hguards, _⟩ := serve_ok hreply
    obtain ⟨hadmin, hscopes⟩ := context_of_keysHave hkeys hown honly (by rw [hmiddleware])
    -- The only guards that let a key pass ask for a permission, which is then a scope of the key.
    have hne := k.scopes_ne
    have h := hguards guard hguard
    cases guard with
    | systemAdmin => simp [Guard.check, requireSystemAdmin, hadmin] at h
    | noAPIKey =>
      simp [Guard.check, rejectAPIKey, hasKeyScopes_of_scopes hscopes hne] at h
    | scope key => exact ⟨key, mem_of_denyByScope_ok hscopes hne h, rfl⟩
    | orgPermission orgID key | teamPermission orgID teamID key =>
      obtain ⟨_, hdeny, _⟩ := bind_eq_ok.mp h
      exact ⟨key, mem_of_denyByScope_ok hscopes hne hdeny, rfl⟩

/-! ## A key of a system admin -/

/-- Digits of two keys, with the hashes of the keys. -/
def sampleEnv : Env where
  allowTokenQueryParam := false
  hash token :=
    if token = rawKey (List.replicate 64 48) then
      "ed7090bb1d2a5b4918329516209eba0b66d087224306121f66e2c30aca4ade29"
    else if token = rawKey (List.replicate 64 49) then
      "292d90372255e36aa4b47e69011aa5c5c974b5d6a29c65f8e5422079e03763b9"
    else ""
  validateAccessToken _ _ := none
  parseTime _ := .error "cannot parse"
  scopesProvider := teamPermissions

/-- A key of user 1, a system admin who leads team 1, that may only manage keys. -/
def sampleKey : APIKey where
  id := 5
  teamID := 1
  createdBy := some 1
  keyHash := sampleEnv.hash (rawKey (List.replicate 64 48))
  scopes := ["team.apikeys.manage"]
  scopes_ne := by decide
  isActive := true
  allowedIPs := []
  expiresAt := none
  revokedAt := none

def sampleState : State where
  world :=
    { users := ⟨[⟨1, "root@example.com", "Root", true, none⟩], by decide⟩
      checker := teamMemberChecker shippedRoles.cache "lead" (by decide)
      revokedAt := fun _ => 0 }
  keys := ⟨[sampleKey], by decide⟩
  tickets := []

def Effect.none : Effect := ⟨id, fun _ => false, fun _ => false⟩

/-- A request with a key in the header. -/
def withKey (digit : UInt8) (route : Route) : Request :=
  ⟨0, ⟨[], lit "Bearer " ++ rawKey (List.replicate 64 digit), [], lit "192.0.2.1"⟩, route⟩

/-- A request with a ticket in the query. -/
def withTicket (ticket : Bytes) (route : Route) : Request :=
  ⟨0, ⟨ticket, [], [], lit "192.0.2.1"⟩, route⟩

def sampleTicket : Bytes := lit "6f1c2b1e-9c0a-4d57-8a53-2f0f5d6b7c81"

/-- Create a second key with the given scopes. -/
def createSecond (scopes : List String) : Request :=
  withKey 48 (.createKey 1 1 (some ⟨"ci", scopes, none, []⟩) 6 (List.replicate 64 49))

theorem sampleKey_keyOf : KeyOf sampleEnv sampleState (rawKey (List.replicate 64 48)) sampleKey :=
  ⟨List.mem_singleton.mpr rfl, fun _ hkey _ => List.mem_singleton.mp hkey⟩

/-- The client creates a second key with the scopes of the first, and uses it. -/
theorem key_confined_second :
    Confined sampleEnv ["team.apikeys.manage"]
      (Trace.run (Session.step sampleEnv) (.start sampleState (rawKey (List.replicate 64 48)))
        [createSecond ["team.apikeys.manage"]]).server
      (withKey 49 (.other [.teamPermission 1 1 "team.apikeys.manage"] .none)) :=
  key_confined _ _ _ _ sampleKey_keyOf [createSecond ["team.apikeys.manage"]] _ (by decide +kernel)

/-- A run of a client with one key, at whose last request the client is not confined. -/
def Escapes (env : Env) (s : State) (raw : Bytes) (k : APIKey) (rs : List Request) (r : Request) :
    Prop :=
  Trace.Guarded (Session.step env) (OwnCredentials env) (.start s raw) (rs ++ [r]) ∧
    ¬ Confined env k.scopes (Trace.run (Session.step env) (.start s raw) rs).server r

/-- The client exchanges its key for a ticket. With the ticket it is the system admin,
without scopes, and gets past every guard. Or it creates a second key with another
scope. -/
theorem key_not_confined :
    Escapes sampleEnv sampleState (rawKey (List.replicate 64 48)) sampleKey
        [withKey 48 (.wsTicket sampleTicket)]
        (withTicket sampleTicket
          (.other [.systemAdmin, .noAPIKey, .orgPermission 1 "org.delete"] .none)) ∧
      Escapes sampleEnv sampleState (rawKey (List.replicate 64 48)) sampleKey
        [createSecond ["team.emails.view"]]
        (withKey 49 (.other [.scope "team.emails.view"] .none)) := by
  constructor
  · refine ⟨by decide +kernel, fun h => ?_⟩
    obtain ⟨key, _, hsome⟩ := h.reached .done (by decide +kernel) .systemAdmin List.mem_cons_self
    cases hsome
  · refine ⟨by decide +kernel, fun h => ?_⟩
    obtain ⟨key, hkey, hsome⟩ := h.reached .done (by decide +kernel) (.scope "team.emails.view")
      (List.mem_singleton.mpr rfl)
    cases hsome
    exact absurd hkey (by decide +kernel)

end BurnerByte.Auth
