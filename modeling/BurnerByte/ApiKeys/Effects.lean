import BurnerByte.ApiKeys.Calls

/-!
# What the statements do to the rows of keys

Each row that is there after a statement was there before, was created by it, or is a row from
before with some columns set. Only the writes of `Generate` and `Rotate` set a hash, only those of
`Generate` and `Update` set scopes, and nothing takes a revocation back.
-/

namespace BurnerByte.ApiKeys

open Go Sql Rbac Outcome

variable {env : Auth.Env} {db db' : Db} {call : Call} {key key' : Key}

/-! ## Repository -/

theorem mem_create (h : db.create key = .ok db') (hkey' : key' ∈ db'.keys) :
    key' ∈ db.keys ∨ ∃ name, key' = { key with name } := by
  unfold Db.create at h
  split at h
  · cases h
  rename_i name _
  split at h
  · cases h
  split at h
  · cases h
  rename_i keys hinsert
  split at h
  · cases h
  cases h
  rcases ((Table.insert_eq_some hinsert).2 key').mp hkey' with rfl | hold
  · exact .inr ⟨name, rfl⟩
  · exact .inl hold

variable {keyID userID teamID : UUID} {now : Nat} {next : Call}

theorem mem_rewrite {f : Key → Key} {hid : ∀ key, (f key).id = key.id}
    (h : db.rewrite keyID f hid = .ok db') (hkey' : key' ∈ db'.keys) :
    key' ∈ db.keys ∧ key'.id ≠ keyID ∨ ∃ key ∈ db.keys, key.id = keyID ∧ key' = f key := by
  obtain ⟨_, h⟩ := guard_eq_ok.mp h
  cases h
  rw [Table.mem_updateWhere] at hkey'
  obtain ⟨key, hkey, rfl⟩ := hkey'
  by_cases hsame : key.id = keyID
  · simp only [hsame, decide_true, if_true]
    exact .inr ⟨key, hkey, hsame, rfl⟩
  · simp only [hsame, decide_false, Bool.false_eq_true, if_false]
    exact .inl ⟨hkey, hsame⟩

theorem mem_update {input : UpdateAPIKeyInput} (h : db.update env keyID input = .ok db')
    (hkey' : key' ∈ db'.keys) :
    key' ∈ db.keys ∨ ∃ key ∈ db.keys, ∃ name expiresAt, key.id = keyID ∧
      key' = columns input name expiresAt key := by
  obtain ⟨expiresAt, _, h⟩ := bind_eq_ok.mp h
  obtain ⟨_, h⟩ := guard_eq_ok.mp h
  split at h
  · cases h
  rename_i name _
  obtain ⟨_, h⟩ := guard_eq_ok.mp h
  rcases mem_rewrite h hkey' with ⟨hold, _⟩ | ⟨key, hkey, hid, heq⟩
  · exact .inl hold
  · exact .inr ⟨key, hkey, name, expiresAt, hid, heq⟩

theorem mem_softRevoke (h : db.softRevoke keyID userID now = .ok db') (hkey' : key' ∈ db'.keys) :
    key' ∈ db.keys ∨ ∃ key ∈ db.keys, key' = key.revoke now userID := by
  obtain ⟨_, h⟩ := guard_eq_ok.mp h
  rcases mem_rewrite h hkey' with ⟨hold, _⟩ | ⟨key, hkey, _, heq⟩
  · exact .inl hold
  · exact .inr ⟨key, hkey, heq⟩

variable {digits : Bytes} {outcome : Except String Db}

theorem mem_bulkSoftRevoke {keyIDs : List UUID} {revoked : Nat}
    (h : db.bulkSoftRevoke teamID keyIDs userID now = .ok (revoked, db'))
    (hkey' : key' ∈ db'.keys) :
    key' ∈ db.keys ∨ ∃ key ∈ db.keys, key' = key.revoke now userID := by
  obtain ⟨_, h⟩ := guard_eq_ok.mp h
  cases h
  rw [Table.mem_updateWhere] at hkey'
  obtain ⟨key, hkey, rfl⟩ := hkey'
  split
  · exact .inr ⟨key, hkey, rfl⟩
  · exact .inl hkey

/-! ## Calls -/

theorem checkScopes_ok {scopes : List String} (h : Auth.checkScopes env scopes = .ok ()) :
    ∀ scope ∈ scopes, scope ∈ env.scopesProvider := by
  unfold Auth.checkScopes at h
  split at h
  · cases h
  rename_i hnone
  intro scope hscope
  simpa [Auth.isValidScope] using List.find?_eq_none.mp hnone scope hscope

theorem newKey_ok {id : UUID} {input : CreateAPIKeyInput}
    (h : newKey env now teamID userID input id digits = .ok key) :
    key.id = id ∧ key.keyHash = env.hash (rawKey digits) ∧ key.scopes = input.scopes ∧
      input.scopes ≠ [] ∧ ∀ scope ∈ input.scopes, scope ∈ env.scopesProvider := by
  obtain ⟨_, h⟩ := guard_eq_ok.mp h
  obtain ⟨hne, h⟩ := guard_eq_ok.mp h
  obtain ⟨_, hscopes, h⟩ := bind_eq_ok.mp h
  obtain ⟨_, _, h⟩ := bind_eq_ok.mp h
  obtain ⟨_, _, h⟩ := bind_eq_ok.mp h
  cases h
  exact ⟨rfl, rfl, rfl, hne, checkScopes_ok hscopes⟩

/-- Where a row comes from that is there after the next statement of a call. -/
inductive Writes (env : Auth.Env) (call : Call) (db : Db) : Key → Prop where
  | kept {key : Key} (hkey : key ∈ db.keys) : Writes env call db key
  | created {roles : RoleTable} {now : Nat} {teamID userID id : UUID}
      {input : CreateAPIKeyInput} {digits : Bytes} {key : Key} (name : String)
      (hcall : call = .generate roles now teamID userID input id digits)
      (hnew : newKey (withRoles env roles) now teamID userID input id digits = .ok key) :
      Writes env call db { key with name }
  | updated {roles : RoleTable} {teamID : UUID} {input : UpdateAPIKeyInput} {key : Key}
      (name : Option String) (expiresAt : Option Nat) (hkey : key ∈ db.keys)
      (hcall : call = .update roles teamID key.id input .writing) :
      Writes env call db (columns input name expiresAt key)
  | rotated {teamID : UUID} {digits : Bytes} {key : Key} (hkey : key ∈ db.keys)
      (hcall : call = .rotate teamID key.id digits .writing) :
      Writes env call db
        { key with keyHash := env.hash (rawKey digits), keyPrefix := keyPrefix digits }
  | revoked {key : Key} (now : Nat) (userID : UUID) (hkey : key ∈ db.keys) :
      Writes env call db (key.revoke now userID)
  | cleared {key : Key} (users : List UUID) (now : Nat) (hkey : key ∈ db.keys) :
      Writes env call db (key.clear users now)

theorem mem_proceed (h : key ∈ (proceed db outcome next).2.keys) :
    key ∈ db.keys ∨ ∃ db', outcome = .ok db' ∧ key ∈ db'.keys := by
  cases outcome with
  | error msg => exact .inl h
  | ok db' => exact .inr ⟨db', rfl, h⟩

/-- A check in front of the next statement changes nothing. -/
theorem mem_proceed_check {check : Except String Unit}
    (h : key ∈ (proceed db (check.map fun _ => db) next).2.keys) : key ∈ db.keys := by
  cases check with
  | _ => exact h

theorem mem_stmt (h : key' ∈ (stmt env call db).2.keys) : Writes env call db key' := by
  cases call with
  | generate roles now teamID userID input id digits =>
    rw [stmt] at h
    split at h
    · exact .kept h
    rename_i key hnew
    rcases mem_proceed h with hold | ⟨db', hcreate, hkey'⟩
    · exact .kept hold
    rcases mem_create hcreate hkey' with hold | ⟨name, rfl⟩
    · exact .kept hold
    · exact .created name rfl hnew
  | update roles teamID keyID input stage =>
    cases stage with
    | reading => exact .kept (mem_proceed_check h)
    | writing =>
      rcases mem_proceed h with hold | ⟨db', hupdate, hkey'⟩
      · exact .kept hold
      rcases mem_update hupdate hkey' with hold | ⟨key, hkey, name, expiresAt, rfl, rfl⟩
      · exact .kept hold
      · exact .updated name expiresAt hkey rfl
    | fetching => exact .kept h
  | rotate teamID keyID digits stage =>
    cases stage with
    | reading => exact .kept (mem_proceed_check h)
    | writing =>
      rcases mem_proceed h with hold | ⟨db', hrotate, hkey'⟩
      · exact .kept hold
      rcases mem_rewrite hrotate hkey' with ⟨hold, _⟩ | ⟨key, hkey, rfl, rfl⟩
      · exact .kept hold
      · exact .rotated hkey rfl
    | fetching => exact .kept h
  | revoke now teamID keyID userID stage =>
    cases stage with
    | reading =>
      rcases mem_proceed h with hold | ⟨db', hget, hkey'⟩
      · exact .kept hold
      obtain ⟨_, _, rfl⟩ := map_eq_ok hget
      exact .kept hkey'
    | writing =>
      rcases mem_proceed h with hold | ⟨db', hrevoke, hkey'⟩
      · exact .kept hold
      rcases mem_softRevoke hrevoke hkey' with hold | ⟨key, hkey, rfl⟩
      · exact .kept hold
      · exact .revoked now userID hkey
    | fetching => exact .kept h
  | bulkRevoke now teamID userID keyIDs =>
    rw [stmt] at h
    split at h
    · exact .kept h
    split at h
    · exact .kept h
    rename_i revoked db' hrevoke
    have hkey' : key' ∈ db'.keys := by
      split at h
      · exact h
      · exact h
    rcases mem_bulkSoftRevoke hrevoke hkey' with hold | ⟨key, hkey, rfl⟩
    · exact .kept hold
    · exact .revoked now userID hkey
  | bulkSkip teamID userID keyIDs revoked seen skipped =>
    cases keyIDs with
    | nil => exact .kept h
    | cons id keyIDs =>
      rw [stmt] at h
      split at h
      · exact .kept h
      · exact .kept h
  | deleteExpiredKeys now => exact .kept (Table.mem_deleteWhere.mp h).1
  | other effect now =>
    rw [stmt, Effect.apply, Table.mem_updateWhere] at h
    obtain ⟨key, hkey, rfl⟩ := h
    exact .cleared effect.users now (Table.mem_deleteWhere.mp hkey).1
  | _ => exact .kept h

/-- After the write of a rotation, the row has the new hash. -/
theorem hash_of_rotate (h : key ∈ (stmt env (.rotate teamID keyID digits .writing) db).2.keys)
    (hid : key.id = keyID) : key.keyHash = env.hash (rawKey digits) := by
  rw [stmt] at h
  cases hrotate : db.rotateKey keyID (env.hash (rawKey digits)) (keyPrefix digits) with
  | error msg =>
    rw [hrotate] at h
    have hfind : db.keys.find? keyID = some key := Table.find?_eq_some_iff.mpr ⟨h, hid⟩
    rw [Db.rotateKey, Db.rewrite, hfind] at hrotate
    cases hrotate
  | ok db' =>
    rw [hrotate] at h
    rcases mem_rewrite hrotate h with ⟨_, hne⟩ | ⟨old, _, _, rfl⟩
    · exact absurd hid hne
    · rfl

/-- How a call goes on after a statement. -/
inductive Continues (env : Auth.Env) (db : Db) : Call → Call → Prop where
  | returned (call : Call) (result : Except String Reply) : Continues env db call (.returned result)
  | updateWriting {roles : RoleTable} {teamID keyID : UUID} {input : UpdateAPIKeyInput}
      (hcheck : checkUpdate (withRoles env roles) db teamID keyID input = .ok ()) :
      Continues env db (.update roles teamID keyID input .reading)
        (.update roles teamID keyID input .writing)
  | updateFetching (roles : RoleTable) (teamID keyID : UUID) (input : UpdateAPIKeyInput) :
      Continues env db (.update roles teamID keyID input .writing)
        (.update roles teamID keyID input .fetching)
  | rotateWriting (teamID keyID : UUID) (digits : Bytes) :
      Continues env db (.rotate teamID keyID digits .reading) (.rotate teamID keyID digits .writing)
  | rotateFetching (teamID keyID : UUID) (digits : Bytes) :
      Continues env db (.rotate teamID keyID digits .writing)
        (.rotate teamID keyID digits .fetching)
  | revokeWriting (now : Nat) (teamID keyID userID : UUID) :
      Continues env db (.revoke now teamID keyID userID .reading)
        (.revoke now teamID keyID userID .writing)
  | bulkReport (call : Call) (teamID userID : UUID) (keyIDs : List UUID) (revoked : Nat) :
      Continues env db call (.bulkReport teamID userID keyIDs revoked)
  | bulkSkip (call : Call) (teamID userID : UUID) (keyIDs : List UUID) (revoked : Nat)
      (seen skipped : List UUID) :
      Continues env db call (.bulkSkip teamID userID keyIDs revoked seen skipped)

theorem continues_proceed (h : ∀ db', outcome = .ok db' → Continues env db call next) :
    Continues env db call (proceed db outcome next).1 := by
  cases outcome with
  | error msg => exact .returned call _
  | ok db' => exact h db' rfl

theorem continues_stmt (env : Auth.Env) (call : Call) (db : Db) :
    Continues env db call (stmt env call db).1 := by
  cases call with
  | generate roles now teamID userID input id digits =>
    rw [stmt]
    split
    · exact .returned ..
    · exact continues_proceed fun _ _ => .returned ..
  | update roles teamID keyID input stage =>
    cases stage with
    | reading =>
      refine continues_proceed fun db' hcheck => ?_
      obtain ⟨_, hok, _⟩ := map_eq_ok hcheck
      exact .updateWriting hok
    | writing => exact continues_proceed fun _ _ => .updateFetching ..
    | fetching => exact .returned ..
  | rotate teamID keyID digits stage =>
    cases stage with
    | reading => exact continues_proceed fun _ _ => .rotateWriting ..
    | writing => exact continues_proceed fun _ _ => .rotateFetching ..
    | fetching => exact .returned ..
  | revoke now teamID keyID userID stage =>
    cases stage with
    | reading => exact continues_proceed fun _ _ => .revokeWriting ..
    | writing => exact continues_proceed fun _ _ => .returned ..
    | fetching => exact .returned ..
  | bulkRevoke now teamID userID keyIDs =>
    rw [stmt]
    split
    · exact .returned ..
    split
    · exact .returned ..
    split
    · exact .bulkReport ..
    · exact .returned ..
  | bulkReport teamID userID keyIDs revoked => exact .bulkSkip ..
  | bulkSkip teamID userID keyIDs revoked seen skipped =>
    cases keyIDs with
    | nil => exact .returned ..
    | cons id keyIDs =>
      rw [stmt]
      split
      · exact .bulkSkip ..
      · exact .bulkSkip ..
  | _ => exact .returned ..

/-! ## Authentication -/

/-- Who is authenticated by a key has the scopes of a row with its hash that is not revoked. -/
theorem authenticate_ok {token : Bytes} {remoteIP : Bytes} {uc : UserContext}
    (h : authenticate env now db token remoteIP = .ok uc) :
    ∃ key ∈ db.keys, key.keyHash = env.hash token ∧ key.revokedAt = none ∧
      uc.apiKeyScopes = some key.scopes := by
  unfold authenticate at h
  split at h
  · cases h
  rename_i key hfind
  simp only [guard_eq_ok] at h
  obtain ⟨_, hrevoked, _, _, h⟩ := h
  split at h
  · cases h
  cases h
  exact ⟨key, List.mem_of_find?_eq_some hfind, by simpa using List.find?_some hfind,
    by simpa using hrevoked, rfl⟩

/-! ## Teams -/

/-- The id and the team of the key that a call creates. -/
def Call.place : Call → Option (UUID × UUID)
  | .generate _ _ teamID _ _ id _ => some (id, teamID)
  | _ => none

theorem Continues.place (h : Continues env db call next) : next.place = none := by
  cases h <;> rfl

open Interleaving

variable {ι : Type*} {calls : ι → Call}

/-- Every row has the id and the team that one of the calls gave it. -/
structure Placed (calls : ι → Call) (sys : System ι Call Db) : Prop where
  pending : ∀ i, (sys.procs i).place = none ∨ sys.procs i = calls i
  rows : ∀ key ∈ sys.shared.keys, ∃ i, (calls i).place = some (key.id, key.teamID)

variable [DecidableEq ι]

theorem Placed.step (sys : System ι Call Db) (i : ι) (h : Placed calls sys) :
    Placed calls (sys.step (stmt env) i) := by
  constructor
  · exact System.forall_step (P := fun j call => call.place = none ∨ call = calls j)
      h.pending (.inl (continues_stmt env (sys.procs i) sys.shared).place)
  · intro key hkey
    cases mem_stmt hkey with
    | kept hkey => exact h.rows key hkey
    | created name hcall hnew =>
      have hcalls := (h.pending i).resolve_left (hcall ▸ nofun)
      rw [hcall] at hcalls
      simp only [newKey, guard_eq_ok, bind_eq_ok] at hnew
      obtain ⟨_, _, _, _, _, _, _, _, hnew⟩ := hnew
      cases hnew
      exact ⟨i, by rw [← hcalls, Call.place]⟩
    | @updated _ _ _ old _ _ hold | @rotated _ _ old hold | @revoked old _ _ hold
      | @cleared old _ _ hold => exact h.rows old hold

/-- In every interleaving of calls, a key stays in the team that its `Generate` was called for. -/
theorem keys_stay_in_team (env : Auth.Env) (calls : ι → Call) (world : Auth.World)
    (schedule : List ι) : Placed calls (runCalls env calls world schedule) := by
  have hstart : Placed calls ⟨calls, ⟨world, .empty⟩⟩ :=
    ⟨fun _ => .inr rfl, fun key hkey => absurd hkey (Table.not_mem_empty key)⟩
  exact Trace.run_induct Placed.step hstart schedule

end BurnerByte.ApiKeys
