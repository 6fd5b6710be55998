import BurnerByte.ApiKeys.Effects
import BurnerByte.Auth.Confinement

/-!
# Secrets that are no longer good

The secret of a key is only stored as a hash. `Generate` and `Rotate` draw one and write its hash
by one statement each, and no other statement sets a hash. A rotation or an update that has read
the row before it was revoked may still write it afterwards, but neither write clears the
revocation. So a secret stops to authenticate once its key is revoked or another secret has taken
its place, and no interleaving brings it back.
-/

namespace BurnerByte.ApiKeys

open Go Sql Interleaving

variable {env : Auth.Env} {ι : Type*}

/-! ## What the calls have drawn -/

/-- The secret that a call has drawn and not stored, with the id of its key. -/
def Call.secret : Call → Option (UUID × Bytes)
  | .generate _ _ _ _ _ id digits => some (id, rawKey digits)
  | .rotate _ keyID digits .reading => some (keyID, rawKey digits)
  | .rotate _ keyID digits .writing => some (keyID, rawKey digits)
  | _ => none

/-- The id that a call has drawn for a key and not stored. -/
def Call.creates : Call → Option UUID
  | .generate _ _ _ _ _ id _ => some id
  | _ => none

/-- No two calls draw the same secret or the same id, and the hashes of distinct secrets are
distinct. -/
structure Distinct (env : Auth.Env) (calls : ι → Call) : Prop where
  hashes : ∀ i j, ∀ s ∈ (calls i).secret, ∀ s' ∈ (calls j).secret,
    env.hash s.2 = env.hash s'.2 → s.2 = s'.2
  secrets : ∀ i j, ∀ s ∈ (calls i).secret, ∀ s' ∈ (calls j).secret, s.2 = s'.2 → i = j
  ids : ∀ i j, ∀ id ∈ (calls i).creates, id ∈ (calls j).creates → i = j

variable {sys : System ι Call Db} {raw : Bytes}

theorem Distinct.eq (h : Distinct env calls) {i j : ι} {s s' : UUID × Bytes}
    (hi : (calls i).secret = some s) (hj : (calls j).secret = some s')
    (hhash : env.hash s.2 = env.hash s'.2) : i = j :=
  h.secrets i j s hi s' hj (h.hashes i j s hi s' hj hhash)

namespace Continues

variable {db : Db} {call next : Call}

theorem secret (h : Continues env db call next) {s : UUID × Bytes}
    (hnext : next.secret = some s) : call.secret = some s := by
  cases h with
  | rotateWriting _ _ _ => exact hnext
  | _ => cases hnext

theorem secret_eq_none (h : Continues env db call next) (hcall : call.secret = none) :
    next.secret = none := by
  cases hnext : next.secret with
  | none => rfl
  | some s => rw [h.secret hnext] at hcall; cases hcall

theorem creates (h : Continues env db call next) : next.creates = none := by
  cases h with
  | _ => rfl

end Continues

/-! ## Where hashes and ids come from -/

namespace Writes

variable {db : Db} {call : Call} {key : Key}

/-- The hash of a row was there, or it is that of the secret that the call has drawn for it and
has stored now. -/
theorem hash (h : Writes env call db key) :
    (∃ old ∈ db.keys, old.id = key.id ∧ old.keyHash = key.keyHash) ∨
      ∃ raw, call.secret = some (key.id, raw) ∧ env.hash raw = key.keyHash ∧
        (stmt env call db).1.secret = none := by
  have hnext := continues_stmt env call db
  cases h with
  | kept hkey => exact .inl ⟨key, hkey, rfl, rfl⟩
  | @created _ _ _ _ _ _ digits _ _ hcall hnew =>
    obtain ⟨hid, hhash, _⟩ := newKey_ok hnew
    rw [hcall] at hnext ⊢
    generalize (stmt env _ db).1 = next at hnext ⊢
    refine .inr ⟨rawKey digits, by rw [Call.secret, hid], hhash.symm, ?_⟩
    cases hnext <;> rfl
  | @rotated _ digits old hold hcall =>
    rw [hcall] at hnext ⊢
    generalize (stmt env _ db).1 = next at hnext ⊢
    refine .inr ⟨rawKey digits, rfl, rfl, ?_⟩
    cases hnext <;> rfl
  | @updated _ _ _ old _ _ hold _ | @revoked old _ _ hold | @cleared old _ _ hold =>
    exact .inl ⟨old, hold, rfl, rfl⟩

/-- A row was there and is still revoked if it was, or the call has drawn its id. -/
theorem revocation (h : Writes env call db key) :
    (∃ old ∈ db.keys, old.id = key.id ∧
        (old.revokedAt.isSome = true → key.revokedAt.isSome = true)) ∨
      call.creates = some key.id := by
  cases h with
  | kept hkey => exact .inl ⟨key, hkey, rfl, id⟩
  | created name hcall hnew =>
    obtain ⟨hid, _⟩ := newKey_ok hnew
    right
    rw [hcall, Call.creates, hid]
  | @updated _ _ _ old _ _ hold _ | @rotated _ _ old hold _ => exact .inl ⟨old, hold, rfl, id⟩
  | @revoked old _ _ hold => exact .inl ⟨old, hold, rfl, fun _ => rfl⟩
  | @cleared old users now hold =>
    refine .inl ⟨old, hold, rfl, fun hrevoked => ?_⟩
    rw [Key.clear]
    dsimp only
    split
    · rfl
    · exact hrevoked

end Writes

/-! ## Runs -/

variable {calls : ι → Call}

/-- The calls store each what they have drawn, and every row comes from that. -/
structure Issued (env : Auth.Env) (calls : ι → Call) (sys : System ι Call Db) : Prop where
  drawn : ∀ i s, (sys.procs i).secret = some s → (calls i).secret = some s
  named : ∀ i id, (sys.procs i).creates = some id → (calls i).creates = some id
  stored : ∀ key ∈ sys.shared.keys, ∃ i raw, (calls i).secret = some (key.id, raw) ∧
    env.hash raw = key.keyHash ∧ (sys.procs i).secret = none
  created : ∀ key ∈ sys.shared.keys, ∃ i, (calls i).creates = some key.id ∧
    (sys.procs i).creates = none

/-- The key is revoked or gone, and no call is going to create it. -/
structure Revoked (keyID : UUID) (sys : System ι Call Db) : Prop where
  rows : ∀ key ∈ sys.shared.keys, key.id = keyID → key.revokedAt.isSome = true
  calls : ∀ i, (sys.procs i).creates ≠ some keyID

theorem Issued.revoked (h : Issued env calls sys) (hdistinct : Distinct env calls) {key : Key}
    (hkey : key ∈ sys.shared.keys) (hrevoked : key.revokedAt.isSome = true) :
    Revoked key.id sys := by
  constructor
  · intro other hother hid
    rwa [Table.eq_of_key_eq hother hkey hid]
  · intro i hi
    obtain ⟨j, hj, hcreated⟩ := h.created key hkey
    obtain rfl := hdistinct.ids i j key.id (h.named i _ hi) hj
    rw [hcreated] at hi
    cases hi

/-- The hash is gone, and no call is going to store it. -/
structure Replaced (env : Auth.Env) (keyHash : String) (sys : System ι Call Db) : Prop where
  rows : ∀ key ∈ sys.shared.keys, key.keyHash ≠ keyHash
  calls : ∀ i s, (sys.procs i).secret = some s → env.hash s.2 ≠ keyHash

section

variable [DecidableEq ι]

theorem Issued.step (sys : System ι Call Db) (i : ι) (h : Issued env calls sys) :
    Issued env calls (sys.step (stmt env) i) := by
  have hnext := continues_stmt env (sys.procs i) sys.shared
  constructor
  · refine System.forall_step (P := fun j (call : Call) => ∀ s, call.secret = some s →
      (calls j).secret = some s) h.drawn ?_
    intro s hs
    exact h.drawn i s (hnext.secret hs)
  · refine System.forall_step (P := fun j (call : Call) => ∀ id, call.creates = some id →
      (calls j).creates = some id) h.named ?_
    intro id hid
    rw [hnext.creates] at hid
    cases hid
  · intro key hkey
    rcases (mem_stmt hkey).hash with ⟨old, hold, hid, hhash⟩ | ⟨raw, hsecret, hhash, hstored⟩
    · obtain ⟨j, raw, hj, hraw, hstored⟩ := h.stored old hold
      refine ⟨j, raw, by rw [hj, hid], hraw.trans hhash, ?_⟩
      exact System.step_stable (P := fun call => call.secret = none)
        (fun call db => (continues_stmt env call db).secret_eq_none) hstored i
    · refine ⟨i, raw, h.drawn i _ hsecret, hhash, ?_⟩
      rwa [System.step_self]
  · intro key hkey
    rcases (mem_stmt hkey).revocation with ⟨old, hold, hid, _⟩ | hcreates
    · obtain ⟨j, hj, hcreated⟩ := h.created old hold
      refine ⟨j, by rw [hj, hid], ?_⟩
      exact System.step_stable (P := fun call => call.creates = none)
        (fun call db _ => (continues_stmt env call db).creates) hcreated i
    · refine ⟨i, h.named i _ hcreates, ?_⟩
      rw [System.step_self, hnext.creates]

theorem issued_runCalls (env : Auth.Env) (calls : ι → Call) (world : Auth.World)
    (schedule : List ι) : Issued env calls (runCalls env calls world schedule) := by
  have hstart : Issued env calls ⟨calls, ⟨world, .empty⟩⟩ :=
    ⟨fun _ _ h => h, fun _ _ h => h, fun key hkey => absurd hkey (Table.not_mem_empty key),
      fun key hkey => absurd hkey (Table.not_mem_empty key)⟩
  exact Trace.run_induct Issued.step hstart schedule

theorem Revoked.step {keyID : UUID} (sys : System ι Call Db) (i : ι) (h : Revoked keyID sys) :
    Revoked keyID (sys.step (stmt env) i) := by
  constructor
  · intro key hkey hid
    rcases (mem_stmt hkey).revocation with ⟨old, hold, hsame, hrevoked⟩ | hcreates
    · exact hrevoked (h.rows old hold (hsame.trans hid))
    · exact absurd (hid ▸ hcreates) (h.calls i)
  · refine System.forall_step (P := fun _ (call : Call) => call.creates ≠ some keyID) h.calls ?_
    rw [(continues_stmt env (sys.procs i) sys.shared).creates]
    nofun

theorem Replaced.step {keyHash : String} (sys : System ι Call Db) (i : ι)
    (h : Replaced env keyHash sys) : Replaced env keyHash (sys.step (stmt env) i) := by
  constructor
  · intro key hkey
    rcases (mem_stmt hkey).hash with ⟨old, hold, _, hhash⟩ | ⟨raw, hsecret, hhash, _⟩
    · rw [← hhash]
      exact h.rows old hold
    · rw [← hhash]
      exact h.calls i _ hsecret
  · refine System.forall_step (P := fun _ (call : Call) => ∀ s, call.secret = some s →
      env.hash s.2 ≠ keyHash) h.calls ?_
    intro s hs
    exact h.calls i s ((continues_stmt env (sys.procs i) sys.shared).secret hs)

/-- A rotation that is about to write replaces the hash of the row for good. -/
theorem Issued.replaced (h : Issued env calls sys)
    (hdistinct : Distinct env calls) {i : ι} {teamID : UUID} {digits : Bytes} {key : Key}
    (hcall : sys.procs i = .rotate teamID key.id digits .writing) (hkey : key ∈ sys.shared.keys) :
    Replaced env key.keyHash (sys.step (stmt env) i) := by
  obtain ⟨j, raw, hj, hraw, hstored⟩ := h.stored key hkey
  have hi : (calls i).secret = some (key.id, rawKey digits) := h.drawn i _ (by rw [hcall]; rfl)
  have hnew : env.hash (rawKey digits) ≠ key.keyHash := by
    intro hhash
    obtain rfl := hdistinct.eq hi hj (hhash.trans hraw.symm)
    rw [hcall] at hstored
    cases hstored
  constructor
  · intro key' hkey' hhash
    rcases (mem_stmt hkey').hash with ⟨old, hold, hid, hsame⟩ | ⟨raw', hsecret, hraw', _⟩
    · -- The hash belongs to one key only, so the row is the one that the rotation has written.
      obtain ⟨j', raw', hj', hraw', _⟩ := h.stored old hold
      obtain rfl := hdistinct.eq hj' hj (hraw'.trans (hsame.trans (hhash.trans hraw.symm)))
      rw [hj'] at hj
      have hkeyID : key'.id = key.id := hid.symm.trans (Prod.mk.inj (Option.some.inj hj)).1
      rw [System.step_shared, hcall] at hkey'
      exact hnew ((hash_of_rotate hkey' hkeyID).symm.trans hhash)
    · rw [hcall] at hsecret
      obtain ⟨_, rfl⟩ := Prod.mk.inj (Option.some.inj hsecret)
      exact hnew (hraw'.trans hhash)
  · intro j' s hs hhash
    obtain rfl := hdistinct.eq ((h.step sys i).drawn j' s hs) hj (hhash.trans hraw.symm)
    have hnone := System.step_stable (P := fun call => call.secret = none)
      (fun call db => (continues_stmt env call db).secret_eq_none) hstored i
    rw [hnone] at hs
    cases hs

end

/-! ## Never again -/

/-- Some request with the secret is authenticated. -/
def Accepts (env : Auth.Env) (db : Db) (raw : Bytes) : Prop :=
  ∃ now remoteIP uc, authenticate env now db raw remoteIP = .ok uc

theorem exists_row_of_accepts {db : Db} (h : Accepts env db raw) :
    ∃ key ∈ db.keys, key.keyHash = env.hash raw ∧ key.revokedAt = none := by
  obtain ⟨now, remoteIP, uc, huc⟩ := h
  obtain ⟨key, hkey, hhash, hrevoked, _⟩ := authenticate_ok huc
  exact ⟨key, hkey, hhash, hrevoked⟩

theorem Revoked.not_accepts (hissued : Issued env calls sys) (hdistinct : Distinct env calls)
    {keyID : UUID} (h : Revoked keyID sys) {i : ι} (hraw : (calls i).secret = some (keyID, raw)) :
    ¬ Accepts env sys.shared raw := by
  intro haccepts
  obtain ⟨key, hkey, hhash, hrevoked⟩ := exists_row_of_accepts haccepts
  obtain ⟨j, raw', hj, hraw', _⟩ := hissued.stored key hkey
  obtain rfl := hdistinct.eq hj hraw (hraw'.trans hhash)
  rw [hj] at hraw
  have hid : key.id = keyID := (Prod.mk.inj (Option.some.inj hraw)).1
  have hsome := h.rows key hkey hid
  rw [hrevoked] at hsome
  cases hsome

theorem Replaced.not_accepts {keyHash : String} (h : Replaced env keyHash sys)
    (hraw : env.hash raw = keyHash) : ¬ Accepts env sys.shared raw := by
  intro haccepts
  obtain ⟨key, hkey, hhash, _⟩ := exists_row_of_accepts haccepts
  exact h.rows key hkey (hhash.trans hraw)

/-- In every interleaving of calls on a table that is empty at first: once a key is revoked, no
secret that a call draws for it authenticates, and once a rotation has written, the secret whose
hash it found in the row does not. -/
theorem never_accepted_again [DecidableEq ι] (env : Auth.Env) (calls : ι → Call)
    (hdistinct : Distinct env calls) (world : Auth.World) (before after : List ι) :
    (∀ key ∈ (runCalls env calls world before).shared.keys, key.revokedAt.isSome = true →
        ∀ i raw, (calls i).secret = some (key.id, raw) →
          ¬ Accepts env (runCalls env calls world (before ++ after)).shared raw) ∧
      ∀ i teamID digits, ∀ key ∈ (runCalls env calls world before).shared.keys,
        (runCalls env calls world before).procs i = .rotate teamID key.id digits .writing →
        ∀ raw, env.hash raw = key.keyHash →
          ¬ Accepts env (runCalls env calls world (before ++ i :: after)).shared raw := by
  have hbefore := issued_runCalls env calls world before
  constructor
  · intro key hkey hrevoked i raw hraw
    have hlater : Revoked key.id (runCalls env calls world (before ++ after)) := by
      rw [runCalls, Trace.run_append]
      exact Trace.run_induct Revoked.step (hbefore.revoked hdistinct hkey hrevoked) after
    exact hlater.not_accepts (issued_runCalls env calls world (before ++ after)) hdistinct hraw
  · intro i teamID digits key hkey hcall raw hraw
    have hlater : Replaced env key.keyHash (runCalls env calls world (before ++ i :: after)) := by
      rw [runCalls, Trace.run_append, Trace.run_cons]
      exact Trace.run_induct Replaced.step (hbefore.replaced hdistinct hcall hkey) after
    exact hlater.not_accepts hraw

/-- A key is created, rotated and revoked. -/
def racingCalls : Fin 3 → Call
  | 0 =>
    .generate sampleRoles 0 1 1 ⟨⟨"ci", ["team.emails.view"], none, []⟩, none⟩ 5
      (List.replicate 64 48)
  | 1 => .rotate 1 5 (List.replicate 64 49) .reading
  | 2 => .revoke 7 1 5 1 .reading

/-- The rotation has read the row before it is revoked, and gives it a new secret afterwards. The
new secret is worth nothing. In another order, the rotation ends the first secret. -/
theorem rotation_after_revocation :
    (¬ Accepts Auth.sampleEnv
        (runCalls Auth.sampleEnv racingCalls Auth.sampleState.world [0, 1, 2, 2, 1, 1]).shared
        (rawKey (List.replicate 64 49))) ∧
      ¬ Accepts Auth.sampleEnv
        (runCalls Auth.sampleEnv racingCalls Auth.sampleState.world [0, 1, 1, 1]).shared
        (rawKey (List.replicate 64 48)) := by
  have hdistinct : Distinct Auth.sampleEnv racingCalls :=
    ⟨by decide +kernel, by decide +kernel, by decide +kernel⟩
  constructor
  · have hrevoked : ∃ key ∈ (runCalls Auth.sampleEnv racingCalls Auth.sampleState.world
        [0, 1, 2, 2]).shared.keys, key.revokedAt.isSome = true ∧ key.id = 5 := by decide +kernel
    obtain ⟨key, hkey, hsome, hid⟩ := hrevoked
    exact (never_accepted_again Auth.sampleEnv racingCalls hdistinct Auth.sampleState.world
      [0, 1, 2, 2] [1, 1]).1 key hkey hsome 1 _ (by rw [hid]; rfl)
  · have hstored : ∃ key ∈ (runCalls Auth.sampleEnv racingCalls Auth.sampleState.world
        [0, 1]).shared.keys, Auth.sampleEnv.hash (rawKey (List.replicate 64 48)) = key.keyHash ∧
          key.id = 5 := by decide +kernel
    obtain ⟨key, hkey, hhash, hid⟩ := hstored
    refine (never_accepted_again Auth.sampleEnv racingCalls hdistinct Auth.sampleState.world
      [0, 1] [1]).2 1 1 (List.replicate 64 49) key hkey ?_ _ hhash
    rw [hid]
    rfl

end BurnerByte.ApiKeys
