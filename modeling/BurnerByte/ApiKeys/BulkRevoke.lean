import BurnerByte.ApiKeys.Calls
import BurnerByte.Auth.Confinement

/-!
# What a bulk revocation reports

`BulkSoftRevoke` counts the rows that it revokes. It asks afterwards which ids it has skipped, when
the keys that it has just revoked look like keys that were revoked before. So as soon as an id is
skipped or listed twice, all of them are reported as skipped.
-/

namespace BurnerByte.ApiKeys

open Sql

/-- The id is that of a key of the team which is not revoked. -/
def Db.Unrevoked (db : Db) (teamID id : UUID) : Prop :=
  ∃ key ∈ db.keys, key.id = id ∧ key.teamID = teamID ∧ key.revokedAt = none
  deriving Decidable

/-- How many of the ids are those of such keys. -/
abbrev Db.unrevoked (db : Db) (teamID : UUID) (keyIDs : List UUID) : Nat :=
  (keyIDs.dedup.filter (db.Unrevoked teamID ·)).length

/-- A bulk revocation without other calls, for as many statements as it may have. -/
def bulkRevoke (env : Auth.Env) (db : Db) (now : Nat) (teamID userID : UUID) (keyIDs : List UUID) :
    Call × Db :=
  (fun p => stmt env p.1 p.2)^[keyIDs.length + 3] (.bulkRevoke now teamID userID keyIDs, db)

/-- The report counts the unrevoked keys of the team and lists the other ids, whose rows stay as
they are. With an error nothing is reported and nothing is changed. -/
def Partitions (db : Db) (teamID : UUID) (keyIDs : List UUID) : Call × Db → Prop
  | (.returned (.error _), db') => db' = db
  | (.returned (.ok (.revoked count skipped)), db') =>
    count = db.unrevoked teamID keyIDs ∧
      (∀ id, id ∈ skipped ↔ id ∈ keyIDs ∧ ¬ db.Unrevoked teamID id) ∧
      ∀ key, key.id ∈ skipped → (key ∈ db'.keys ↔ key ∈ db.keys)
  | _ => False

variable {env : Auth.Env} {db db' : Db} {now count : Nat} {teamID userID : UUID}
  {keyIDs : List UUID}

theorem revocable_iff {key : Key} : Db.revocable teamID keyIDs key = true ↔
    key.id ∈ keyIDs ∧ key.teamID = teamID ∧ key.revokedAt = none := by
  simp [Db.revocable, and_assoc]

theorem length_revocable : (db.keys.rows.filter (Db.revocable teamID keyIDs)).length =
    db.unrevoked teamID keyIDs := by
  rw [← List.length_map Key.id]
  refine ((List.perm_ext_iff_of_nodup (db.keys.unique.sublist (List.filter_sublist.map _))
    (keyIDs.nodup_dedup.filter _)).mpr fun id => ?_).length_eq
  simp only [List.mem_map, List.mem_filter, revocable_iff, List.mem_dedup, decide_eq_true_eq]
  constructor
  · rintro ⟨key, ⟨hkey, hid, hteam, hrevoked⟩, rfl⟩
    exact ⟨hid, key, hkey, rfl, hteam, hrevoked⟩
  · rintro ⟨hid, key, hkey, rfl, hteam, hrevoked⟩
    exact ⟨key, ⟨hkey, hid, hteam, hrevoked⟩, rfl⟩

theorem unrevoked_eq_zero_iff :
    db.unrevoked teamID keyIDs = 0 ↔ ∀ id ∈ keyIDs, ¬ db.Unrevoked teamID id := by
  simp [List.filter_eq_nil_iff]

theorem not_unrevoked_lt_iff : ¬ db.unrevoked teamID keyIDs < keyIDs.length ↔
    keyIDs.Nodup ∧ ∀ id ∈ keyIDs, db.Unrevoked teamID id := by
  have hfilter : db.unrevoked teamID keyIDs ≤ keyIDs.dedup.length := List.length_filter_le ..
  constructor
  · intro hall
    have hself := keyIDs.dedup_sublist.eq_of_length_le (by omega)
    have hunrevoked := List.length_filter_eq_length_iff.mp (hfilter.antisymm (by rw [hself]; omega))
    refine ⟨List.dedup_eq_self.mp hself, fun id hid => ?_⟩
    exact of_decide_eq_true (hunrevoked id (List.mem_dedup.mpr hid))
  · rintro ⟨hnodup, hunrevoked⟩
    rw [Nat.not_lt, Db.unrevoked, hnodup.dedup,
      List.filter_eq_self.mpr fun id hid => decide_eq_true (hunrevoked id hid)]

section

variable (h : db.bulkSoftRevoke teamID keyIDs userID now = .ok (count, db'))

include h

theorem bulkSoftRevoke_eq_ok :
    count = db.unrevoked teamID keyIDs ∧ (count = 0 ∨ db.hasUser userID = true) ∧
      ∀ key, key ∈ db'.keys ↔ ∃ old ∈ db.keys,
        (if Db.revocable teamID keyIDs old then old.revoke now userID else old) = key := by
  obtain ⟨huser, h⟩ := Outcome.guard_eq_ok.mp h
  cases h
  refine ⟨length_revocable, by simpa [or_iff_not_imp_left] using huser, fun _ => ?_⟩
  exact @Table.mem_updateWhere _ _ _ _ _ _ _ (Key.revoke_id now userID)

/-- After the update a listed key of the team is revoked, so the report finds it. -/
theorem reported_of_bulkSoftRevoke {id : UUID} (hid : id ∈ keyIDs) :
    ((db'.seen teamID keyIDs).contains id || !db'.existsRevokedBy id teamID userID) = true := by
  rw [Bool.or_eq_true, Bool.not_eq_true', ← Bool.not_eq_true, ← imp_iff_or_not]
  intro hexists
  obtain ⟨key, hkey, hmatch⟩ := List.any_eq_true.mp hexists
  simp only [Bool.and_eq_true, decide_eq_true_eq] at hmatch
  obtain ⟨⟨rfl, hteam⟩, _⟩ := hmatch
  have hrevoked : key.revokedAt ≠ none := by
    intro hnone
    obtain ⟨old, _, rfl⟩ := ((bulkSoftRevoke_eq_ok h).2.2 key).mp hkey
    split at hnone
    · cases hnone
    rename_i hkept
    rw [if_neg hkept] at hid hteam
    exact hkept (revocable_iff.mpr ⟨hid, hteam, hnone⟩)
  rw [List.contains_iff_mem]
  exact List.mem_map.mpr ⟨key, List.mem_filter.mpr
    ⟨hkey, by simp [hid, Option.isSome_iff_ne_none.mpr hrevoked]⟩, rfl⟩

theorem mem_keys_iff_of_not_unrevoked {key : Key} (hkey : ¬ db.Unrevoked teamID key.id) :
    key ∈ db'.keys ↔ key ∈ db.keys := by
  have hkept (old : Key) (hold : old ∈ db.keys) (hid : old.id = key.id) :
      Db.revocable teamID keyIDs old = false := by
    rw [Bool.eq_false_iff, Ne, revocable_iff]
    exact fun hrevocable => hkey ⟨old, hold, hid, hrevocable.2⟩
  rw [(bulkSoftRevoke_eq_ok h).2.2]
  constructor
  · rintro ⟨old, hold, rfl⟩
    rw [hkept old hold (by split <;> rfl)]
    exact hold
  · exact fun hmem => ⟨key, hmem, by rw [hkept key hmem rfl]; rfl⟩

end

theorem iterate_bulkSkip {seen : List UUID}
    (h : ∀ id ∈ keyIDs, (seen.contains id || !db.existsRevokedBy id teamID userID) = true)
    (skipped : List UUID) :
    (fun p => stmt env p.1 p.2)^[keyIDs.length + 1]
        (.bulkSkip teamID userID keyIDs count seen skipped, db) =
      (.returned (.ok (.revoked count (skipped ++ keyIDs))), db) := by
  induction keyIDs generalizing skipped with
  | nil =>
    rw [List.append_nil]
    rfl
  | cons id keyIDs ih =>
    rw [List.forall_mem_cons] at h
    rw [List.length_cons, Function.iterate_succ_apply, stmt, if_pos h.1, ih h.2,
      List.append_assoc, List.singleton_append]

theorem bulkRevoke_eq (hids : keyIDs ≠ [])
    (h : db.bulkSoftRevoke teamID keyIDs userID now = .ok (count, db')) :
    bulkRevoke env db now teamID userID keyIDs =
      (.returned (.ok (.revoked count (if count < keyIDs.length then keyIDs else []))), db') := by
  rw [bulkRevoke, Function.iterate_succ_apply, stmt, if_neg (by simpa using hids), h]
  dsimp only
  split
  · rw [Function.iterate_succ_apply, stmt,
      iterate_bulkSkip fun id hid => reported_of_bulkSoftRevoke h hid]
    rfl
  · exact Function.iterate_fixed rfl _

/-- The report of a bulk revocation is right exactly if none of the keys is revoked by it, or all
of them are and each is listed once. -/
theorem bulk_report_partitions_iff (env : Auth.Env) (db : Db) (now : Nat) (teamID userID : UUID)
    (keyIDs : List UUID) :
    Partitions db teamID keyIDs (bulkRevoke env db now teamID userID keyIDs) ↔
      db.hasUser userID = false ∨ (∀ id ∈ keyIDs, ¬ db.Unrevoked teamID id) ∨
        keyIDs.Nodup ∧ ∀ id ∈ keyIDs, db.Unrevoked teamID id := by
  by_cases hids : keyIDs = []
  · cases hids
    exact iff_of_true rfl (.inr (.inl (List.forall_mem_nil _)))
  rw [← unrevoked_eq_zero_iff, ← not_unrevoked_lt_iff]
  cases hsoft : db.bulkSoftRevoke teamID keyIDs userID now with
  | error msg =>
    have hcall : bulkRevoke env db now teamID userID keyIDs = (.returned (.error msg), db) := by
      rw [bulkRevoke, Function.iterate_succ_apply, stmt, if_neg (by simpa using hids), hsoft]
      exact Function.iterate_fixed rfl _
    have huser : db.hasUser userID = false := by
      by_contra huser
      simp [Db.bulkSoftRevoke, huser] at hsoft
    rw [hcall]
    exact iff_of_true rfl (.inl huser)
  | ok result =>
    obtain ⟨count, db'⟩ := result
    obtain ⟨rfl, huser, _⟩ := bulkSoftRevoke_eq_ok hsoft
    have hreport : Partitions db teamID keyIDs (bulkRevoke env db now teamID userID keyIDs) ↔
        ∀ id, id ∈ (if db.unrevoked teamID keyIDs < keyIDs.length then keyIDs else []) ↔
          id ∈ keyIDs ∧ ¬ db.Unrevoked teamID id := by
      rw [bulkRevoke_eq hids hsoft]
      refine ⟨fun h => h.2.1, fun h => ⟨rfl, h, fun key hskipped => ?_⟩⟩
      exact mem_keys_iff_of_not_unrevoked hsoft ((h key.id).mp hskipped).2
    rw [hreport]
    split
    · rename_i hlt
      simp only [iff_self_and, ← unrevoked_eq_zero_iff]
      rcases huser with hzero | huser
      · simp [hzero]
      · simp [huser, hlt]
    rename_i hall
    refine iff_of_true (fun id => ?_) (.inr (.inr hall))
    simpa using (not_unrevoked_lt_iff.mp hall).2 id

/-- Team 1 has key 5. -/
def sampleKeys : Db where
  world := Auth.sampleState.world
  keys := ⟨[⟨5, 1, some 1, "h", [], "ci", none, ["team.emails.view"], true, [], none, none, none⟩],
    by decide⟩

/-- With an id that is unknown, the revoked key is reported both as revoked and as skipped. -/
theorem revoked_key_reported_skipped :
    sampleKeys.Unrevoked 1 5 ∧
      (bulkRevoke Auth.sampleEnv sampleKeys 9 1 1 [5, 6]).1 =
        .returned (.ok (.revoked 1 [5, 6])) := by
  constructor
  · decide +kernel
  · rfl

end BurnerByte.ApiKeys
