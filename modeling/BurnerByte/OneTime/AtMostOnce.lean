import BurnerByte.OneTime.Effects

/-!
# At most one request is honoured

Whatever the store, a credential is claimed by one statement, which finds it there and takes it
away. The transaction that verifies an address may give it back, and then another request finds
it. So a credential that is issued once is in one place, and at most one request ends with it. A
request that begins after the credential has expired does not find it, although a transaction
that has begun before may still do.
-/

namespace BurnerByte.OneTime

open Sql Expiring Interleaving

variable {ω : Type} {cfg : Config} {call : Call ω} {db : Db ω}

/-! ## Custody -/

namespace Db

def Absent (db : Db ω) : Credential → Prop
  | .redis kind token => db.redis kind token = none
  | .sql table tokenHash => ∀ t ∈ db.tokens table, t.tokenHash ≠ tokenHash

/-- No two rows have the hash. A key of Redis has one record. -/
def Single (db : Db ω) : Credential → Prop
  | .redis _ _ => True
  | .sql table tokenHash => ∀ t ∈ db.tokens table, ∀ t' ∈ db.tokens table,
    t.tokenHash = tokenHash → t'.tokenHash = tokenHash → t = t'

def Takeable (db : Db ω) : Credential → Prop
  | .redis kind token => db.redis kind token ≠ none
  | .sql table tokenHash =>
    ∃ t ∈ db.tokens table, t.tokenHash = tokenHash ∧ t.usedAt = none ∧ t.locked = false

theorem LiveFor.takeable {reading : Int} (h : db.LiveFor reading cred) : db.Takeable cred := by
  cases cred with
  | redis kind token =>
    obtain ⟨entry, hentry, _⟩ := h
    simp [Takeable, hentry]
  | sql table tokenHash =>
    obtain ⟨t, ht, hhash, hunused, hfree, _⟩ := h
    exact ⟨t, ht, hhash, hunused, hfree⟩

theorem Takeable.not_absent (h : db.Takeable cred) : ¬ db.Absent cred := by
  intro habsent
  cases cred with
  | redis kind token => exact h habsent
  | sql table tokenHash =>
    obtain ⟨t, ht, hhash, _⟩ := h
    exact habsent t ht hhash

end Db

variable {cred : Credential}

theorem absent_stmt (h : db.Absent cred) : (stmt cfg call db).2.Absent cred ∨
    call.issues cfg = some cred ∧ (stmt cfg call db).1.issues cfg = none := by
  cases cred with
  | redis kind token =>
    rcases redis_stmt cfg call db kind token with hsame | ⟨_, _, hnone⟩ | ⟨record, rfl, _⟩
    · exact .inl (hsame.trans h)
    · exact .inl hnone
    · exact .inr ⟨rfl, rfl⟩
  | sql table tokenHash =>
    by_cases hcall : ∃ t, call = .creating table t ∧ t.tokenHash = tokenHash ∧
        (stmt cfg call db).1 = .issued (.sql table t.tokenHash) (some t.expiresAt)
    · obtain ⟨t, rfl, rfl, hnext⟩ := hcall
      exact .inr ⟨rfl, by rw [hnext]; rfl⟩
    · left
      intro t ht hhash
      rcases (mem_tokens_stmt ht).origin with ⟨hcreating, hnext⟩ | ⟨old, hold, _, hkept, _⟩
      · exact hcall ⟨t, hcreating, hhash, hnext⟩
      · exact h old hold (hkept.trans hhash)

theorem single_stmt (h : db.Single cred) :
    (stmt cfg call db).2.Single cred ∨ call.issues cfg = some cred := by
  cases cred with
  | redis kind token => exact .inl trivial
  | sql table tokenHash =>
    by_cases hcall : call.issues cfg = some (.sql table tokenHash)
    · exact .inr hcall
    have origin : ∀ t ∈ (stmt cfg call db).2.tokens table, t.tokenHash = tokenHash →
        ∃ old ∈ db.tokens table, old.id = t.id ∧ old.tokenHash = tokenHash := by
      intro t ht hhash
      rcases (mem_tokens_stmt ht).origin with ⟨rfl, _⟩ | ⟨old, hold, hid, hkept, _⟩
      · exact absurd (by rw [Call.issues, hhash]) hcall
      · exact ⟨old, hold, hid, hkept.trans hhash⟩
    left
    intro t ht t' ht' hhash hhash'
    obtain ⟨old, hold, hid, hoh⟩ := origin t ht hhash
    obtain ⟨old', hold', hid', hoh'⟩ := origin t' ht' hhash'
    obtain rfl := h old hold old' hold' hoh hoh'
    exact Table.eq_of_key_eq ht ht' (hid.symm.trans hid')

theorem single_stmt_of_absent (h : db.Absent cred) : (stmt cfg call db).2.Single cred := by
  cases cred with
  | redis kind token => trivial
  | sql table tokenHash =>
    have created : ∀ t ∈ (stmt cfg call db).2.tokens table, t.tokenHash = tokenHash →
        call = .creating table t := by
      intro t ht hhash
      rcases (mem_tokens_stmt ht).origin with ⟨hcall, _⟩ | ⟨old, hold, _, hkept, _⟩
      · exact hcall
      · exact absurd (hkept.trans hhash) (h old hold)
    intro t ht t' ht' hhash hhash'
    have hsame := (created t ht hhash).symm.trans (created t' ht' hhash')
    exact (Call.creating.inj hsame).2

theorem takeable_stmt (h : (stmt cfg call db).2.Takeable cred) : db.Takeable cred ∨
    (call.issues cfg = some cred ∧ (stmt cfg call db).1.issues cfg = none) ∨
    (call.claims = some cred ∧ (stmt cfg call db).1.claims = none) := by
  cases cred with
  | redis kind token =>
    rcases redis_stmt cfg call db kind token with hsame | ⟨_, _, hnone⟩ | ⟨record, rfl, _⟩
    · exact .inl (by rwa [Db.Takeable, hsame] at h)
    · exact absurd hnone h
    · exact .inr (.inl ⟨rfl, rfl⟩)
  | sql table tokenHash =>
    obtain ⟨t, ht, rfl, hunused, hfree⟩ := h
    cases mem_tokens_stmt ht with
    | kept ht => exact .inl ⟨t, ht, rfl, hunused, hfree⟩
    | created hcall hnext =>
      refine .inr (.inl ⟨?_, by rw [hnext]; rfl⟩)
      rw [hcall, Call.issues]
    | locked ht => cases hfree
    | unlocked ht hcall hnext => exact .inr (.inr ⟨hcall, hnext⟩)
    | _ => cases hunused

/-- The row that a statement finds was the only copy, and the update makes it useless to others. -/
theorem not_takeable_updateWhere {table : TokenTable} {tokenHash : String} {reading : Int}
    {f : Token → Token} {hid : ∀ t, (f t).id = t.id} {t : Token}
    (hsingle : db.Single (.sql table tokenHash))
    (hfree : db.waits table (Token.consumable tokenHash reading) = false)
    (hfind : (db.tokens table).rows.find? (Token.consumable tokenHash reading) = some t)
    (hf : ∀ t, (f t).usedAt = none → (f t).locked = true) :
    ¬ (db.setTokens table ((db.tokens table).updateWhere (Token.consumable tokenHash reading) f
      hid)).Takeable (.sql table tokenHash) := by
  rintro ⟨t', ht', hhash, hunused, hunlocked⟩
  rcases mem_updateWhere ht' with ⟨hold, hnot⟩ | ⟨_, old, _, _, rfl⟩
  · obtain rfl := hsingle t (List.mem_of_find?_eq_some hfind) t' hold
      (liveFor_of_find? hfree hfind).1 hhash
    cases (List.find?_some hfind).symm.trans (hnot rfl)
  · rw [hf old hunused] at hunlocked
    cases hunlocked

/-- Whoever claims the credential leaves no copy that could be claimed. -/
theorem not_takeable_stmt (hsingle : db.Single cred) (hcall : call.seeks cfg = some cred)
    (hnext : (stmt cfg call db).1.claims = some cred) : ¬ (stmt cfg call db).2.Takeable cred := by
  cases call with
  | consume kind token act =>
    cases hcall
    simp [Db.Takeable, stmt_consume, Db.setRedis, Store.del]
  | resetPassword token act | verifying token act begun =>
    cases hcall
    revert hnext
    refine unlessWaiting_induct (P := fun r => r.1.claims = some _ → ¬ r.2.Takeable _)
      (fun hnext => by cases hnext) fun hfree => ?_
    split
    · intro hnext
      cases hnext
    rename_i t hfind
    intro _
    refine not_takeable_updateWhere hsingle hfree hfind fun _ hunused => ?_
    first | rfl | cases hunused
  | verifyEmail token act => cases hnext
  | _ => cases hcall

/-- Where a credential is. -/
def custody (cfg : Config) (cred : Credential) : Custody (Call ω) (Db ω) where
  issues call := call.issues cfg = some cred
  claims call := call.claims = some cred
  absent db := db.Absent cred
  single db := db.Single cred
  takeable db := db.Takeable cred

theorem custody_moves (cfg : Config) (cred : Credential) :
    (custody cfg cred).Moves (stmt (ω := ω) cfg) where
  issues call db h := (continues_stmt cfg call db).issues h
  absent call db h := by
    rcases absent_stmt h with habsent | ⟨hcall, hnext⟩
    · exact .inl habsent
    · exact .inr ⟨hcall, by simp [custody, hnext]⟩
  single _ _ := single_stmt
  single_of_absent _ _ := single_stmt_of_absent
  not_absent _ := Db.Takeable.not_absent
  claims call db h := by
    rcases (continues_stmt cfg call db).claims h with hcall | ⟨_, hlive⟩
    · exact .inl hcall
    · exact .inr hlive.takeable
  taken call db hsingle hnext hcall := by
    rcases (continues_stmt cfg call db).claims hnext with hclaims | ⟨hseeks, _⟩
    · exact absurd hclaims hcall
    · exact not_takeable_stmt hsingle hseeks hnext
  takeable call db h := by
    rcases takeable_stmt h with hbefore | ⟨hcall, hnext⟩ | ⟨hcall, hnext⟩
    · exact .inl hbefore
    · exact .inr (.inl ⟨hcall, by simp [custody, hnext]⟩)
    · exact .inr (.inr ⟨hcall, by simp [custody, hnext]⟩)

theorem Call.claims_of_isFresh (h : call.isFresh = true) : call.claims = none := by
  cases call with
  | verified _ _ _ | invalidating _ _ | accepted _ _ | honoured _ _ => cases h
  | _ => rfl

theorem Call.seeks_eq_presents (h : call.isFresh = true) :
    call.seeks cfg = call.presents cfg := by
  cases call with
  | verifying _ _ _ => cases h
  | _ => rfl

section

variable {ι : Type*} [DecidableEq ι] {calls : ι → Call ω} {users : List UUID} {world : ω}
  (hfresh : ∀ i, (calls i).isFresh = true)

include hfresh

/-- What a request has claimed is what it has presented. -/
theorem claims_of_isHonoured {i : ι} (hi : (calls i).presents cfg = some cred) {schedule : List ι}
    (h : ((runCalls cfg calls users world schedule).procs i).isHonoured = true) :
    ((runCalls cfg calls users world schedule).procs i).claims = some cred := by
  have hstart : (calls i).Concerns cfg cred := by
    rintro c (hseeks | hclaims)
    · rw [Call.seeks_eq_presents (hfresh i), hi] at hseeks
      exact (Option.some.inj hseeks).symm
    · rw [Call.claims_of_isFresh (hfresh i)] at hclaims
      cases hclaims
  have hconcerns : ((runCalls cfg calls users world schedule).procs i).Concerns cfg cred :=
    System.run_stable (fun call db => (continues_stmt cfg call db).concerns) hstart schedule
  cases hproc : (runCalls cfg calls users world schedule).procs i with
  | honoured c err | invalidating c userID =>
    rw [hproc] at hconcerns
    rw [Call.claims, hconcerns c (.inr rfl)]
  | _ =>
    rw [hproc] at h
    cases h

/-- A credential that one request issues is in one place. -/
theorem inOnePlace_runCalls (hissue : ∀ i j, (calls i).issues cfg = some cred →
    (calls j).issues cfg = some cred → i = j) (schedule : List ι) :
    (custody cfg cred).InOnePlace (runCalls cfg calls users world schedule) := by
  have hnone : ∀ i, ¬ (custody (ω := ω) cfg cred).claims (calls i) := by
    intro i hclaims
    have hfalse := (Call.claims_of_isFresh (hfresh i)).symm.trans hclaims
    cases hfalse
  refine .run (custody_moves cfg cred) ?_ schedule
  constructor
  · exact hissue
  · intro _ _
    cases cred with
    | redis kind token => rfl
    | sql table tokenHash => exact fun t ht => absurd ht (Table.not_mem_empty t)
  · cases cred with
    | redis kind token => trivial
    | sql table tokenHash => exact fun t ht => absurd ht (Table.not_mem_empty t)
  · exact fun i _ hi => absurd hi (hnone i)
  · exact fun i hi => absurd hi (hnone i)
  · exact fun i _ hi => absurd hi (hnone i)

end

/-! ## Expiry -/

/-- The store has a copy of the credential that expires then, or never. -/
def Db.HasCopy (db : Db ω) (expiresAt : Option Int) : Credential → Prop
  | .redis kind token => ∃ entry, db.redis kind token = some entry ∧ entry.deadline = expiresAt
  | .sql table tokenHash =>
    ∃ t ∈ db.tokens table, t.tokenHash = tokenHash ∧ some t.expiresAt = expiresAt

theorem Db.LiveFor.hasCopy {reading : Int} (h : db.LiveFor reading cred) :
    ∃ expiresAt, db.HasCopy expiresAt cred ∧ ∀ time, expiresAt = some time → reading < time := by
  cases cred with
  | redis kind token =>
    obtain ⟨entry, hentry, hlive⟩ := h
    refine ⟨entry.deadline, ⟨entry, hentry, rfl⟩, fun time htime => ?_⟩
    simpa [Entry.live, htime] using hlive
  | sql table tokenHash =>
    obtain ⟨t, ht, hhash, _, _, hlt⟩ := h
    refine ⟨some t.expiresAt, ⟨t, ht, hhash, rfl⟩, fun time htime => ?_⟩
    cases htime
    exact hlt

/-- A copy was there before the statement, or is issued by it. -/
theorem hasCopy_stmt {expiresAt : Option Int} (h : (stmt cfg call db).2.HasCopy expiresAt cred) :
    db.HasCopy expiresAt cred ∨ call.issues cfg = some cred ∧
      (stmt cfg call db).1 = .issued cred expiresAt := by
  cases cred with
  | redis kind token =>
    obtain ⟨entry, hentry, hdeadline⟩ := h
    rcases redis_stmt cfg call db kind token with hsame | ⟨_, _, hnone⟩ | ⟨record, rfl, hnew⟩
    · exact .inl ⟨entry, hsame.symm.trans hentry, hdeadline⟩
    · rw [hnone] at hentry
      cases hentry
    · cases hnew.symm.trans hentry
      exact .inr ⟨rfl, by rw [← hdeadline, stmt]⟩
  | sql table tokenHash =>
    obtain ⟨t, ht, rfl, rfl⟩ := h
    rcases (mem_tokens_stmt ht).origin with ⟨rfl, hnext⟩ | ⟨old, hold, _, hhash, hexpires⟩
    · exact .inr ⟨rfl, hnext⟩
    · exact .inl ⟨old, hold, hhash, by rw [hexpires]⟩

theorem now_le_stmt (cfg : Config) (call : Call ω) (db : Db ω) :
    db.now ≤ (stmt cfg call db).2.now := by
  cases call with
  | store kind token record => exact Int.le_refl _
  | consume kind token act =>
    rw [stmt_consume]
    exact Int.le_refl _
  | _ => exact (elapses_stmt (by simp) (by simp)).2

section

variable {ι : Type*} {calls : ι → Call ω}

/-- Every copy of the credential is one that a request has issued. -/
structure Accounted (cfg : Config) (cred : Credential) (calls : ι → Call ω)
    (sys : System ι (Call ω) (Db ω)) : Prop where
  issuing : ∀ j, (sys.procs j).issues cfg = some cred → (calls j).issues cfg = some cred
  issued : ∀ j expiresAt, sys.procs j = .issued cred expiresAt →
    (calls j).issues cfg = some cred ∧ ((∀ kind, 0 < cfg.redisTTL kind) → expiresAt ≠ none)
  copies : ∀ expiresAt, sys.shared.HasCopy expiresAt cred →
    ∃ j, sys.procs j = .issued cred expiresAt

/-- The credential has expired, and the request that presents it reads a time after that. -/
structure Late (cfg : Config) (cred : Credential) (expiresAt : Int) (i : ι)
    (sys : System ι (Call ω) (Db ω)) : Prop where
  passed : expiresAt ≤ sys.shared.now
  copies : ∀ time, sys.shared.HasCopy time cred → time = some expiresAt
  not_issuing : ∀ j, (sys.procs j).issues cfg ≠ some cred
  reading : expiresAt ≤ (sys.procs i).reading sys.shared
  not_claiming : (sys.procs i).claims ≠ some cred

variable {sys : System ι (Call ω) (Db ω)}

/-- Once the credential has expired, a request that has not claimed it is late. -/
theorem Accounted.late (h : Accounted cfg cred calls sys)
    (hissue : ∀ i j, (calls i).issues cfg = some cred → (calls j).issues cfg = some cred → i = j)
    {expiresAt : Int} {i j : ι} (hj : sys.procs j = .issued cred (some expiresAt))
    (hpassed : expiresAt ≤ sys.shared.now) (hclaims : (sys.procs i).claims = none)
    (hbegun : ∀ token act begun, sys.procs i = .verifying token act begun → expiresAt ≤ begun) :
    Late cfg cred expiresAt i sys where
  passed := hpassed
  copies time hcopy := by
    obtain ⟨k, hk⟩ := h.copies time hcopy
    obtain rfl := hissue k j (h.issued k _ hk).1 (h.issued j _ hj).1
    exact (Call.issued.inj (hk.symm.trans hj)).2
  not_issuing k hk := by
    obtain rfl := hissue k j (h.issuing k hk) (h.issued j _ hj).1
    rw [hj] at hk
    cases hk
  reading := by
    cases hproc : sys.procs i with
    | verifying token act begun => exact hbegun token act begun hproc
    | _ => exact hpassed
  not_claiming := by
    rw [hclaims]
    simp

variable [DecidableEq ι]

theorem Accounted.step (h : Accounted cfg cred calls sys) (i : ι) :
    Accounted cfg cred calls (sys.step (stmt cfg) i) := by
  constructor
  · refine System.forall_step
      (P := fun j (call : Call ω) => call.issues cfg = some cred → (calls j).issues cfg = some cred)
      h.issuing fun hnext => ?_
    exact h.issuing i ((continues_stmt cfg _ _).issues hnext)
  · refine System.forall_step
      (P := fun j (call : Call ω) => ∀ expiresAt, call = .issued cred expiresAt →
        (calls j).issues cfg = some cred ∧ ((∀ kind, 0 < cfg.redisTTL kind) → expiresAt ≠ none))
      h.issued fun expiresAt hnext => ?_
    have hcontinues := continues_stmt cfg (sys.procs i) sys.shared
    rw [hnext] at hcontinues
    rcases hcontinues.issued_inv with hbefore | ⟨hissues, hdated⟩
    · exact h.issued i expiresAt hbefore
    · exact ⟨h.issuing i hissues, hdated⟩
  · intro expiresAt hcopy
    rcases hasCopy_stmt hcopy with hbefore | ⟨_, hnext⟩
    · obtain ⟨j, hj⟩ := h.copies expiresAt hbefore
      have hstays : ∀ call (db : Db ω), call = Call.issued cred expiresAt →
          (stmt cfg call db).1 = .issued cred expiresAt := by
        rintro _ _ rfl
        rfl
      exact ⟨j, System.step_stable hstays hj i⟩
    · exact ⟨i, by rw [System.step_self, hnext]⟩

theorem Late.step {expiresAt : Int} {i : ι} (h : Late cfg cred expiresAt i sys) (k : ι) :
    Late cfg cred expiresAt i (sys.step (stmt cfg) k) := by
  have hnow := now_le_stmt cfg (sys.procs k) sys.shared
  constructor
  · exact Int.le_trans h.passed hnow
  · intro time hcopy
    rcases hasCopy_stmt hcopy with hbefore | ⟨hissues, _⟩
    · exact h.copies time hbefore
    · exact absurd hissues (h.not_issuing k)
  · intro j hissues
    exact h.not_issuing j ((custody_moves cfg cred).issues_step hissues)
  · by_cases hik : i = k
    · subst hik
      rw [System.step_self]
      exact (continues_stmt cfg _ _).reading_le hnow h.passed h.reading
    rw [System.step_other sys hik]
    have hstill : Continues cfg sys.shared (sys.procs i) (sys.procs i) := .still _
    exact hstill.reading_le hnow h.passed h.reading
  · by_cases hik : i = k
    · subst hik
      rw [System.step_self]
      intro hclaims
      rcases (continues_stmt cfg _ _).claims hclaims with hbefore | ⟨_, hlive⟩
      · exact h.not_claiming hbefore
      -- the copy it has found expires no later than the time it has read
      obtain ⟨time, hcopy, hlt⟩ := hlive.hasCopy
      exact absurd (hlt expiresAt (h.copies time hcopy)) (Int.not_lt.mpr h.reading)
    · rw [System.step_other sys hik]
      exact h.not_claiming

theorem Accounted.run (hfresh : ∀ i, (calls i).isFresh = true) (users : List UUID) (world : ω)
    (schedule : List ι) : Accounted cfg cred calls (runCalls cfg calls users world schedule) := by
  refine Trace.run_induct (fun _ i h => h.step i) ?_ schedule
  constructor
  · exact fun j hj => hj
  · intro j expiresAt hj
    have hissued := hfresh j
    rw [show calls j = _ from hj] at hissued
    cases hissued
  · intro expiresAt hcopy
    cases cred with
    | redis kind token =>
      obtain ⟨entry, hentry, _⟩ := hcopy
      cases hentry
    | sql table tokenHash =>
      obtain ⟨t, ht, _⟩ := hcopy
      exact absurd ht (Table.not_mem_empty t)

end

/-- Any number of requests run concurrently, and one of them issues the credential. At most one of
those that present it is honoured. None is that has not claimed it when it expires, unless it is a
verification in a transaction that has begun before. -/
theorem honoured_at_most_once {ι : Type*} [DecidableEq ι] (cfg : Config) (cred : Credential)
    (calls : ι → Call ω) (users : List UUID) (world : ω) (hfresh : ∀ i, (calls i).isFresh = true)
    (hissue : ∀ i j, (calls i).issues cfg = some cred → (calls j).issues cfg = some cred → i = j)
    (hpositive : ∀ kind, 0 < cfg.redisTTL kind) :
    (∀ schedule i j, (calls i).presents cfg = some cred → (calls j).presents cfg = some cred →
      ((runCalls cfg calls users world schedule).procs i).isHonoured = true →
      ((runCalls cfg calls users world schedule).procs j).isHonoured = true → i = j) ∧
    ∀ before after j time,
      (runCalls cfg calls users world before).procs j = .issued cred time →
      ∃ expiresAt, time = some expiresAt ∧
        (expiresAt ≤ (runCalls cfg calls users world before).shared.now →
          ∀ i, (calls i).presents cfg = some cred →
            ((runCalls cfg calls users world before).procs i).claims = none →
            (∀ token act begun, (runCalls cfg calls users world before).procs i =
              .verifying token act begun → expiresAt ≤ begun) →
            ((runCalls cfg calls users world (before ++ after)).procs i).isHonoured = false) := by
  constructor
  · intro schedule i j hi hj hdone hdone'
    exact (inOnePlace_runCalls hfresh hissue schedule).claimant i j
      (claims_of_isHonoured hfresh hi hdone) (claims_of_isHonoured hfresh hj hdone')
  · intro before after j time hj
    have haccounted : Accounted cfg cred calls (runCalls cfg calls users world before) :=
      .run hfresh users world before
    obtain ⟨expiresAt, rfl⟩ := Option.ne_none_iff_exists'.mp
      ((haccounted.issued j time hj).2 hpositive)
    refine ⟨expiresAt, rfl, fun hpassed i hi hclaims hbegun => ?_⟩
    have hlate := Trace.run_induct (fun _ k h => h.step k)
      (haccounted.late hissue hj hpassed hclaims hbegun) after
    rw [Bool.eq_false_iff]
    intro hdone
    have hclaimed := claims_of_isHonoured hfresh hi hdone
    rw [runCalls, Trace.run_append] at hclaimed
    exact hlate.not_claiming hclaimed

def sampleConfig : Config where
  redisTTL _ := 5
  passwordResetTTL := 5
  emailVerificationTTL := 5
  hashToken token := token

/-- Two requests with one ticket, and another after it has expired. The world is the list of the
users that have been let in. -/
def ticketCalls : Fin 5 → Call (List UUID)
  | 0 => .store .wsTicket "ticket" (7 : UUID)
  | 1 | 2 | 3 => .withTicket "ticket" fun userID seen => (none, userID :: seen)
  | 4 => .tick 6

theorem second_ticket_refused :
    ((runCalls sampleConfig ticketCalls [] [] [0, 1, 1, 2, 2]).procs 1).isHonoured = true ∧
    ((runCalls sampleConfig ticketCalls [] [] [0, 1, 1, 2, 2]).procs 2).isHonoured ≠ true ∧
    ((runCalls sampleConfig ticketCalls [] [] ([0, 4] ++ [3, 3])).procs 3).isHonoured = false := by
  have hlaw := honoured_at_most_once sampleConfig (.redis .wsTicket "ticket") ticketCalls [] []
    (by decide) (by decide) (fun kind => by cases kind <;> decide)
  have hfirst : ((runCalls sampleConfig ticketCalls [] [] [0, 1, 1, 2, 2]).procs 1).isHonoured =
      true := by decide
  refine ⟨hfirst, fun hsecond => ?_, ?_⟩
  · have hsame := hlaw.1 [0, 1, 1, 2, 2] 1 2 rfl rfl hfirst hsecond
    revert hsame
    decide
  · obtain ⟨expiresAt, htime, hlate⟩ := hlaw.2 [0, 4] [3, 3] 0 (some 5) rfl
    cases htime
    exact hlate (by decide) 3 rfl rfl (fun _ _ _ hproc => by cases hproc)

def verificationCalls : Fin 3 → Call (List UUID)
  | 0 => .register 7 "token" 1
  | 1 => .verifyEmail "token" fun t seen => .ok (t.userID :: seen)
  | 2 => .tick 6

/-- The transaction begins at time 0, and the token expires at time 5. The transaction consumes it
at time 6. -/
theorem verified_after_expiry :
    (∀ i, (verificationCalls i).isFresh = true) ∧
    (∀ i, (verificationCalls i).issues sampleConfig = some (.sql .emailVerification "token") →
      i = 0) ∧
    (verificationCalls 1).presents sampleConfig = some (.sql .emailVerification "token") ∧
    (runCalls sampleConfig verificationCalls [] [] [0, 0, 1, 2]).procs 0 =
      .issued (.sql .emailVerification "token") (some 5) ∧
    5 < (runCalls sampleConfig verificationCalls [] [] [0, 0, 1, 2]).shared.now ∧
    ((runCalls sampleConfig verificationCalls [] [] [0, 0, 1, 2]).procs 1).claims = none ∧
    ((runCalls sampleConfig verificationCalls [] [] ([0, 0, 1, 2] ++ [1, 1])).procs 1).isHonoured =
      true := by
  refine ⟨by decide, by decide, rfl, rfl, by decide, rfl, by decide⟩

end BurnerByte.OneTime
