import BurnerByte.OneTime.Requests

/-!
# What statements do to credentials

A record in Redis is written by one command and deleted by another. A row of a token keeps its
hash and its expiry, and is marked as used, locked or unlocked. A request claims the credential it
has presented by one statement, which finds a copy that is good by the time it reads.
-/

namespace BurnerByte.OneTime

open Sql Expiring

variable {ω : Type} {cfg : Config} {call : Call ω} {db : Db ω}

/-! ## Statements -/

/-- The credential that a request has claimed. -/
def Call.claims : Call ω → Option Credential
  | .verified t _ _ => some (.sql .emailVerification t.tokenHash)
  | .invalidating cred _ | .accepted cred _ | .honoured cred _ => some cred
  | _ => none

variable {table table' : TokenTable} {p : Token → Bool} {t : Token}

theorem unlessWaiting_induct {P : Call ω × Db ω → Prop} {next : Call ω × Db ω}
    (hwaits : P (call, db)) (hnext : db.waits table p = false → P next) :
    P (unlessWaiting db table p call next) := by
  unfold unlessWaiting
  split
  · exact hwaits
  rename_i hfree
  exact hnext (by simpa using hfree)

theorem mem_setTokens {tokens : Table Token UUID Token.id} :
    t ∈ (db.setTokens table tokens).tokens table' ↔
      table' = table ∧ t ∈ tokens ∨ table' ≠ table ∧ t ∈ db.tokens table' := by
  by_cases h : table' = table
  · subst h
    simp [Db.setTokens]
  · simp [Db.setTokens, h]

theorem create_eq_some {db' : Db ω} (h : db.create table t = some db') :
    ∃ tokens, (db.tokens table).insert t = some tokens ∧ db' = db.setTokens table tokens := by
  unfold Db.create at h
  split at h
  · cases h
  split at h
  · cases h
  obtain ⟨tokens, hinsert, rfl⟩ := Option.map_eq_some_iff.mp h
  exact ⟨tokens, hinsert, rfl⟩

/-- The time does not go back, and the records in Redis stay as they are. -/
def Db.Elapses (db db' : Db ω) : Prop := db'.redis = db.redis ∧ db.now ≤ db'.now

theorem Db.Elapses.refl (db : Db ω) : db.Elapses db := ⟨rfl, Int.le_refl _⟩

/-- A statement other than those on Redis leaves Redis alone. -/
theorem elapses_stmt (hstore : ∀ kind token record, call ≠ .store kind token record)
    (hconsume : ∀ kind token act, call ≠ .consume kind token act) :
    db.Elapses (stmt cfg call db).2 := by
  cases call with
  | store kind token record => exact absurd rfl (hstore kind token record)
  | consume kind token act => exact absurd rfl (hconsume kind token act)
  | tick elapsed => exact ⟨rfl, Int.le_add_of_nonneg_right (Int.natCast_nonneg elapsed)⟩
  | creating table t =>
    rw [stmt]
    split
    · exact .refl db
    rename_i db' hcreate
    obtain ⟨tokens, _, rfl⟩ := create_eq_some hcreate
    exact .refl db
  | resetPassword token act | verifying token act begun =>
    refine unlessWaiting_induct (P := fun r => db.Elapses r.2) (.refl db) fun _ => ?_
    split <;> exact .refl db
  | forgotPassword userID token id | invalidating cred userID | deleteExpired table =>
    exact unlessWaiting_induct (P := fun r => db.Elapses r.2) (.refl db) fun _ => .refl db
  | verified t act begun | peek token | deleteUser userID =>
    rw [stmt]
    split <;> exact .refl db
  | _ => exact .refl db

/-- The record is gone, whether it is accepted or not. -/
theorem stmt_consume (kind : Kind) (token : String) (act : kind.Record → ω → Option String × ω) :
    (stmt cfg (.consume kind token act) db).2 = db.setRedis kind ((db.redis kind).del token) := by
  rw [stmt, Db.getDel]
  split <;> rename_i heq <;> exact (Prod.mk.inj heq).2.symm

/-- What a statement leaves of a record in Redis. -/
theorem redis_stmt (cfg : Config) (call : Call ω) (db : Db ω) (kind : Kind) (token : String) :
    (stmt cfg call db).2.redis kind token = db.redis kind token ∨
      (∃ act, call = .consume kind token act ∧ (stmt cfg call db).2.redis kind token = none) ∨
      ∃ record, call = .store kind token record ∧ (stmt cfg call db).2.redis kind token =
        some ⟨record, deadline db.now (cfg.ttl kind)⟩ := by
  cases call with
  | store kind' token' record =>
    by_cases hkind : kind = kind'
    · subst hkind
      by_cases htoken : token = token'
      · subst htoken
        refine .inr (.inr ⟨record, rfl, ?_⟩)
        simp [stmt, Db.set, Db.setRedis, Store.set_self]
      · left
        simp [stmt, Db.set, Db.setRedis, Store.set_of_ne _ _ _ htoken]
    · left
      simp [stmt, Db.set, Db.setRedis, Function.update_of_ne hkind]
  | consume kind' token' act =>
    rw [stmt_consume]
    by_cases hkind : kind = kind'
    · subst hkind
      by_cases htoken : token = token'
      · subst htoken
        refine .inr (.inl ⟨act, rfl, ?_⟩)
        simp [Db.setRedis, Store.del]
      · left
        simp [Db.setRedis, Store.del, htoken]
    · left
      simp [Db.setRedis, Function.update_of_ne hkind]
  | _ => exact .inl (by rw [(elapses_stmt (by simp) (by simp)).1])

/-- Where a row comes from that is there after a statement. -/
inductive Writes (cfg : Config) (call : Call ω) (db : Db ω) (table : TokenTable) :
    Token → Prop where
  | kept {t : Token} (ht : t ∈ db.tokens table) : Writes cfg call db table t
  | created {t : Token} (hcall : call = .creating table t)
      (hnext : (stmt cfg call db).1 = .issued (.sql table t.tokenHash) (some t.expiresAt)) :
      Writes cfg call db table t
  | used {t : Token} (now : Int) (ht : t ∈ db.tokens table) : Writes cfg call db table (t.use now)
  | locked {t : Token} (ht : t ∈ db.tokens table) : Writes cfg call db table t.lock
  | unlocked {t : Token} (ht : t ∈ db.tokens table)
      (hcall : call.claims = some (.sql table t.tokenHash))
      (hnext : (stmt cfg call db).1.claims = none) : Writes cfg call db table t.unlock
  | committed {t : Token} (begun : Int) (ht : t ∈ db.tokens table) :
      Writes cfg call db table (t.commit begun)

theorem mem_updateWhere {f : Token → Token} {hid : ∀ t, (f t).id = t.id} {t' : Token}
    (h : t' ∈ (db.setTokens table ((db.tokens table).updateWhere p f hid)).tokens table') :
    (t' ∈ db.tokens table' ∧ (table' = table → p t' = false)) ∨
      table' = table ∧ ∃ t ∈ db.tokens table, p t = true ∧ t' = f t := by
  rcases mem_setTokens.mp h with ⟨rfl, hmem⟩ | ⟨hne, hmem⟩
  · rw [Table.mem_updateWhere] at hmem
    obtain ⟨t, ht, rfl⟩ := hmem
    cases hp : p t with
    | true => exact .inr ⟨rfl, t, ht, hp, by simp⟩
    | false => exact .inl ⟨by simpa using ht, fun _ => by simpa using hp⟩
  · exact .inl ⟨hmem, fun heq => absurd heq hne⟩

theorem mem_deleteWhere (h : t ∈ (db.deleteWhere table p).tokens table') :
    t ∈ db.tokens table' := by
  rcases mem_setTokens.mp h with ⟨rfl, h⟩ | ⟨_, h⟩
  · exact (Table.mem_deleteWhere.mp h).1
  · exact h

theorem mem_create {db' : Db ω} {t' : Token} (h : db.create table t = some db')
    (ht' : t' ∈ db'.tokens table') : t' ∈ db.tokens table' ∨ table' = table ∧ t' = t := by
  obtain ⟨tokens, hinsert, rfl⟩ := create_eq_some h
  rcases mem_setTokens.mp ht' with ⟨rfl, hmem⟩ | ⟨_, hmem⟩
  · rcases ((Table.insert_eq_some hinsert).2 t').mp hmem with rfl | hold
    · exact .inr ⟨rfl, rfl⟩
    · exact .inl hold
  · exact .inl hmem

/-- Rows that are marked as used. -/
theorem writes_of_useWhere (h : t ∈ (db.useWhere table' p).tokens table) :
    Writes cfg call db table t := by
  rcases mem_updateWhere h with ⟨hold, _⟩ | ⟨rfl, old, hold, _, rfl⟩
  · exact .kept hold
  · exact .used db.now hold

theorem mem_tokens_stmt (h : t ∈ (stmt cfg call db).2.tokens table) :
    Writes cfg call db table t := by
  cases call with
  | creating table' t' =>
    cases hcreate : db.create table' t' with
    | none =>
      rw [stmt, hcreate] at h
      exact .kept h
    | some db' =>
      have hstmt : stmt cfg (.creating table' t') db =
          (.issued (.sql table' t'.tokenHash) (some t'.expiresAt), db') := by rw [stmt, hcreate]
      rw [hstmt] at h
      rcases mem_create hcreate h with hold | ⟨rfl, rfl⟩
      · exact .kept hold
      · exact .created rfl (by rw [hstmt])
  | consume kind token act =>
    rw [stmt_consume] at h
    exact .kept h
  | resetPassword token act =>
    refine unlessWaiting_induct (P := fun r => t ∈ r.2.tokens table → _) .kept (fun _ h => ?_) h
    split at h
    · exact .kept h
    · exact writes_of_useWhere h
  | verifying token act begun =>
    refine unlessWaiting_induct (P := fun r => t ∈ r.2.tokens table → _) .kept (fun _ h => ?_) h
    split at h
    · exact .kept h
    rcases mem_updateWhere h with ⟨hold, _⟩ | ⟨rfl, old, hold, _, rfl⟩
    · exact .kept hold
    · exact .locked hold
  | verified row act begun =>
    cases hact : act db.world with
    | error msg =>
      have hstmt : stmt cfg (.verified row act begun) db =
          (.refused msg, db.unlockWhere .emailVerification (Token.held row.tokenHash)) := by
        rw [stmt, hact]
      rw [hstmt] at h
      rcases mem_updateWhere h with ⟨hold, _⟩ | ⟨rfl, old, hold, hheld, rfl⟩
      · exact .kept hold
      have hhash : old.tokenHash = row.tokenHash := by
        simp only [Token.held, Bool.and_eq_true, decide_eq_true_eq] at hheld
        exact hheld.1
      exact .unlocked hold (by rw [Call.claims, hhash]) (by rw [hstmt]; rfl)
    | ok world =>
      rw [stmt, hact] at h
      rcases mem_updateWhere h with ⟨hold, _⟩ | ⟨rfl, old, hold, _, rfl⟩
      · exact .kept hold
      · exact .committed begun hold
  | forgotPassword userID token id | invalidating cred userID =>
    exact unlessWaiting_induct (P := fun r => t ∈ r.2.tokens table → _) .kept
      (fun _ => writes_of_useWhere) h
  | peek token =>
    rw [stmt] at h
    split at h
    · exact .kept h
    · exact .kept h
  | deleteExpired table' =>
    exact unlessWaiting_induct (P := fun r => t ∈ r.2.tokens table → _) .kept
      (fun _ h => .kept (mem_deleteWhere h)) h
  | deleteUser userID =>
    rw [stmt] at h
    split at h
    · exact .kept h
    · exact .kept (mem_deleteWhere (mem_deleteWhere h))
  | _ => exact .kept h

/-- A row after a statement has been created by it, or was there with the same identity. -/
theorem Writes.origin (h : Writes cfg call db table t) :
    (call = .creating table t ∧
      (stmt cfg call db).1 = .issued (.sql table t.tokenHash) (some t.expiresAt)) ∨
      ∃ old ∈ db.tokens table, old.id = t.id ∧ old.tokenHash = t.tokenHash ∧
        old.expiresAt = t.expiresAt := by
  cases h with
  | created hcall hnext => exact .inl ⟨hcall, hnext⟩
  | kept ht | used _ ht | locked ht | unlocked ht _ _ | committed _ ht =>
    exact .inr ⟨_, ht, rfl, rfl, rfl⟩

/-! ## Requests -/

/-- The credential that a request is going to claim. -/
def Call.seeks (cfg : Config) : Call ω → Option Credential
  | .consume kind token _ => some (.redis kind token)
  | .resetPassword token _ => some (.sql .passwordReset (cfg.hashToken token))
  | .verifyEmail token _ | .verifying token _ _ =>
    some (.sql .emailVerification (cfg.hashToken token))
  | _ => none

/-- A request claims no other credential. -/
def Call.Concerns (cfg : Config) (cred : Credential) (call : Call ω) : Prop :=
  ∀ c, call.seeks cfg = some c ∨ call.claims = some c → c = cred

/-- The time by which a request judges whether a credential has expired. -/
def Call.reading (call : Call ω) (db : Db ω) : Int :=
  match call with
  | .verifying _ _ begun => begun
  | _ => db.now

/-- A copy of the credential can be claimed by a request that reads the time. -/
def Db.LiveFor (db : Db ω) (reading : Int) : Credential → Prop
  | .redis kind token => ∃ entry, db.redis kind token = some entry ∧ entry.live reading = true
  | .sql table tokenHash => ∃ t ∈ db.tokens table, t.tokenHash = tokenHash ∧ t.usedAt = none ∧
    t.locked = false ∧ reading < t.expiresAt

/-- The request has ended without a credential. -/
def Call.isOver : Call ω → Bool
  | .refused _ | .shown _ | .done => true
  | _ => false

/-- How a request goes on after a statement. -/
inductive Continues (cfg : Config) (db : Db ω) : Call ω → Call ω → Prop where
  /-- The request waits, or has ended. -/
  | still (call : Call ω) : Continues cfg db call call
  | ended (call : Call ω) {next : Call ω} (hover : next.isOver = true) : Continues cfg db call next
  | creating {call : Call ω} {table : TokenTable} {t : Token}
      (hcall : call.issues cfg = some (.sql table t.tokenHash)) :
      Continues cfg db call (.creating table t)
  | issued {call : Call ω} {cred : Credential} {expiresAt : Option Int}
      (hcall : call.issues cfg = some cred)
      (hdated : (∀ kind, 0 < cfg.redisTTL kind) → expiresAt ≠ none) :
      Continues cfg db call (.issued cred expiresAt)
  | begun (token : String) (act : Token → ω → Except String ω) :
      Continues cfg db (.verifyEmail token act) (.verifying token act db.now)
  | granted {call next : Call ω} {cred : Credential} (hcall : call.seeks cfg = some cred)
      (hlive : db.LiveFor (call.reading db) cred) (hnext : next.claims = some cred) :
      Continues cfg db call next
  | kept {call next : Call ω} {cred : Credential} (hcall : call.claims = some cred)
      (hnext : next.claims = some cred) : Continues cfg db call next

/-- A row that a statement finds without having to wait. -/
theorem liveFor_of_find? {tokenHash : String} {reading : Int}
    (hfree : db.waits table (Token.consumable tokenHash reading) = false)
    (hfind : (db.tokens table).rows.find? (Token.consumable tokenHash reading) = some t) :
    t.tokenHash = tokenHash ∧ db.LiveFor reading (.sql table tokenHash) := by
  have hmem : t ∈ db.tokens table := List.mem_of_find?_eq_some hfind
  have hp := List.find?_some hfind
  have hlocked : t.locked = false := by
    have hnot := List.any_eq_false.mp hfree t hmem
    simpa [hp] using hnot
  simp only [Token.consumable, Bool.and_eq_true, decide_eq_true_eq, Option.isNone_iff_eq_none] at hp
  exact ⟨hp.1.1, t, hmem, hp.1.1, hp.1.2, hlocked, hp.2⟩

theorem continues_stmt (cfg : Config) (call : Call ω) (db : Db ω) :
    Continues cfg db call (stmt cfg call db).1 := by
  cases call with
  | store kind token record =>
    refine .issued rfl fun hpositive => ?_
    have hnot : ¬ cfg.redisTTL kind ≤ 0 := Int.not_le.mpr (hpositive kind)
    simp [deadline, Config.ttl, hnot, hpositive kind]
  | forgotPassword userID token id =>
    exact unlessWaiting_induct (P := fun r => Continues cfg db _ r.1) (.still _)
      fun _ => .creating rfl
  | register userID token id => exact .creating rfl
  | creating table t =>
    rw [stmt]
    split
    · exact .ended _ rfl
    · exact .issued rfl (by simp)
  | consume kind token act =>
    rw [stmt, Db.getDel]
    split
    · exact .ended _ rfl
    rename_i record db' heq
    obtain ⟨entry, hentry, hlive, _⟩ := Store.get_eq_some.mp (Prod.mk.inj heq).1
    exact .granted rfl ⟨entry, hentry, hlive⟩ rfl
  | resetPassword token act =>
    refine unlessWaiting_induct (P := fun r => Continues cfg db _ r.1) (.still _) fun hfree => ?_
    split
    · exact .ended _ rfl
    rename_i t hfind
    exact .granted rfl (liveFor_of_find? hfree hfind).2 rfl
  | verifyEmail token act => exact .begun token act
  | verifying token act begun =>
    refine unlessWaiting_induct (P := fun r => Continues cfg db _ r.1) (.still _) fun hfree => ?_
    split
    · exact .ended _ rfl
    rename_i t hfind
    obtain ⟨hhash, hlive⟩ := liveFor_of_find? hfree hfind
    exact .granted rfl hlive (by rw [Call.claims, hhash])
  | verified t act begun =>
    rw [stmt]
    split
    · exact .ended _ rfl
    · exact .kept rfl rfl
  | invalidating cred userID =>
    exact unlessWaiting_induct (P := fun r => Continues cfg db _ r.1) (.still _)
      fun _ => .kept rfl rfl
  | accepted cred act => exact .kept rfl rfl
  | peek token =>
    rw [stmt]
    split
    · exact .ended _ rfl
    · exact .ended _ rfl
  | deleteExpired table =>
    exact unlessWaiting_induct (P := fun r => Continues cfg db _ r.1) (.still _)
      fun _ => .ended _ rfl
  | deleteUser userID =>
    rw [stmt]
    split
    · exact .still _
    · exact .ended _ rfl
  | _ => exact .still _

namespace Continues

variable {next : Call ω} {cred : Credential}

theorem idle_of_isOver (h : next.isOver = true) :
    next.claims = none ∧ next.issues cfg = none ∧ next.seeks cfg = none := by
  cases next with
  | refused _ | shown _ | done => exact ⟨rfl, rfl, rfl⟩
  | _ => cases h

theorem idle_of_claims (h : next.claims = some cred) :
    next.issues cfg = none ∧ next.seeks cfg = none := by
  cases next with
  | verified _ _ _ | invalidating _ _ | accepted _ _ | honoured _ _ => exact ⟨rfl, rfl⟩
  | _ => cases h

section

variable (h : Continues cfg db call next)

include h

theorem issues (hnext : next.issues cfg = some cred) : call.issues cfg = some cred := by
  cases h with
  | still => exact hnext
  | ended _ hover =>
    rw [(idle_of_isOver hover).2.1] at hnext
    cases hnext
  | creating hcall => exact hcall.trans hnext
  | granted _ _ hclaims | kept _ hclaims =>
    rw [(idle_of_claims hclaims).1] at hnext
    cases hnext
  | _ => cases hnext

theorem claims (hnext : next.claims = some cred) : call.claims = some cred ∨
      call.seeks cfg = some cred ∧ db.LiveFor (call.reading db) cred := by
  cases h with
  | still => exact .inl hnext
  | ended _ hover =>
    rw [(@idle_of_isOver _ cfg _ hover).1] at hnext
    cases hnext
  | granted hcall hlive hclaims =>
    cases hclaims.symm.trans hnext
    exact .inr ⟨hcall, hlive⟩
  | kept hcall hclaims =>
    cases hclaims.symm.trans hnext
    exact .inl hcall
  | _ => cases hnext

theorem seeks (hnext : next.seeks cfg = some cred) : call.seeks cfg = some cred := by
  cases h with
  | ended _ hover =>
    rw [(idle_of_isOver hover).2.2] at hnext
    cases hnext
  | creating _ | issued _ _ => cases hnext
  | granted _ _ hclaims | kept _ hclaims =>
    rw [(idle_of_claims hclaims).2] at hnext
    cases hnext
  | _ => exact hnext

theorem concerns (hcall : call.Concerns cfg cred) : next.Concerns cfg cred := by
  rintro c (hseeks | hclaims)
  · exact hcall c (.inl (h.seeks hseeks))
  · rcases h.claims hclaims with hbefore | ⟨hseeks, _⟩
    · exact hcall c (.inr hbefore)
    · exact hcall c (.inl hseeks)

end

/-- Who has issued a credential was going to. -/
theorem issued_inv {expiresAt : Option Int} (h : Continues cfg db call (.issued cred expiresAt)) :
    call = .issued cred expiresAt ∨ call.issues cfg = some cred ∧
      ((∀ kind, 0 < cfg.redisTTL kind) → expiresAt ≠ none) := by
  cases h with
  | still => exact .inl rfl
  | ended _ hover => cases hover
  | issued hcall hdated => exact .inr ⟨hcall, hdated⟩
  | granted _ _ hclaims | kept _ hclaims => cases hclaims

/-- The time that a request reads does not go back. -/
theorem reading_le {db' : Db ω} {time : Int} (h : Continues cfg db call next)
    (hnow : db.now ≤ db'.now) (htime : time ≤ db.now) (hcall : time ≤ call.reading db) :
    time ≤ next.reading db' := by
  have hlater : time ≤ db'.now := Int.le_trans htime hnow
  cases h with
  | still =>
    cases call with
    | verifying token act begun => exact hcall
    | _ => exact hlater
  | ended _ hover =>
    cases next with
    | verifying token act begun => cases hover
    | _ => exact hlater
  | begun token act => exact htime
  | granted _ _ hclaims | kept _ hclaims =>
    cases next with
    | verifying token act begun => cases hclaims
    | _ => exact hlater
  | _ => exact hlater

end Continues

end BurnerByte.OneTime
