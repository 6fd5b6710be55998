import BurnerByte.Account.Effects

/-!
# Refresh tokens that are used twice

A refresh token is used once: the session it belongs to is revoked by the exchange. If
it is presented again within its lifetime, then the row is still there, since the
cleanup deletes expired sessions only, and it is still revoked, since nothing clears
the flag. So the request fails and the family is revoked.

New refresh tokens are random, so their hashes are new.
-/

namespace BurnerByte.Account

open Sql

/-- A new refresh token has another hash than every token that is known. -/
def Request.FreshToken (svc : Service) (req : Request) : Prop :=
  ∀ new ∈ req.newSession, ∀ s ∈ svc.sessions, s.refreshTokenHash ≠ new.2
  deriving Decidable

def Service.HashesUnique (svc : Service) : Prop :=
  ∀ s ∈ svc.sessions, ∀ s' ∈ svc.sessions, s.refreshTokenHash = s'.refreshTokenHash → s = s'

instance (svc : Service) : Decidable svc.HashesUnique :=
  inferInstanceAs (Decidable (∀ s ∈ svc.sessions, ∀ s' ∈ svc.sessions, _ → _))

/-- The row of a session is there, and it is revoked. -/
def Service.Spent (session : Session) (svc : Service) : Prop :=
  ∃ s ∈ svc.sessions, s.refreshTokenHash = session.refreshTokenHash ∧
    s.tokenFamily = session.tokenFamily ∧ s.expiresAt = session.expiresAt ∧ s.revoked = true

/-! ## Effects on the sessions -/

namespace Service

variable {svc svc' : Service} {cfg : Config} {req : Request}

theorem mem_revokeWhere {p : Session → Bool} {s : Session} :
    s ∈ (svc.revokeWhere p).sessions ↔
      ∃ old ∈ svc.sessions, (if p old then { old with revoked := true } else old) = s :=
  Account.mem_revokeWhere

/-- Only three effects touch the sessions. -/
theorem apply_sessions (svc : Service) (e : Effect) :
    (∃ p, e = .revoke p) ∨ (∃ session, e = .insertSession session) ∨
      (∃ now, e = .deleteExpired now) ∨ (svc.apply e).sessions = svc.sessions := by
  cases e with
  | revoke p => exact .inl ⟨p, rfl⟩
  | insertSession session => exact .inr (.inl ⟨session, rfl⟩)
  | deleteExpired now => exact .inr (.inr (.inl ⟨now, rfl⟩))
  | insertUser id user =>
    refine .inr (.inr (.inr ?_))
    refine Outcome.getD_of_ok (P := fun s : Service => s.sessions = svc.sessions) rfl ?_
    intro svc' hok
    obtain ⟨accounts, _, rfl⟩ := insertUser_eq_ok hok
    rfl
  | link identity =>
    refine .inr (.inr (.inr ?_))
    simp only [apply, link]
    split <;> rfl
  | _ => exact .inr (.inr (.inr rfl))

variable {session : Session}

theorem mem_insertSession (h : svc.insertSession session = .ok svc') :
    (∀ old ∈ svc.sessions, old.id ≠ session.id) ∧
      ∀ s, s ∈ svc'.sessions ↔ s = session ∨ s ∈ svc.sessions := by
  obtain ⟨sessions, hinsert, rfl⟩ := insertSession_eq_ok h
  exact Table.insert_eq_some hinsert

theorem HashesUnique.revokeWhere (h : svc.HashesUnique) (p : Session → Bool) :
    (svc.revokeWhere p).HashesUnique := by
  intro s hs s' hs' hhash
  obtain ⟨old, hold, rfl⟩ := mem_revokeWhere.mp hs
  obtain ⟨old', hold', rfl⟩ := mem_revokeWhere.mp hs'
  have hsame : old = old' := by
    apply h old hold old' hold'
    split at hhash <;> split at hhash <;> exact hhash
  rw [hsame]

/-- While a request is handled: the hashes are distinct, and only the new session has the
new hash. -/
structure Hashed (req : Request) (svc : Service) : Prop where
  unique : svc.HashesUnique
  fresh : ∀ id hash, req.newSession = some (id, hash) →
    ∀ s ∈ svc.sessions, s.refreshTokenHash = hash → s.id = id

theorem Hashed.insertSession (h : Hashed req svc)
    (hnew : req.newSession = some (session.id, session.refreshTokenHash))
    (hok : svc.insertSession session = .ok svc') : Hashed req svc' := by
  obtain ⟨hid, hmem⟩ := mem_insertSession hok
  have hother : ∀ s ∈ svc.sessions, s.refreshTokenHash ≠ session.refreshTokenHash := by
    intro s hs hhash
    exact hid s hs (h.fresh _ _ hnew s hs hhash)
  constructor
  · intro s hs s' hs' hhash
    cases (hmem s).mp hs with
    | inl heq =>
      cases (hmem s').mp hs' with
      | inl heq' => rw [heq, heq']
      | inr hold' =>
        rw [heq] at hhash
        exact absurd hhash.symm (hother s' hold')
    | inr hold =>
      cases (hmem s').mp hs' with
      | inl heq' =>
        rw [heq'] at hhash
        exact absurd hhash (hother s hold)
      | inr hold' => exact h.unique s hold s' hold' hhash
  · intro id hash hreq s hs hhash
    cases (hmem s).mp hs with
    | inl heq =>
      rw [hnew] at hreq
      cases hreq
      rw [heq]
    | inr hold => exact h.fresh id hash hreq s hold hhash

theorem Hashed.apply (h : Hashed req svc) {e : Effect} (hallowed : (req.limits cfg).Allows svc e) :
    Hashed req (svc.apply e) := by
  obtain ⟨p, rfl⟩ | ⟨session, rfl⟩ | ⟨now, rfl⟩ | hsame := svc.apply_sessions e
  · refine ⟨h.unique.revokeWhere p, ?_⟩
    intro id hash hreq s hs hhash
    obtain ⟨old, hold, rfl⟩ := mem_revokeWhere.mp hs
    split at hhash
    · rename_i hp
      rw [if_pos hp]
      exact h.fresh id hash hreq old hold hhash
    rename_i hp
    rw [if_neg hp]
    exact h.fresh id hash hreq old hold hhash
  · exact Outcome.getD_of_ok h fun svc' hok => h.insertSession hallowed hok
  · constructor
    · intro s hs s' hs'
      exact h.unique s (Table.mem_deleteWhere.mp hs).1 s' (Table.mem_deleteWhere.mp hs').1
    · intro id hash hreq s hs
      exact h.fresh id hash hreq s (Table.mem_deleteWhere.mp hs).1
  · constructor
    · unfold HashesUnique
      rw [hsame]
      exact h.unique
    · rw [hsame]
      exact h.fresh

theorem HashesUnique.handle (h : svc.HashesUnique) (hfresh : req.FreshToken svc) :
    (handle cfg svc req).2.HashesUnique := by
  have hstart : Hashed req svc := by
    refine ⟨h, ?_⟩
    intro id hash hreq s hs hhash
    exact absurd hhash (hfresh _ hreq s hs)
  exact ((handle_does cfg svc req).invariant hstart fun _ _ hsvc hallowed =>
    hsvc.apply hallowed).unique

/-- A revoked session that is not expired stays where it is. -/
theorem Spent.apply (h : svc.Spent session) {e : Effect}
    (hpurge : ∀ now, e = .deleteExpired now → now ≤ session.expiresAt) :
    (svc.apply e).Spent session := by
  obtain ⟨s, hs, hhash, hfamily, hexpires, hrevoked⟩ := h
  obtain ⟨p, rfl⟩ | ⟨new, rfl⟩ | ⟨now, rfl⟩ | hsame := svc.apply_sessions e
  · refine ⟨_, mem_revokeWhere.mpr ⟨s, hs, rfl⟩, ?_⟩
    split
    · exact ⟨hhash, hfamily, hexpires, rfl⟩
    · exact ⟨hhash, hfamily, hexpires, hrevoked⟩
  · have hspent : svc.Spent session := ⟨s, hs, hhash, hfamily, hexpires, hrevoked⟩
    refine Outcome.getD_of_ok hspent fun svc' hok => ?_
    exact ⟨s, ((mem_insertSession hok).2 s).mpr (.inr hs), hhash, hfamily, hexpires, hrevoked⟩
  · have hlive : ¬ s.expiresAt < now := by
      have := hpurge now rfl
      omega
    exact ⟨s, Table.mem_deleteWhere.mpr ⟨hs, by simpa using hlive⟩, hhash, hfamily, hexpires,
      hrevoked⟩
  · refine ⟨s, ?_, hhash, hfamily, hexpires, hrevoked⟩
    rw [hsame]
    exact hs

theorem Spent.handle (h : svc.Spent session)
    (htime : ∀ reading ∈ req.readings, reading ≤ session.expiresAt) :
    (handle cfg svc req).2.Spent session := by
  refine (handle_does cfg svc req).invariant h fun svc e hsvc hallowed => ?_
  apply hsvc.apply
  rintro now rfl
  exact htime now hallowed

end Service

/-! ## Refreshing twice -/

variable {cfg : Config} {svc : Service} {input : RefreshInput} {issuedAt : Nat} {session : Session}

/-- A successful exchange leaves the session revoked. -/
theorem spent_of_refresh {pair : TokenPair} {svc' : Service}
    (hfind : svc.db.getByTokenHash input.tokenHash = some session)
    (h : refresh cfg svc input issuedAt = (.ok pair, svc')) : svc'.Spent session := by
  have hmem : session ∈ svc.sessions := List.mem_of_find?_eq_some hfind
  unfold refresh at h
  rw [hfind] at h
  dsimp only at h
  iterate 5
    split at h
    · cases h
  rename_i svc₁ hok
  cases h
  have hrow : ({ session with revoked := true } : Session) ∈
      (svc.revokeWhere fun s => s.id = session.id).sessions :=
    Service.mem_revokeWhere.mpr ⟨session, hmem, by simp⟩
  exact ⟨_, ((Service.mem_insertSession hok).2 _).mpr (.inr hrow), rfl, rfl, rfl, rfl⟩

/-- A token whose session is spent is refused, and its family is revoked. -/
theorem refresh_of_spent (hunique : svc.HashesUnique) (hspent : svc.Spent session)
    (htoken : input.tokenHash = session.refreshTokenHash) :
    refresh cfg svc input issuedAt =
      (.error "refresh token reused — all sessions revoked",
        svc.revokeWhere fun s => s.tokenFamily = session.tokenFamily) := by
  obtain ⟨s, hs, hhash, hfamily, _, hrevoked⟩ := hspent
  have hfind : svc.db.getByTokenHash input.tokenHash = some s := by
    obtain ⟨found, hfound⟩ : ∃ found, svc.db.getByTokenHash input.tokenHash = some found :=
      Option.isSome_iff_exists.mp (List.find?_isSome.mpr ⟨s, hs, by simp [htoken, hhash]⟩)
    have hsame : found.refreshTokenHash = input.tokenHash := by simpa using List.find?_some hfound
    rw [hfound, hunique found (List.mem_of_find?_eq_some hfound) s hs
      (hsame.trans (htoken.trans hhash.symm))]
  unfold refresh
  rw [hfind]
  simp only [hrevoked, if_true, hfamily]

/-! ## Histories -/

/-- A step of a history in which the clock does not run back and new tokens are new. -/
def Clocked.Admits (s : Clocked) (e : Timed) : Prop := s.OnTime e ∧ e.request.FreshToken s.svc
  deriving Decidable

/-- From the exchange on, the row is there until it expires. -/
structure Remembered (session : Session) (s : Clocked) : Prop where
  unique : s.svc.HashesUnique
  spent : s.clock ≤ session.expiresAt → s.svc.Spent session

variable {s : Clocked} {e : Timed} {family : UUID}

theorem Remembered.step (h : Remembered session s) (he : s.Admits e) :
    Remembered session (s.step cfg e) := by
  obtain ⟨⟨hclock, hreadings⟩, hfresh⟩ := he
  refine ⟨h.unique.handle hfresh, ?_⟩
  intro hexpires
  apply (h.spent (Nat.le_trans hclock hexpires)).handle
  intro reading hreading
  exact Nat.le_trans (hreadings reading hreading).2 hexpires

def Clocked.HashesUnique (s : Clocked) : Prop := s.svc.HashesUnique

theorem Clocked.HashesUnique.step (h : s.HashesUnique) (he : s.Admits e) :
    (s.step cfg e).HashesUnique := Service.HashesUnique.handle h he.2

/-- The sessions of the other families are not revoked. -/
theorem mem_revokeWhere_of_family_ne {s : Session} (h : s.tokenFamily ≠ family) :
    s ∈ (svc.revokeWhere fun s => s.tokenFamily = family).sessions ↔ s ∈ svc.sessions := by
  rw [Service.mem_revokeWhere]
  constructor
  · rintro ⟨old, hold, rfl⟩
    by_cases hfamily : old.tokenFamily = family
    · simp only [hfamily, decide_true, if_true] at h
      exact absurd rfl h
    · simpa [hfamily] using hold
  · intro hs
    exact ⟨s, hs, by simp [h]⟩

theorem revoked_of_revokeWhere_family {s : Session}
    (hs : s ∈ (svc.revokeWhere fun s => s.tokenFamily = family).sessions)
    (h : s.tokenFamily = family) : s.revoked = true := by
  obtain ⟨old, hold, rfl⟩ := Service.mem_revokeWhere.mp hs
  by_cases hfamily : old.tokenFamily = family
  · simp [hfamily]
  · simp only [hfamily, decide_false, Bool.false_eq_true, if_false] at h

/-- In every history, a refresh token that has been exchanged and is presented again
within its lifetime is refused; then every session of its family is revoked, and the
sessions of the other families are as they were. -/
theorem reused_token_revokes_family (start : Clocked) (hunique : start.svc.HashesUnique)
    (before after : List Timed) (time issuedAt issuedAt' : Nat) (input again : RefreshInput)
    (session : Session) (pair : TokenPair)
    (hhistory : Trace.Guarded (Clocked.step cfg) Clocked.Admits start
      (before ++ ⟨time, .refresh input issuedAt⟩ :: after))
    (hsession : (Trace.run (Clocked.step cfg) start before).svc.db.getByTokenHash
      input.tokenHash = some session)
    (hrotated : (refresh cfg (Trace.run (Clocked.step cfg) start before).svc input issuedAt).1 =
      .ok pair)
    (htoken : again.tokenHash = input.tokenHash)
    (hclock : (Trace.run (Clocked.step cfg) start
      (before ++ ⟨time, .refresh input issuedAt⟩ :: after)).clock ≤ again.now)
    (hlifetime : again.now ≤ session.expiresAt) :
    let svc := (Trace.run (Clocked.step cfg) start
      (before ++ ⟨time, .refresh input issuedAt⟩ :: after)).svc
    let result := refresh cfg svc again issuedAt'
    (∃ err, result.1 = .error err) ∧
      (∀ s ∈ result.2.sessions, s.tokenFamily = session.tokenFamily → s.revoked = true) ∧
      ∀ s, s.tokenFamily ≠ session.tokenFamily → (s ∈ result.2.sessions ↔ s ∈ svc.sessions) := by
  obtain ⟨hbefore, hadmits, hafter⟩ := Trace.Guarded.append_iff.mp hhistory
  simp only [Trace.run_append, Trace.run_cons] at hclock ⊢
  have hhashes : (Trace.run (Clocked.step cfg) start before).HashesUnique :=
    hbefore.invariant hunique fun _ _ hs he => hs.step he
  generalize Trace.run (Clocked.step cfg) start before = s at *
  have hexchanged : Remembered session (s.step cfg ⟨time, .refresh input issuedAt⟩) := by
    refine ⟨hhashes.step hadmits, fun _ => ?_⟩
    exact spent_of_refresh hsession (Prod.ext hrotated rfl)
  have hlast := hafter.invariant hexchanged fun _ _ hs he => hs.step he
  have hhash : session.refreshTokenHash = input.tokenHash := by
    simpa using List.find?_some hsession
  rw [refresh_of_spent hlast.unique (hlast.spent (Nat.le_trans hclock hlifetime))
    (htoken.trans hhash.symm)]
  refine ⟨⟨_, rfl⟩, ?_, ?_⟩
  · intro row hrow hfamily
    exact revoked_of_revokeWhere_family hrow hfamily
  · intro row hfamily
    exact mem_revokeWhere_of_family_ne hfamily

/-- The token `h1` is exchanged, a cleanup runs, and the token is presented again. -/
theorem reused_token_revokes_family_sample :
    let history : List Timed :=
      [⟨20, .refresh ⟨"h1", 10, 2, "h2", 2000⟩ 15⟩, ⟨30, .deleteExpired 25⟩]
    let svc := (Trace.run (Clocked.step sampleConfig) ⟨sampleService, 0⟩ history).svc
    let result := refresh sampleConfig svc ⟨"h1", 50, 3, "h3", 2000⟩ 55
    (∃ err, result.1 = .error err) ∧
      (∀ s ∈ result.2.sessions, s.tokenFamily = 7 → s.revoked = true) ∧
      ∀ s, s.tokenFamily ≠ 7 → (s ∈ result.2.sessions ↔ s ∈ svc.sessions) :=
  reused_token_revokes_family ⟨sampleService, 0⟩ (by decide) []
    [⟨30, .deleteExpired 25⟩] 20 15 55 ⟨"h1", 10, 2, "h2", 2000⟩ ⟨"h1", 50, 3, "h3", 2000⟩
    ⟨1, 1, "h1", 7, none, 1000, false⟩ _ (by decide +kernel) rfl rfl rfl (by decide) (by decide)

end BurnerByte.Account
