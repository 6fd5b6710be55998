import BurnerByte.Account.Reuse

/-!
# Refreshing while something fails

`Refresh` revokes the session of the token first, and then reads the user, generates the new
tokens and creates the next session. The statements are not in a transaction, so what fails
after the revocation leaves a token that nobody has exchanged and that is revoked. Presented
again, it is taken for stolen.

Each call of a repository or of the token manager may fail. A statement that is reported as
failed may have been executed all the same, when only its answer was lost.
-/

namespace BurnerByte.Account

open Sql

/-- The calls of `Refresh`, in their order. -/
inductive RefreshCall where
  | getByTokenHash
  | revokeByFamily
  | revoke
  | getByID
  | revokeAgain
  | generateRefreshToken
  | generateAccessToken
  | create
  deriving DecidableEq

structure RefreshFault where
  message : String
  /-- The statement took effect. -/
  executed : Bool

/-- Which calls fail. -/
abbrev RefreshFaults := RefreshCall → Option RefreshFault

inductive RefreshError where
  | invalid
  | reused
  | expired
  | lock (message : String)
  | failed (call : RefreshCall) (message : String)
  deriving DecidableEq

def RefreshError.message : RefreshError → String
  | .invalid => "invalid refresh token"
  | .reused => "refresh token reused — all sessions revoked"
  | .expired => "refresh token expired"
  | .lock message => message
  | .failed .generateRefreshToken message => "generate refresh token: " ++ message
  | .failed _ message => message

/-- A statement that writes, which may fail. -/
def RefreshFaults.write (faults : RefreshFaults) (call : RefreshCall) (svc svc' : Service) :
    Option String × Service :=
  match faults call with
  | none => (none, svc')
  | some fault => (some fault.message, if fault.executed then svc' else svc)

section

variable (cfg : Config) (faults : RefreshFaults)

section

variable (svc : Service) (input : RefreshInput) (issuedAt : Nat) (session : Session)

/-- The tokens are generated and the next session is created. -/
def issuePair (user : User) : Except RefreshError TokenPair × Service :=
  match faults .generateRefreshToken with
  | some fault => (.error (.failed .generateRefreshToken fault.message), svc)
  | none =>
    match faults .generateAccessToken with
    | some fault => (.error (.failed .generateAccessToken fault.message), svc)
    | none =>
      match svc.insertSession (input.newSession session) with
      | .error message => (.error (.failed .create message), svc)
      | .ok svc' =>
        match faults.write .create svc svc' with
        | (some message, svc) => (.error (.failed .create message), svc)
        | (none, svc) =>
          (.ok ⟨cfg.tokens.generateAccessToken issuedAt session.userID user, input.newHash⟩, svc)

/-- What follows the revocation of the old session. -/
def renew : Except RefreshError TokenPair × Service :=
  match faults .getByID with
  | some fault => (.error (.failed .getByID fault.message), svc)
  | none =>
    match svc.accounts.getByID session.userID with
    | none => (.error (.failed .getByID RepoError.notFound.message), svc)
    | some user =>
      match checkSessionAuthMethodLock user session with
      | .error message =>
        -- The error of the second revocation is ignored.
        (.error (.lock message),
          (faults.write .revokeAgain svc (svc.revokeWhere fun s => s.id = session.id)).2)
      | .ok () => issuePair cfg faults svc input issuedAt session user

/-- `Refresh` with failing calls. -/
def refreshFailing : Except RefreshError TokenPair × Service :=
  match faults .getByTokenHash with
  | some fault => (.error (.failed .getByTokenHash fault.message), svc)
  | none =>
    match svc.db.getByTokenHash input.tokenHash with
    | none => (.error .invalid, svc)
    | some session =>
      if session.revoked then
        (.error .reused, (faults.write .revokeByFamily svc
          (svc.revokeWhere fun s => s.tokenFamily = session.tokenFamily)).2)
      else if session.expiresAt < input.now then (.error .expired, svc)
      else
        match faults.write .revoke svc (svc.revokeWhere fun s => s.id = session.id) with
        | (some message, svc) => (.error (.failed .revoke message), svc)
        | (none, svc) => renew cfg faults svc input issuedAt session

end

end

/-- Without failures it is the `Refresh` of all other results. -/
theorem refreshFailing_none (cfg : Config) (svc : Service) (input : RefreshInput) (issuedAt : Nat) :
    let result := refreshFailing cfg (fun _ => none) svc input issuedAt
    (result.1.mapError RefreshError.message, result.2) = refresh cfg svc input issuedAt := by
  simp only [refreshFailing, refresh, RefreshFaults.write]
  cases svc.db.getByTokenHash input.tokenHash with
  | none => rfl
  | some session =>
    by_cases hrevoked : session.revoked = true
    · simp only [hrevoked, if_true]
      rfl
    simp only [hrevoked, Bool.false_eq_true, if_false]
    by_cases hexpired : session.expiresAt < input.now
    · simp only [hexpired, if_true]
      rfl
    simp only [hexpired, if_false, renew]
    cases (svc.revokeWhere fun s => s.id = session.id).accounts.getByID session.userID with
    | none => rfl
    | some user =>
      simp only
      cases checkSessionAuthMethodLock user session with
      | error message => rfl
      | ok =>
        simp only [issuePair, RefreshFaults.write]
        cases (svc.revokeWhere fun s => s.id = session.id).insertSession
            (input.newSession session) with
        | error message => rfl
        | ok svc' => rfl

/-! ## Tokens that are still valid -/

/-- A call without failures, at this time or later, exchanges the token. -/
def Exchangeable (cfg : Config) (svc : Service) (tokenHash : String) (now : Nat) : Prop :=
  ∃ input issuedAt pair, input.tokenHash = tokenHash ∧ now ≤ input.now ∧
    (refresh cfg svc input issuedAt).1 = .ok pair

/-- The session of the token is the same and unrevoked, and the token can be exchanged. -/
structure StillValid (cfg : Config) (svc svc' : Service) (tokenHash : String) (now : Nat) :
    Prop where
  session : ∃ session, svc.db.getByTokenHash tokenHash = some session ∧
    svc'.db.getByTokenHash tokenHash = some session ∧ session.revoked = false
  retry : Exchangeable cfg svc' tokenHash now

section

variable {cfg : Config} {faults : RefreshFaults} {svc svc' : Service} {input : RefreshInput}
  {issuedAt now : Nat} {tokenHash : String} {session : Session}

theorem session_of_exchangeable (h : Exchangeable cfg svc tokenHash now) :
    ∃ session, svc.db.getByTokenHash tokenHash = some session ∧ session.revoked = false ∧
      now ≤ session.expiresAt := by
  obtain ⟨input, issuedAt, pair, rfl, hnow, hok⟩ := h
  unfold refresh at hok
  cases hfind : svc.db.getByTokenHash input.tokenHash with
  | none =>
    rw [hfind] at hok
    cases hok
  | some session =>
    rw [hfind] at hok
    dsimp only at hok
    split at hok
    · cases hok
    rename_i hlive
    split at hok
    · cases hok
    exact ⟨session, rfl, Bool.eq_false_iff.mpr hlive, by omega⟩

theorem StillValid.refl (h : Exchangeable cfg svc tokenHash now) :
    StillValid cfg svc svc tokenHash now := by
  obtain ⟨session, hfind, hlive, _⟩ := session_of_exchangeable h
  exact ⟨⟨session, hfind, hfind, hlive⟩, h⟩

/-- The session is there and revoked. -/
def Service.Ended (session : Session) (svc : Service) : Prop :=
  ∃ s ∈ svc.sessions, s.id = session.id ∧ s.revoked = true

theorem Service.Ended.revokeWhere (h : svc.Ended session) (p : Session → Bool) :
    (svc.revokeWhere p).Ended session := by
  obtain ⟨s, hs, hid, hrevoked⟩ := h
  refine ⟨_, Service.mem_revokeWhere.mpr ⟨s, hs, rfl⟩, ?_⟩
  split
  · exact ⟨hid, rfl⟩
  · exact ⟨hid, hrevoked⟩

theorem Service.Ended.write (h : svc.Ended session) (h' : svc'.Ended session)
    (call : RefreshCall) : (faults.write call svc svc').2.Ended session := by
  unfold RefreshFaults.write
  split
  · exact h'
  split
  · exact h'
  · exact h

theorem ended_of_revoke (h : session ∈ svc.sessions) :
    (svc.revokeWhere fun s => s.id = session.id).Ended session :=
  ⟨_, Service.mem_revokeWhere.mpr ⟨session, h, rfl⟩, by simp⟩

/-- A token whose session is revoked by now is not valid any more. -/
theorem not_stillValid_of_ended (hfind : svc.db.getByTokenHash tokenHash = some session)
    (h : svc'.Ended session) : ¬ StillValid cfg svc svc' tokenHash now := by
  rintro ⟨⟨found, hfound, hfound', hlive⟩, _⟩
  obtain rfl : found = session := Option.some.inj (hfound.symm.trans hfind)
  obtain ⟨s, hs, hid, hrevoked⟩ := h
  have hmem : found ∈ svc'.sessions := List.mem_of_find?_eq_some hfound'
  obtain rfl : s = found := Table.eq_of_key_eq hs hmem hid
  rw [hrevoked] at hlive
  cases hlive

theorem ended_renew (h : svc.Ended session) :
    (renew cfg faults svc input issuedAt session).2.Ended session := by
  unfold renew
  split
  · exact h
  split
  · exact h
  split
  · exact h.write (h.revokeWhere _) .revokeAgain
  -- Nothing that follows the revocation takes it back.
  unfold issuePair
  iterate 3
    split
    · exact h
  rename_i svc' hinsert
  have h' : svc'.Ended session := by
    obtain ⟨s, hs, hspent⟩ := h
    exact ⟨s, ((Service.mem_insertSession hinsert).2 s).mpr (.inr hs), hspent⟩
  have hwrite : (faults.write .create svc svc').2.Ended session := h.write h' .create
  split
  · rename_i hresult
    rw [hresult] at hwrite
    exact hwrite
  rename_i hresult
  rw [hresult] at hwrite
  exact hwrite

end

/-- A token that was valid before a call is still valid after it exactly if the lookup of the
session failed, or its revocation failed without taking effect. Every other call, whether it fails
later or succeeds, leaves the session revoked. -/
theorem refresh_token_survives_iff (cfg : Config) (faults : RefreshFaults) (svc : Service)
    (input : RefreshInput) (issuedAt : Nat)
    (hvalid : Exchangeable cfg svc input.tokenHash input.now) :
    StillValid cfg svc (refreshFailing cfg faults svc input issuedAt).2 input.tokenHash input.now ↔
      (∃ fault, faults .getByTokenHash = some fault) ∨
        ∃ fault, faults .revoke = some fault ∧ fault.executed = false := by
  obtain ⟨session, hfind, hlive, hunexpired⟩ := session_of_exchangeable hvalid
  have hmem : session ∈ svc.sessions := List.mem_of_find?_eq_some hfind
  have hnow : ¬ session.expiresAt < input.now := Nat.not_lt.mpr hunexpired
  cases hlookup : faults .getByTokenHash with
  | some fault =>
    simp only [refreshFailing, hlookup]
    exact iff_of_true (.refl hvalid) (.inl ⟨fault, rfl⟩)
  | none =>
    simp only [refreshFailing, hlookup, hfind, hlive, Bool.false_eq_true, if_false, if_neg hnow,
      RefreshFaults.write]
    cases hrevoke : faults .revoke with
    | none =>
      refine iff_of_false ?_ (by simp)
      exact not_stillValid_of_ended hfind (ended_renew (ended_of_revoke hmem))
    | some fault =>
      cases hexecuted : fault.executed with
      | false =>
        simp only [hexecuted, Bool.false_eq_true, if_false]
        exact iff_of_true (.refl hvalid) (.inr ⟨fault, rfl, hexecuted⟩)
      | true =>
        simp only [hexecuted, if_true]
        refine iff_of_false (not_stillValid_of_ended hfind (ended_of_revoke hmem)) ?_
        simp [hexecuted]

/-- The call of user 1, as it would go without failures. -/
def sampleRefresh : RefreshInput := ⟨"h1", 500, 2, "h2", 2000⟩

/-- One call fails, and its statement is not executed. -/
def failsAt (failing : RefreshCall) : RefreshFaults := fun call =>
  if call = failing then some ⟨"connection refused", false⟩ else none

def failedRefresh (failing : RefreshCall) : Except RefreshError TokenPair × Service :=
  refreshFailing sampleConfig (failsAt failing) sampleService sampleRefresh 500

theorem exchangeable_sample : Exchangeable sampleConfig sampleService "h1" 500 :=
  ⟨sampleRefresh, 500, ⟨sampleConfig.tokens.generateAccessToken 500 1 sampleUser, "h2"⟩,
    rfl, le_rfl,
    rfl⟩

/-- The revocation fails, and the token can still be exchanged. -/
theorem failed_revocation_keeps_token :
    (failedRefresh .revoke).1 = .error (.failed .revoke "connection refused") ∧
      StillValid sampleConfig sampleService (failedRefresh .revoke).2 "h1" 500 :=
  ⟨by decide +kernel, (refresh_token_survives_iff sampleConfig (failsAt .revoke) sampleService
    sampleRefresh 500 exchangeable_sample).mpr (.inr ⟨_, rfl, rfl⟩)⟩

/-- The user cannot be read, or the next session cannot be created: the session of the token is
revoked, and the same call again is answered as the reuse of a stolen token. -/
theorem failed_read_spends_token :
    Exchangeable sampleConfig sampleService "h1" 500 ∧
      ((failedRefresh .getByID).1 = .error (.failed .getByID "connection refused") ∧
        (refreshFailing sampleConfig (fun _ => none) (failedRefresh .getByID).2
          sampleRefresh 500).1 = .error .reused) ∧
      ((failedRefresh .create).1 = .error (.failed .create "connection refused") ∧
        (refreshFailing sampleConfig (fun _ => none) (failedRefresh .create).2
          sampleRefresh 500).1 = .error .reused) := by
  refine ⟨exchangeable_sample, ⟨?_, ?_⟩, ?_, ?_⟩
  all_goals decide +kernel

end BurnerByte.Account
