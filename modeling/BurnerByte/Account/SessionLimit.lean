import BurnerByte.Account.Requests

/-!
# The session limit

A login that finds as many active sessions as the user may have is put off: the user is
asked which session to give up. Where Redis cannot keep the question, the oldest sessions
are to be revoked instead. The query for that locks rows of a ranked selection, which the
database refuses, and the error is only logged. So the limit holds after a login as long as
every login at the limit finds Redis available.
-/

namespace BurnerByte.Account

open Go Sql

variable {svc svc' : Service} {id : UUID} {now : Nat}

/-! ## Counting active sessions -/

/-- Sessions only expire as time passes. -/
theorem active_length_anti (svc : Service) (id : UUID) {later : Nat} (h : now ≤ later) :
    (svc.active id later).length ≤ (svc.active id now).length := by
  simp only [Service.active, ← List.countP_eq_length_filter]
  refine List.countP_mono_left fun s _ hs => ?_
  simp only [Bool.and_eq_true, decide_eq_true_eq] at hs ⊢
  exact ⟨hs.1, by omega⟩

theorem active_congr (h : svc'.sessions = svc.sessions) :
    svc'.active id now = svc.active id now := by
  simp only [Service.active, h]

theorem active_length_insertSession {session : Session} (h : svc.insertSession session = .ok svc') :
    (svc'.active id now).length ≤ (svc.active id now).length + 1 := by
  obtain ⟨sessions, hinsert, rfl⟩ := insertSession_eq_ok h
  have hrows : sessions.rows = session :: svc.sessions.rows := Table.rows_insert hinsert
  simp only [Service.active, hrows, List.filter_cons]
  split
  · exact Nat.le_of_eq rfl
  · omega

section

variable {cfg : Config} {user : User} {pair : TokenPair}

variable {provider : Option String} {issue : Issue} {input : SSOLoginInput}

theorem active_length_issueTokens
    (h : issueTokens cfg svc id user provider issue = (.ok pair, svc')) :
    (svc'.active id now).length ≤ (svc.active id now).length + 1 := by
  unfold issueTokens at h
  split at h
  · cases h
  rename_i svc₁ hinsert
  cases h
  exact active_length_insertSession hinsert

/-- A session that is created below the limit does not exceed it. -/
theorem issueTokens_within {later limit : Nat}
    (h : issueTokens cfg svc id user provider issue = (.ok pair, svc'))
    (hbelow : (svc.active id now).length < limit) (hlater : now ≤ later) :
    (svc'.active id later).length ≤ limit := by
  have hone : (svc'.active id later).length ≤ (svc.active id later).length + 1 :=
    active_length_issueTokens h
  have hanti := active_length_anti svc id hlater
  omega

/-! ## Making room -/

/-- The locking query fails, and nothing is revoked. -/
theorem revokeOldestExceeding_eq_self (hlocks : cfg.locksWindows = false) :
    revokeOldestExceeding cfg svc id user now = svc := by
  simp [revokeOldestExceeding, hlocks]

/-- The user is at the limit when a login counts the active sessions. -/
def AtLimit (cfg : Config) (svc : Service) (id : UUID) (user : User) (now : Nat) : Prop :=
  resolveSessionLimit cfg user ≤ (svc.active id now).length

instance (svc : Service) (id : UUID) (user : User) (now : Nat) :
    Decidable (AtLimit cfg svc id user now) := inferInstanceAs (Decidable (_ ≤ _))

/-- A login goes on below the limit, or where the question cannot be stored. -/
theorem enforceSessionLimit_eq_ok {stored : Bool} (hlocks : cfg.locksWindows = false)
    (h : enforceSessionLimit cfg svc id user stored now = .ok svc') :
    svc' = svc ∧ (AtLimit cfg svc id user now → stored = false) := by
  unfold enforceSessionLimit at h
  split at h
  · rename_i hroom
    refine ⟨(Except.ok.inj h).symm, fun hlimit => ?_⟩
    exact absurd hroom (Nat.not_lt.mpr hlimit)
  split at h
  · cases h
  rename_i hstored
  rw [revokeOldestExceeding_eq_self hlocks] at h
  exact ⟨(Except.ok.inj h).symm, fun _ => by simpa using hstored⟩

/-- After a login below the limit, or one for which Redis was available, the user is not above
the limit. -/
theorem finishLogin_within {stored : Bool} {create : Service → Except String TokenPair × Service}
    {later : Nat} (hlocks : cfg.locksWindows = false)
    (h : finishLogin cfg svc id user stored now create = (.ok pair, svc'))
    (hcreate : create svc = issueTokens cfg svc id user provider issue)
    (hstored : AtLimit cfg svc id user now → stored = true) (hlater : now ≤ later) :
    (svc'.active id later).length ≤ resolveSessionLimit cfg user := by
  obtain ⟨room, svc₁, hroom, hcreated, rfl⟩ := finishLogin_eq_ok h
  obtain ⟨rfl, hfree⟩ := enforceSessionLimit_eq_ok hlocks hroom
  rw [hcreate] at hcreated
  have hbelow : (room.active id now).length < resolveSessionLimit cfg user := by
    refine Nat.lt_of_not_le fun hlimit => ?_
    have hfull := hfree hlimit
    rw [hstored hlimit] at hfull
    cases hfull
  -- The row that is written last is not a session.
  change (svc₁.active id later).length ≤ _
  exact issueTokens_within hcreated hbelow hlater

/-! ## Logins -/

namespace Request

/-- Whom a login signs in, with the row that the limit is taken from. -/
def subject (cfg : Config) (svc : Service) : Request → Option (UUID × User)
  | .login input =>
    (svc.accounts.getByEmail (normalizeEmail cfg input.email)).map fun account =>
      (account.id, account.user)
  | .ssoLogin input =>
    match svc.findIdentity input.provider input.subject with
    | some identity =>
      (svc.accounts.getByID identity.userID).map fun user => (identity.userID, user)
    | none =>
      match svc.accounts.getByEmail (lowerText cfg.casing input.email) with
      | some account => some (account.id, account.user)
      | none => some (input.userID, input.user (lowerText cfg.casing input.email))
  | .resolveLogin input =>
    input.pendingUser.bind fun id => (svc.accounts.getByID id).map fun user => (id, user)
  | _ => none

/-- When a login counts the active sessions. -/
def countedAt : Request → Nat
  | .login input => input.now
  | .ssoLogin input => input.now
  | .resolveLogin input => input.now
  | _ => 0

/-- Whether Redis takes the question which session to give up. -/
def asks : Request → Bool
  | .login input => input.pendingStored
  | .ssoLogin input => input.pendingStored
  | _ => true

/-- A login at the limit finds Redis available. -/
def AsksAtLimit (cfg : Config) (svc : Service) (req : Request) : Prop :=
  ∀ id user, req.subject cfg svc = some (id, user) → AtLimit cfg svc id user req.countedAt →
    req.asks = true

end Request

section

variable (hlocks : cfg.locksWindows = false)

include hlocks

theorem passwordLogin_within {input : PasswordInput}
    (h : passwordLogin cfg svc input = (.ok pair, svc'))
    (hsubject : (Request.login input).subject cfg svc = some (id, user))
    (hasks : (Request.login input).AsksAtLimit cfg svc) (hlater : input.now ≤ now) :
    (svc'.active id now).length ≤ resolveSessionLimit cfg user := by
  unfold passwordLogin at h
  split at h
  · cases h
  rename_i account hfind
  split at h
  · cases h
  have heq : (account.id, account.user) = (id, user) := by
    simpa only [Request.subject, hfind, Option.map_some, Option.some.injEq] using hsubject
  cases heq
  exact finishLogin_within hlocks h rfl (hasks _ _ hsubject) hlater

theorem finishSSO_within (h : finishSSO cfg svc id user input = (.ok pair, svc'))
    (hasks : AtLimit cfg svc id user input.now → input.pendingStored = true)
    (hlater : input.now ≤ now) : (svc'.active id now).length ≤ resolveSessionLimit cfg user := by
  have hcreate : createSession cfg svc id user (some input.provider) input.issue =
      issueTokens cfg svc id user (some input.provider) input.issue := by
    simp only [createSession, revokeOldestExceeding_eq_self hlocks, ite_self]
  exact finishLogin_within hlocks h hcreate hasks hlater

theorem ssoExistingLogin_within (h : ssoExistingLogin cfg svc input id user = (.ok pair, svc'))
    (hasks : AtLimit cfg svc id user input.now → input.pendingStored = true)
    (hlater : input.now ≤ now) : (svc'.active id now).length ≤ resolveSessionLimit cfg user := by
  unfold ssoExistingLogin at h
  split at h
  · cases h
  -- Neither the rewritten row nor the link concerns a session or the limit.
  have hlimit : resolveSessionLimit cfg (input.linked user) = resolveSessionLimit cfg user := rfl
  rw [← hlimit]
  refine finishSSO_within hlocks h (fun hfull => hasks ?_) hlater
  unfold AtLimit at hfull ⊢
  rw [active_congr (link_sessions _)] at hfull
  exact hfull

end

/-- The resolution of a login counts again, and goes on below the limit only. -/
theorem resolveLogin_within {input : ResolveInput}
    (h : resolveLogin cfg svc input = (.ok pair, svc'))
    (hsubject : (Request.resolveLogin input).subject cfg svc = some (id, user))
    (hlater : input.now ≤ now) : (svc'.active id now).length ≤ resolveSessionLimit cfg user := by
  unfold resolveLogin at h
  split at h
  · cases h
  rename_i userID hpending
  simp only [Request.subject, hpending, Option.bind_some] at hsubject
  split at h
  · cases h
  rename_i row hrow
  rw [hrow] at hsubject
  cases hsubject
  dsimp only at h
  split at h
  · cases h
  rename_i hbelow
  exact issueTokens_within h (Nat.lt_of_not_le hbelow) hlater

/-- One login. -/
theorem handle_within {req : Request} (hlocks : cfg.locksWindows = false)
    (hasks : req.AsksAtLimit cfg svc) (hsubject : req.subject cfg svc = some (id, user))
    (hok : (handle cfg svc req).1 = .ok (some pair)) (hlater : req.countedAt ≤ now) :
    ((serve cfg svc req).active id now).length ≤ resolveSessionLimit cfg user := by
  cases req with
  | login input =>
    exact passwordLogin_within hlocks (withTokens_eq_ok hok) hsubject hasks hlater
  | ssoLogin input =>
    have h := withTokens_eq_ok hok
    have hasks := hasks _ _ hsubject
    simp only [Request.subject] at hsubject
    obtain ⟨identity, row, hidentity, hrow, h⟩ | ⟨account, hidentity, hemail, h⟩ |
      ⟨hidentity, hemail, h⟩ := ssoLogin_eq_ok h
    · simp only [hidentity, hrow] at hsubject
      cases hsubject
      exact ssoExistingLogin_within hlocks h hasks hlater
    · simp only [hidentity, hemail] at hsubject
      cases hsubject
      exact ssoExistingLogin_within hlocks h hasks hlater
    · simp only [hidentity, hemail] at hsubject
      cases hsubject
      obtain ⟨accounts, _, h⟩ := ssoFirstLogin_eq_ok h
      refine finishSSO_within hlocks h (fun hlimit => hasks ?_) hlater
      unfold AtLimit at hlimit ⊢
      rw [active_congr (link_sessions _)] at hlimit
      exact hlimit
  | resolveLogin input => exact resolveLogin_within (withTokens_eq_ok hok) hsubject hlater
  | _ => cases hsubject

/-- In a run in which every login at the limit finds Redis available, a user has at most as many
active sessions as the limit allows after each successful login, at whatever later time. -/
theorem active_within_limit_after_login {before after : List Request} {req : Request}
    (hlocks : cfg.locksWindows = false)
    (hredis : Trace.Guarded (serve cfg) (fun svc req => req.AsksAtLimit cfg svc) svc
      (before ++ req :: after))
    (hsubject : req.subject cfg (Trace.run (serve cfg) svc before) = some (id, user))
    (hok : (handle cfg (Trace.run (serve cfg) svc before) req).1 = .ok (some pair))
    (hlater : req.countedAt ≤ now) :
    ((Trace.run (serve cfg) svc (before ++ [req])).active id now).length ≤
      resolveSessionLimit cfg user := by
  obtain ⟨_, hasks, _⟩ := Trace.Guarded.append_iff.mp hredis
  rw [Trace.run_append]
  exact handle_within hlocks hasks hsubject hok hlater

end

/-! ## A login without Redis -/

/-- A user with a password. -/
def passwordUser : User := { sampleUser with passwordHash := some "hash:correct horse" }

/-- The user has one session, which lasts until the time 100. -/
def oneSession : Service where
  accounts := ⟨⟨[⟨1, passwordUser⟩], by decide⟩, by decide, by decide⟩
  sessions := ⟨[⟨10, 1, "h10", 10, none, 100, false⟩], by decide⟩
  setupCompleted := true

def limitConfig (maxSessionsPerUser : Int) : Config := { sampleConfig with maxSessionsPerUser }

/-- A login of the user at the time 1. -/
def secondLogin (pendingStored : Bool) : Request :=
  .login {
    email := "user@example.com"
    checks := ⟨"correct horse", none, .ok false, some 0, some 0, .ok ()⟩
    pendingStored := pendingStored
    now := 1
    issue := ⟨1, 1, 11, "h11", 11⟩ }

/-- Two sessions are allowed: the second login is below the limit, and reaches it. -/
theorem second_login_within_limit :
    ((Trace.run (serve (limitConfig 2)) oneSession [secondLogin false]).active 1 1).length ≤ 2 := by
  have hsubject : (secondLogin false).subject (limitConfig 2) oneSession =
      some (1, passwordUser) := by decide +kernel
  have hasks : (secondLogin false).AsksAtLimit (limitConfig 2) oneSession := by
    intro id user hfound hlimit
    cases hfound
    exact absurd hlimit (by decide +kernel)
  have hsome : (handle (limitConfig 2) oneSession (secondLogin false)).1.toOption.join.isSome =
      true := by decide +kernel
  obtain ⟨pair, hpair⟩ := exists_pair hsome
  have hredis : Trace.Guarded (serve (limitConfig 2))
      (fun svc req => req.AsksAtLimit (limitConfig 2) svc) oneSession
      ([] ++ secondLogin false :: []) := ⟨hasks, trivial⟩
  exact active_within_limit_after_login rfl hredis hsubject hpair (Nat.le_refl 1)

/-- One session is allowed and Redis is down: after the second login the user has two. -/
theorem second_login_exceeds_limit :
    (limitConfig 1).locksWindows = false ∧
      (secondLogin false).subject (limitConfig 1) oneSession = some (1, passwordUser) ∧
      (handle (limitConfig 1) oneSession (secondLogin false)).1.toOption.join.isSome = true ∧
      resolveSessionLimit (limitConfig 1) passwordUser = 1 ∧
      ((Trace.run (serve (limitConfig 1)) oneSession [secondLogin false]).active 1 1).length =
        2 := by
  decide +kernel

end BurnerByte.Account
