import BurnerByte.Account.SessionLimit
import BurnerByte.Core.Tickets

/-!
# Logins that wait for an answer

A login at the session limit is interrupted: Redis keeps a record of it under a random
token, and the user sends the token back with the session to give up. `ResolveLogin`
consumes the record and signs the user in. The record has the user, the IP address and
the user agent, but not how the user had signed in, so the session that results is always
one of a password login.
-/

namespace BurnerByte.Account

open Sql Expiring

structure PendingLogin where
  userID : UUID
  ip : String
  userAgent : String

/-- How a user signs in: by an SSO provider, or by a password. -/
abbrev AuthMethod := Option String

/-- The service, and the pending logins with the method of the login that each of them
interrupted. -/
structure Desk where
  svc : Service
  pending : Tickets String PendingLogin AuthMethod

/-- What a request brings along. -/
structure Visit where
  ip : String
  userAgent : String
  /-- The token that a request to resolve a login presents. -/
  presented : String
  /-- Whether Redis answers when the token is consumed. -/
  consumable : Bool
  /-- The token under which Redis keeps a pending login, if it can. -/
  drawn : Option String

/-- The answer of a login that is interrupted. -/
def isInterrupted : Except String (Option TokenPair) → Bool
  | .error err => err = "session limit reached"
  | .ok _ => false

section

variable (cfg : Config) (ttl : Nat)

section

variable (desk : Desk) (visit : Visit) (input : ResolveInput)

/-- A login that may be interrupted. -/
def Desk.attempt (req : Request) (method : AuthMethod) (now : Nat) :
    Except String (Option TokenPair) × Desk :=
  let result := handle cfg desk.svc req
  let desk' := { desk with svc := result.2 }
  match isInterrupted result.1, visit.drawn, req.subject cfg desk.svc with
  | true, some token, some (userID, _) =>
    (result.1, { desk' with
      pending := desk.pending.issue token ⟨userID, visit.ip, visit.userAgent⟩ (some (now + ttl))
        method })
  | _, _, _ => (result.1, desk')

/-- The record of a token, which is consumed. -/
def Desk.consume (now : Nat) : Option PendingLogin × Desk :=
  if visit.consumable then
    let redeemed := desk.pending.redeem now visit.presented
    (redeemed.1, { desk with pending := redeemed.2 })
  else (none, desk)

/-- The request that a resolution makes of the service, with the record of its token. -/
def ResolveInput.withRecord (login : Option PendingLogin) (visit : Visit) : ResolveInput :=
  { input with
    pendingUser := login.map PendingLogin.userID
    pendingStored := visit.drawn.isSome }

/-- Another login may have taken the place that was given up. The login is then interrupted
again, under a new token. -/
def Desk.resolve : Except String (Option TokenPair) × Desk :=
  let consumed := desk.consume visit input.now
  let result := handle cfg desk.svc (.resolveLogin (input.withRecord consumed.1 visit))
  let desk' := { consumed.2 with svc := result.2 }
  match isInterrupted result.1, visit.drawn, consumed.1, desk.pending.cause visit.presented with
  | true, some token, some login, some method =>
    (result.1, { desk' with
      pending := consumed.2.pending.issue token login (some (input.now + ttl)) method })
  | _, _, _, _ => (result.1, desk')

def Desk.handle : Visit × Request → Except String (Option TokenPair) × Desk
  | (visit, .login input) =>
    desk.attempt cfg ttl visit (.login { input with pendingStored := visit.drawn.isSome }) none
      input.now
  | (visit, .ssoLogin input) =>
    desk.attempt cfg ttl visit (.ssoLogin { input with pendingStored := visit.drawn.isSome })
      (some input.provider) input.now
  | (visit, .resolveLogin input) => desk.resolve cfg ttl visit input
  | (_, req) =>
    let result := Account.handle cfg desk.svc req
    (result.1, { desk with svc := result.2 })

/-- The service and its pending logins after a request. -/
def Desk.serve (visit : Visit × Request) : Desk := (desk.handle cfg ttl visit).2

end

end

/-! ## Every pending login was interrupted -/

section

variable {cfg : Config} {ttl : Nat} {desk : Desk}

/-- The method of every pending login is known. -/
def Desk.Traced (desk : Desk) : Prop := desk.pending.Traced fun _ _ _ => True

theorem Desk.Traced.attempt (h : desk.Traced) (visit : Visit) (req : Request) (method : AuthMethod)
    (now : Nat) : (desk.attempt cfg ttl visit req method now).2.Traced := by
  unfold Desk.attempt
  dsimp only
  split
  · exact .issue h _ trivial
  · exact h

theorem Desk.Traced.consume (h : desk.Traced) (visit : Visit) (now : Nat) :
    (desk.consume visit now).2.Traced := by
  unfold Desk.consume
  split
  · exact .redeem h now visit.presented
  · exact h

theorem Desk.Traced.resolve (h : desk.Traced) (visit : Visit) (input : ResolveInput) :
    (desk.resolve cfg ttl visit input).2.Traced := by
  have hconsumed := h.consume visit input.now
  unfold Desk.resolve
  dsimp only
  split
  · exact .issue hconsumed _ trivial
  · exact hconsumed

theorem Desk.Traced.serve (h : desk.Traced) (visit : Visit × Request) :
    (desk.serve cfg ttl visit).Traced := by
  obtain ⟨visit, req⟩ := visit
  cases req with
  | login input | ssoLogin input => exact h.attempt visit _ _ _
  | resolveLogin input => exact h.resolve visit input
  | _ =>
    simp only [Desk.serve, Desk.handle]
    change Tickets.Traced _ desk.pending
    exact h

/-! ## The session of a resolved login -/

variable {svc : Service} {input : ResolveInput} {pair : TokenPair} {visit : Visit}

theorem resolveLogin_session {svc' : Service} (h : resolveLogin cfg svc input = (.ok pair, svc')) :
    ∃ id, input.pendingUser = some id ∧ input.issue.session cfg id none ∈ svc'.sessions := by
  unfold resolveLogin at h
  split at h
  · cases h
  rename_i id hpending
  split at h
  · cases h
  dsimp only at h
  split at h
  · cases h
  unfold createSessionDirect issueTokens at h
  split at h
  · cases h
  rename_i svc₁ hinsert
  cases h
  obtain ⟨sessions, hrows, rfl⟩ := insertSession_eq_ok hinsert
  exact ⟨id, hpending, ((Table.insert_eq_some hrows).2 _).mpr (.inl rfl)⟩

/-- The session goes on with the method, and the lock of its user accepts it if that is the
method of the lock. -/
def Session.Continues (session : Session) (method : AuthMethod) (svc : Service) : Prop :=
  session.ssoProviderName = method ∧
    ∀ user, svc.accounts.getByID session.userID = some user → user.authMethodLock = some "sso" →
      method.isSome → checkSessionAuthMethodLock user session = .ok ()

theorem Session.continues_iff {session : Session} {method : AuthMethod}
    (h : session.ssoProviderName = none) : session.Continues method svc ↔ method = none := by
  constructor
  · intro hcontinues
    exact hcontinues.1.symm.trans h
  · intro hmethod
    subst hmethod
    exact ⟨h, fun _ _ _ hsome => nomatch hsome⟩

/-- A resolution answers and does to the service what `ResolveLogin` does with the record of the
token. -/
theorem Desk.resolve_eq (visit : Visit) (input : ResolveInput) :
    ((desk.resolve cfg ttl visit input).1, (desk.resolve cfg ttl visit input).2.svc) =
      Account.handle cfg desk.svc
        (.resolveLogin (input.withRecord (desk.consume visit input.now).1 visit)) := by
  unfold Desk.resolve
  dsimp only
  split <;> rfl

theorem Desk.consume_eq_some {now : Nat} {login : PendingLogin}
    (h : (desk.consume visit now).1 = some login) :
    desk.pending.store.get now visit.presented = some login := by
  unfold Desk.consume at h
  split at h
  · exact h
  · cases h

/-- A resolution that succeeds has found a record, and creates a session. -/
theorem Desk.resolve_ok (h : (desk.resolve cfg ttl visit input).1 = .ok (some pair)) :
    ∃ login, desk.pending.store.get input.now visit.presented = some login ∧
      input.issue.session cfg login.userID none ∈
        (desk.resolve cfg ttl visit input).2.svc.sessions := by
  obtain ⟨hanswer, hsvc⟩ := Prod.mk.inj (desk.resolve_eq visit input)
  rw [hanswer] at h
  obtain ⟨id, hpending, hsession⟩ := resolveLogin_session (withTokens_eq_ok h)
  obtain ⟨login, hlogin, rfl⟩ := Option.map_eq_some_iff.mp hpending
  rw [hsvc]
  exact ⟨login, Desk.consume_eq_some hlogin, hsession⟩

/-- A pending login that is resolved ends in a session of the method that was interrupted if
and only if that was a password login. -/
theorem resolved_login_continues_iff {visits : List (Visit × Request)}
    (hempty : desk.pending = .empty)
    (hok : ((Trace.run (Desk.serve cfg ttl) desk visits).handle cfg ttl
      (visit, .resolveLogin input)).1 = .ok (some pair)) :
    ∃ method session,
      (Trace.run (Desk.serve cfg ttl) desk visits).pending.cause visit.presented = some method ∧
      session ∈ (Trace.run (Desk.serve cfg ttl) desk
        (visits ++ [(visit, .resolveLogin input)])).svc.sessions ∧
      session.id = input.issue.sessionID ∧
      (session.Continues method (Trace.run (Desk.serve cfg ttl) desk
        (visits ++ [(visit, .resolveLogin input)])).svc ↔ method = none) := by
  have hstart : desk.Traced := by
    unfold Desk.Traced
    rw [hempty]
    exact Tickets.traced_empty
  have hstep : ∀ (desk : Desk) visit, desk.Traced → (desk.serve cfg ttl visit).Traced :=
    fun _ visit h => h.serve visit
  have htraced := Trace.run_induct hstep hstart visits
  obtain ⟨login, hget, hsession⟩ := Desk.resolve_ok hok
  obtain ⟨method, hcause, _⟩ := Tickets.Traced.cause_of_get htraced hget
  rw [Trace.run_append]
  exact ⟨method, _, hcause, hsession, rfl, Session.continues_iff rfl⟩

end

/-! ## An interrupted SSO login -/

/-- A request from one browser. -/
def browser (presented : String) (drawn : Option String) : Visit :=
  ⟨"10.0.0.1", "browser", presented, true, drawn⟩

/-- Give up the session 10, at the time 2. -/
def giveUp : Request :=
  .resolveLogin ⟨none, 10, false, 2, ⟨2, 2, 12, "h12", 12⟩⟩

/-- After a login. -/
def interrupted (svc : Service) (login : Request) : Desk :=
  Trace.run (Desk.serve (limitConfig 1) 300000000000) ⟨svc, .empty⟩
    [(browser "" (some "t1"), login)]

/-- After a login that is interrupted and resolved. -/
def resolved (svc : Service) (login : Request) : Desk :=
  Trace.run (Desk.serve (limitConfig 1) 300000000000) ⟨svc, .empty⟩
    [(browser "" (some "t1"), login), (browser "t1" none, giveUp)]

/-- A password login at the limit is interrupted, and resolved. -/
theorem password_login_continues :
    ∃ method session,
      (interrupted oneSession (secondLogin true)).pending.cause "t1" = some method ∧
      session ∈ (resolved oneSession (secondLogin true)).svc.sessions ∧ session.id = 12 ∧
      (session.Continues method (resolved oneSession (secondLogin true)).svc ↔ method = none) := by
  have hsome : ((interrupted oneSession (secondLogin true)).handle (limitConfig 1) 300000000000
      (browser "t1" none, giveUp)).1.toOption.join.isSome = true := by decide +kernel
  obtain ⟨pair, hpair⟩ := exists_pair hsome
  exact resolved_login_continues_iff rfl hpair

/-- A user who is locked to SSO and has no password. -/
def ssoUser : User :=
  { sampleUser with
    passwordHash := none, ssoProvider := some "google", authMethodLock := some "sso" }

/-- The user has one session, of an SSO login. -/
def oneSsoSession : Service where
  accounts := ⟨⟨[⟨1, ssoUser⟩], by decide⟩, by decide, by decide⟩
  sessions := ⟨[⟨10, 1, "h10", 10, some "google", 100, false⟩], by decide⟩
  identities := [⟨"google", "g1", 1⟩]
  setupCompleted := true

def secondSsoLogin : Request :=
  .ssoLogin {
    provider := "google"
    subject := "g1"
    email := "user@example.com"
    displayName := "User"
    emailVerified := true
    allowedDomains := ""
    mappings := 0
    invite := none
    userID := 2
    changedAt := 1
    pendingStored := true
    now := 1
    issue := ⟨1, 1, 11, "h11", 11⟩ }

/-- The SSO login of the user is interrupted and resolved. The session is one of a password
login, and cannot be refreshed. -/
theorem sso_login_ends_in_password_session :
    (interrupted oneSsoSession secondSsoLogin).pending.cause "t1" = some (some "google") ∧
      ((interrupted oneSsoSession secondSsoLogin).handle (limitConfig 1) 300000000000
        (browser "t1" none, giveUp)).1.toOption.join.isSome = true ∧
      ((resolved oneSsoSession secondSsoLogin).svc.sessions.find? 12).map
        Session.ssoProviderName = some none ∧
      (refresh (limitConfig 1) (resolved oneSsoSession secondSsoLogin).svc
        ⟨"h12", 3, 13, "h13", 200⟩ 3).1 = .error "session does not match auth method lock" := by
  decide +kernel

end BurnerByte.Account
