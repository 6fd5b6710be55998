import BurnerByte.Account.AccessTokens

/-!
# Access tokens after a revocation

A request that revokes sessions ends them in the database. An access token that was
issued before is refused afterwards only if the request also leaves a time for the
middleware to compare with: it may write the time of the password change, or mark the
revocation in Redis, or do neither. A mark has whole seconds, so that it does not cover
the tokens of the second in which it is made. Redis forgets a mark no sooner than the
tokens it covers expire.
-/

namespace BurnerByte.Account

open Go

/-! ## What a revocation leaves behind -/

section

variable (cfg : Config) (svc : Service)

/-- The user whose sessions a successful request revokes. -/
def Request.revokedUser : Request → Option UUID
  | .revokeSession userID _ _ => some userID
  | .revokeAllSessions userID _ => some userID
  | .adminRevokeSessions userID _ => some userID
  | .logout tokenHash _ => (svc.db.getByTokenHash tokenHash).map Session.userID
  | .resolveLogin input => input.pendingUser.filter fun id => (svc.accounts.getByID id).isSome
  | .refresh input _ =>
    ((svc.db.getByTokenHash input.tokenHash).filter Session.revoked).map Session.userID
  | .migrateToSSO userID => if (svc.migrateToSSO userID).1.isOk then some userID else none
  | .migrateToPassword userID new now =>
    if (svc.migrateToPassword cfg userID new now).1.isOk then some userID else none
  | .resetPassword token tokenUser new now =>
    if (svc.resetPassword cfg token tokenUser new now).1.isOk then tokenUser else none
  | _ => none

/-- The time that the request writes as that of the last password change. -/
def Request.changesAt : Request → Option Nat
  | .resetPassword _ _ _ now => some now
  | .migrateToPassword _ _ now => some now
  | _ => none

/-- The time with which the request marks the user. -/
def Request.marksAt : Request → Option Nat
  | .revokeSession _ _ now => some now
  | .revokeAllSessions userID now => if 0 < svc.db.revokeAllCount userID then some now else none
  | .adminRevokeSessions _ now => some now
  | .logout _ now => some now
  | .resolveLogin input => some input.now
  | _ => none

end

/-- The times that the middleware compares with are the request's own, or those of before. -/
structure Service.Leaves (svc svc' : Service) (id : UUID) (user : User)
    (changesAt marksAt : Option Nat) : Prop where
  changed : ∃ user', svc'.accounts.getByID id = some user' ∧
    user'.passwordChangedAt = (changesAt.map timestamptz).or user.passwordChangedAt
  marked : svc'.marks id = marksAt.or (svc.marks id)

variable {cfg : Config} {svc svc' : Service} {id : UUID} {user : User}

section

variable (h : svc.accounts.getByID id = some user)

include h

theorem Service.Leaves.nothing (p : Session → Bool) :
    svc.Leaves (svc.revokeWhere p) id user none none :=
  ⟨⟨user, h, rfl⟩, rfl⟩

theorem Service.Leaves.mark (p : Session → Bool)
    (now : Nat) : svc.Leaves ((svc.revokeWhere p).markRevoked id now) id user none (some now) :=
  ⟨⟨user, h, rfl⟩, if_pos rfl⟩

theorem changeUser_leaves {missing : String} {change : User → Except String User}
    {p : Session → Bool} {changesAt : Option Nat}
    (hchange : ∀ new, change user = .ok new →
      new.stored.passwordChangedAt = (changesAt.map timestamptz).or user.passwordChangedAt)
    (hok : (changeUser svc id missing change p).1.isOk) :
    svc.Leaves (changeUser svc id missing change p).2 id user changesAt none := by
  unfold changeUser at hok ⊢
  rw [h] at hok ⊢
  dsimp only at hok ⊢
  cases hnew : change user with
  | error err =>
    rw [hnew] at hok
    cases hok
  | ok new => exact ⟨⟨_, Accounts.getByID_update_self h, hchange new hnew⟩, rfl⟩

theorem resetPassword_leaves {token new : String} {now : Nat}
    (hok : (svc.resetPassword cfg token (some id) new now).1.isOk) :
    svc.Leaves (svc.resetPassword cfg token (some id) new now).2 id user (some now) none := by
  unfold Service.resetPassword at hok ⊢
  split at hok
  · cases hok
  rename_i hgiven
  rw [if_neg hgiven]
  cases hvalid : cfg.env.validatePassword new with
  | error err =>
    rw [hvalid] at hok
    cases hok
  | ok _ =>
    rw [hvalid] at hok
    refine changeUser_leaves h (fun row hrow => ?_) hok
    simp [User.stored, resetPassword_changedAt hrow]

end

theorem issueTokens_marks {provider : Option String} {issue : Issue} :
    (issueTokens cfg svc id user provider issue).2.marks = svc.marks := by
  unfold issueTokens
  split
  · rfl
  rename_i svc' hok
  obtain ⟨sessions, _, rfl⟩ := insertSession_eq_ok hok
  rfl

theorem resolveLogin_leaves {input : ResolveInput} (h : svc.accounts.getByID id = some user)
    (hpending : input.pendingUser = some id) :
    svc.Leaves (resolveLogin cfg svc input).2 id user none (some input.now) := by
  have hmarked := Service.Leaves.mark h (fun s => s.id = input.revokeSessionID && s.userID = id)
    input.now
  unfold resolveLogin
  rw [hpending]
  dsimp only
  rw [h]
  dsimp only
  split
  · exact hmarked
  constructor
  · rw [createSessionDirect, issueTokens_keepsUsers.accounts]
    exact hmarked.changed
  · rw [createSessionDirect, issueTokens_marks]
    exact hmarked.marked

/-- What the middleware finds after a request has revoked sessions. -/
theorem handle_leaves (req : Request) (h : svc.accounts.getByID id = some user)
    (hrevoked : req.revokedUser cfg svc = some id) :
    svc.Leaves (handle cfg svc req).2 id user req.changesAt (req.marksAt svc) := by
  cases req with simp only [Request.revokedUser, handle, withTokens, withoutTokens] at hrevoked ⊢
  | revokeAllSessions userID now =>
    cases hrevoked
    simp only [revokeAllSessions, Request.marksAt]
    split
    · exact .mark h _ now
    · exact .nothing h _
  | revokeSession userID sessionID now | adminRevokeSessions userID now =>
    cases hrevoked
    exact .mark h _ now
  | logout tokenHash now =>
    obtain ⟨session, hfind, rfl⟩ := Option.map_eq_some_iff.mp hrevoked
    simp only [logout, hfind]
    exact .mark h _ now
  | resolveLogin input =>
    exact resolveLogin_leaves h (Option.filter_eq_some_iff.mp hrevoked).1
  | refresh input issuedAt =>
    obtain ⟨session, hfind, rfl⟩ := Option.map_eq_some_iff.mp hrevoked
    obtain ⟨hfind, hspent⟩ := Option.filter_eq_some_iff.mp hfind
    simp only [refresh, hfind, hspent, if_true]
    exact .nothing h _
  | migrateToSSO userID =>
    split at hrevoked
    · rename_i hok
      cases hrevoked
      exact changeUser_leaves h (fun row hrow => migrateToSSO_changedAt h hrow) hok
    · cases hrevoked
  | migrateToPassword userID new now =>
    split at hrevoked
    · rename_i hok
      cases hrevoked
      refine changeUser_leaves h (fun row hrow => ?_) hok
      simp [User.stored, migrateToPassword_changedAt hrow, Request.changesAt]
    · cases hrevoked
  | resetPassword token tokenUser new now =>
    split at hrevoked
    · rename_i hok
      subst hrevoked
      exact resetPassword_leaves h hok
    · cases hrevoked
  | _ => cases hrevoked

/-! ## Times only grow -/

variable {req : Request} {bound : Nat}

/-- A request writes the time of one of its own readings, or leaves the time alone. -/
theorem Request.Rewrites.changedAt {old : User} (h : req.Rewrites old user) :
    user.stored.passwordChangedAt = old.passwordChangedAt ∨
      ∃ now ∈ req.readings, user.stored.passwordChangedAt = some (timestamptz now) := by
  have hwrites : ∀ now, user.passwordChangedAt = some now →
      user.stored.passwordChangedAt = some (timestamptz now) := by
    intro now hnow
    simp [User.stored, hnow]
  cases req with
  | changePassword userID sessionID current new now | resetPassword token tokenUser new now
  | migrateToPassword userID new now =>
    exact .inr ⟨now, List.mem_singleton_self now, hwrites now h⟩
  | migrateToSSO userID => exact .inl h
  | _ => exact .inl h.2

theorem timestamptz_le (time : Nat) : timestamptz time ≤ time := Nat.div_mul_le_self time 1000

theorem unix_mono {a b : Nat} (h : a ≤ b) : Auth.unix a ≤ Auth.unix b := Nat.div_le_div_right h

/-- The times in the state all lie before a time. -/
structure Service.Before (bound : Nat) (svc : Service) : Prop where
  marks : ∀ id now, svc.marks id = some now → now ≤ bound
  changed : ∀ id user changedAt, svc.accounts.getByID id = some user →
    user.passwordChangedAt = some changedAt → changedAt ≤ bound

theorem Service.Before.mono {bound' : Nat} (h : svc.Before bound) (hle : bound ≤ bound') :
    svc.Before bound' :=
  ⟨fun id now hmark => (h.marks id now hmark).trans hle,
    fun id user changedAt huser hchanged => (h.changed id user changedAt huser hchanged).trans hle⟩

/-- An effect that a request may have leaves a row's time alone, or sets it to a reading. -/
theorem Limits.Moves.changedAt {found found' : Option User}
    (h : (req.limits cfg).Moves id found found') (huser : found = some user) :
    ∃ user', found' = some user' ∧ (user'.passwordChangedAt = user.passwordChangedAt ∨
      ∃ now ∈ req.readings, user'.passwordChangedAt = some (timestamptz now)) := by
  cases h with
  | same => exact ⟨user, huser, .inl rfl⟩
  | created new hnew => cases huser
  | rewritten old new hrewrite =>
    cases huser
    exact ⟨_, rfl, Request.Rewrites.changedAt hrewrite⟩

theorem Service.Before.apply {e : Effect} (h : svc.Before bound)
    (hreadings : ∀ now ∈ req.readings, now ≤ bound) (he : (req.limits cfg).Allows svc e) :
    (svc.apply e).Before bound := by
  constructor
  · intro id now hmark
    cases he.marks id with
    | inl hsame => exact h.marks id now (hsame ▸ hmark)
    | inr hnew =>
      obtain ⟨time, htime, heq⟩ := hnew
      obtain rfl := Option.some.inj (heq.symm.trans hmark)
      exact hreadings time htime
  · intro id user' changedAt huser' hchanged
    have hmoves := he.moves id
    rw [huser'] at hmoves
    cases hfound : svc.accounts.getByID id with
    | none =>
      rw [hfound] at hmoves
      cases hmoves with
      | created user hnew =>
        obtain ⟨time, htime, rfl⟩ := Option.map_eq_some_iff.mp hchanged
        exact (timestamptz_le time).trans (hreadings time (hnew.2 time htime))
    | some user =>
      obtain ⟨_, heq, hcases⟩ := hmoves.changedAt hfound
      cases heq
      cases hcases with
      | inl hsame => exact h.changed id user changedAt hfound (hsame ▸ hchanged)
      | inr hnew =>
        obtain ⟨time, htime, heq⟩ := hnew
        obtain rfl := Option.some.inj (heq.symm.trans hchanged)
        exact (timestamptz_le time).trans (hreadings time htime)

/-- The times in the state all lie in the past. -/
def Clocked.Past (s : Clocked) : Prop := s.svc.Before s.clock

theorem Clocked.Past.step {s : Clocked} {e : Timed} (h : s.Past) (he : s.OnTime e) :
    (s.step cfg e).Past :=
  (handle_does cfg s.svc e.request).invariant (h.mono he.1) fun _ _ hsvc hallows =>
    hsvc.apply (fun now hnow => (he.2 now hnow).2) hallows

/-! ## Rejected for good -/

variable {issued : Nat}

/-- The password was changed after the token was issued. -/
def Service.ChangedSince (issued : Nat) (id : UUID) (svc : Service) : Prop :=
  ∃ user changedAt, svc.accounts.getByID id = some user ∧
    user.passwordChangedAt = some changedAt ∧ numericDate issued < changedAt

/-- A revocation was marked in a later second than that of the token. -/
def Service.MarkedSince (issued : Nat) (id : UUID) (svc : Service) : Prop :=
  ∃ now, svc.marks id = some now ∧ Auth.unix issued < Auth.unix now

theorem Service.ChangedSince.apply {e : Effect} (h : svc.ChangedSince issued id)
    (hreadings : ∀ now ∈ req.readings, numericDate issued < timestamptz now)
    (he : (req.limits cfg).Allows svc e) : (svc.apply e).ChangedSince issued id := by
  obtain ⟨user, changedAt, huser, hchanged, hlt⟩ := h
  obtain ⟨user', huser', hcases⟩ := (he.moves id).changedAt huser
  cases hcases with
  | inl hsame => exact ⟨user', changedAt, huser', hsame.trans hchanged, hlt⟩
  | inr hnew =>
    obtain ⟨now, hnow, heq⟩ := hnew
    exact ⟨user', timestamptz now, huser', heq, hreadings now hnow⟩

theorem Service.MarkedSince.apply {e : Effect} (h : svc.MarkedSince issued id)
    (hreadings : ∀ now ∈ req.readings, Auth.unix issued < Auth.unix now)
    (he : (req.limits cfg).Allows svc e) : (svc.apply e).MarkedSince issued id := by
  obtain ⟨time, hmark, hlt⟩ := h
  cases he.marks id with
  | inl hsame => exact ⟨time, hsame.trans hmark, hlt⟩
  | inr hnew =>
    obtain ⟨now, hnow, heq⟩ := hnew
    exact ⟨now, heq, hreadings now hnow⟩

variable {s : Clocked} {holder : User} {now : Nat}

/-- A later reading is stored as a later time than any that is in the past. -/
theorem Clocked.Past.lt_timestamptz {changedAt : Nat} (h : s.Past)
    (huser : s.svc.accounts.getByID id = some user)
    (hchanged : user.passwordChangedAt = some changedAt) (hnow : s.clock ≤ now) :
    changedAt ≤ timestamptz now := by
  have hstored := congrArg User.passwordChangedAt (Accounts.stored_of_getByID huser)
  simp only [User.stored, hchanged, Option.map_some, Option.some.injEq] at hstored
  rw [← hstored]
  have hle := (h.changed id user changedAt huser hchanged).trans hnow
  exact Nat.mul_le_mul_right 1000 (Nat.div_le_div_right hle)

/-- A token that has expired, or is older than a change or a mark, stays rejected. -/
structure Clocked.Rejects (cfg : Config) (issued : Nat) (id : UUID) (s : Clocked) : Prop where
  past : s.Past
  reason : numericDate (issued + cfg.tokens.accessTTL) ≤ s.clock ∨
    s.svc.ChangedSince issued id ∨ s.svc.MarkedSince issued id

theorem Clocked.Rejects.step {e : Timed} (h : s.Rejects cfg issued id) (he : s.OnTime e) :
    (s.step cfg e).Rejects cfg issued id := by
  refine ⟨h.past.step he, ?_⟩
  rcases h.reason with hexpired | hchanged | hmarked
  · exact .inl (hexpired.trans he.1)
  · refine .inr (.inl ?_)
    have hreadings : ∀ now ∈ e.request.readings, numericDate issued < timestamptz now := by
      intro now hnow
      obtain ⟨user, changedAt, huser, hat, hlt⟩ := hchanged
      exact hlt.trans_le (h.past.lt_timestamptz huser hat (he.2 now hnow).1)
    exact (handle_does cfg s.svc e.request).invariant hchanged
      fun _ _ hsvc heffect => hsvc.apply hreadings heffect
  · refine .inr (.inr ?_)
    have hreadings : ∀ now ∈ e.request.readings, Auth.unix issued < Auth.unix now := by
      intro now hnow
      obtain ⟨time, hmark, hlt⟩ := hmarked
      exact hlt.trans_le (unix_mono ((h.past.marks id time hmark).trans (he.2 now hnow).1))
    exact (handle_does cfg s.svc e.request).invariant hmarked
      fun _ _ hsvc heffect => hsvc.apply hreadings heffect

/-- Redis keeps a mark until the tokens of earlier seconds have expired. -/
theorem expired_of_redisDeadline {set ttl deadline : Nat} (h : Auth.unix issued < Auth.unix set)
    (hdeadline : redisDeadline set ttl = some deadline) :
    numericDate (issued + ttl) ≤ deadline := by
  unfold redisDeadline at hdeadline
  unfold Auth.unix at h
  unfold numericDate
  split at hdeadline
  · cases hdeadline
  split at hdeadline
  · cases hdeadline
    omega
  · cases hdeadline
    omega

variable {env : Auth.Env} {others : Others}

theorem Clocked.Rejects.not_accepts (hverifies : Verifies env cfg.tokens)
    (h : s.Rejects cfg issued id) (holder : User) (hnow : s.clock ≤ now) :
    ¬ s.svc.Accepts cfg env others now (cfg.tokens.generateAccessToken issued id holder) := by
  rw [accepts_generateAccessToken hverifies]
  rintro ⟨hlive, user, huser, hsame, hmark⟩
  rcases h.reason with hexpired | ⟨old, changedAt, hold, hat, hlt⟩ | ⟨time, htime, hlt⟩
  · omega
  · cases hold.symm.trans huser
    exact absurd (hsame changedAt hat) (Nat.not_le.mpr hlt)
  unfold Service.revokedAt at hmark
  rw [htime] at hmark
  dsimp only at hmark
  cases hdeadline : redisDeadline time cfg.tokens.accessTTL with
  | none =>
    rw [hdeadline] at hmark
    simp only [Option.all_none, if_true] at hmark
    omega
  | some deadline =>
    have hexpired := expired_of_redisDeadline hlt hdeadline
    rw [hdeadline] at hmark
    have hbefore : now < deadline := by omega
    simp only [Option.all_some, hbefore, decide_true, if_true] at hmark
    omega

/-- Why the middleware does not accept a token of an existing user. -/
theorem reason_of_not_accepts (hverifies : Verifies env cfg.tokens)
    (huser : svc.accounts.getByID id = some user)
    (h : ¬ svc.Accepts cfg env others now (cfg.tokens.generateAccessToken issued id holder)) :
    numericDate (issued + cfg.tokens.accessTTL) ≤ now ∨ svc.ChangedSince issued id ∨
      svc.MarkedSince issued id := by
  by_contra hnone
  obtain ⟨hlive, hchanged, hmarked⟩ := by simpa only [not_or, Nat.not_le] using hnone
  refine h ((accepts_generateAccessToken hverifies).mpr ⟨hlive, user, huser, ?_, ?_⟩)
  · intro changedAt hat
    by_contra hlt
    exact hchanged ⟨user, changedAt, huser, hat, Nat.not_le.mp hlt⟩
  · refine revokedAt_le fun time htime => ?_
    by_contra hlt
    exact hmarked ⟨time, htime, Nat.not_le.mp hlt⟩

/-- Whatever is requested next, the middleware does not accept the token again. -/
def Clocked.Refuses (cfg : Config) (env : Auth.Env) (others : Others) (token : Bytes)
    (s : Clocked) : Prop :=
  ∀ later, Trace.Guarded (Clocked.step cfg) Clocked.OnTime s later →
    ∀ now, (Trace.run (Clocked.step cfg) s later).clock ≤ now →
      ¬ (Trace.run (Clocked.step cfg) s later).svc.Accepts cfg env others now token

/-- A token that the middleware accepts stays accepted if the request leaves no later time. -/
theorem Service.Leaves.accepts {changesAt marksAt : Option Nat}
    (hverifies : Verifies env cfg.tokens) (huser : svc.accounts.getByID id = some user)
    (h : svc.Leaves svc' id user changesAt marksAt)
    (hchanges : ∀ time ∈ changesAt, timestamptz time ≤ numericDate issued)
    (hmarks : ∀ time ∈ marksAt, Auth.unix time ≤ Auth.unix issued)
    (haccepts : svc.Accepts cfg env others now (cfg.tokens.generateAccessToken issued id holder)) :
    svc'.Accepts cfg env others now (cfg.tokens.generateAccessToken issued id holder) := by
  rw [accepts_generateAccessToken hverifies] at haccepts ⊢
  obtain ⟨hlive, old, hold, hsame, hmark⟩ := haccepts
  cases hold.symm.trans huser
  obtain ⟨user', huser', hchanged⟩ := h.changed
  refine ⟨hlive, user', huser', ?_, ?_⟩
  · intro changedAt hat
    rw [hchanged] at hat
    cases changesAt with
    | none => exact hsame changedAt hat
    | some time =>
      cases hat
      exact hchanges time rfl
  · cases marksAt with
    | none =>
      rw [Service.revokedAt, h.marked]
      exact hmark
    | some time =>
      refine revokedAt_le fun time' htime' => ?_
      cases h.marked.symm.trans htime'
      exact hmarks time rfl

/-- A token that was refused already, or is older than the time a request leaves, is
refused from then on. -/
theorem rejects_of_leaves {e : Timed} (hverifies : Verifies env cfg.tokens) (hpast : s.Past)
    (he : s.OnTime e) (huser : s.svc.accounts.getByID id = some user)
    (h : s.svc.Leaves (s.step cfg e).svc id user e.request.changesAt (e.request.marksAt s.svc))
    (hreason : (∃ time ∈ e.request.changesAt, numericDate issued < timestamptz time) ∨
      (∃ time ∈ e.request.marksAt s.svc, Auth.unix issued < Auth.unix time) ∨
      ¬ s.svc.Accepts cfg env others e.time (cfg.tokens.generateAccessToken issued id holder)) :
    (s.step cfg e).Rejects cfg issued id := by
  obtain ⟨user', huser', hchanged⟩ := h.changed
  rcases hreason with ⟨time, htime, hlt⟩ | ⟨time, htime, hlt⟩ | hrefused
  · refine ⟨hpast.step he, .inr (.inl ⟨user', timestamptz time, huser', ?_, hlt⟩)⟩
    rw [hchanged, htime]
    rfl
  · refine ⟨hpast.step he, .inr (.inr ⟨time, ?_, hlt⟩)⟩
    rw [h.marked, htime]
    rfl
  cases reason_of_not_accepts hverifies huser hrefused with
  | inl hexpired => exact ⟨hpast.step he, .inl hexpired⟩
  | inr hsince =>
    have hbefore : s.Rejects cfg issued id := ⟨hpast, .inr hsince⟩
    exact hbefore.step he

/-- A request that revokes sessions makes the middleware refuse a token if and only if it
writes the time of a password change that is later than the token's, or marks the user in a
later second, or the token was refused already. Only `ResetPassword` and
`MigrateToPassword` write such a time; the reuse of a refresh token and `MigrateToSSO`
leave neither. -/
theorem revocation_refuses_iff {e : Timed}
    (hverifies : Verifies env cfg.tokens) (hpast : s.Past) (he : s.OnTime e)
    (hrevoked : e.request.revokedUser cfg s.svc = some id)
    (huser : s.svc.accounts.getByID id = some user) (issued : Nat) (holder : User) :
    (s.step cfg e).Refuses cfg env others (cfg.tokens.generateAccessToken issued id holder) ↔
      (∃ time ∈ e.request.changesAt, numericDate issued < timestamptz time) ∨
      (∃ time ∈ e.request.marksAt s.svc, Auth.unix issued < Auth.unix time) ∨
      ¬ s.svc.Accepts cfg env others e.time (cfg.tokens.generateAccessToken issued id holder) := by
  have hleaves : s.svc.Leaves (s.step cfg e).svc id user e.request.changesAt
      (e.request.marksAt s.svc) := handle_leaves e.request huser hrevoked
  constructor
  · intro hrefuses
    by_contra hnone
    simp only [not_or, not_exists, not_and, Nat.not_lt, not_not] at hnone
    obtain ⟨hchanges, hmarks, haccepts⟩ := hnone
    exact hrefuses [] trivial e.time (Nat.le_refl _)
      (hleaves.accepts hverifies huser hchanges hmarks haccepts)
  · intro hreason later hlater now hnow
    have hrejects := rejects_of_leaves hverifies hpast he huser hleaves hreason
    have hlast := hlater.invariant hrejects fun _ _ hs he => hs.step he
    exact hlast.not_accepts hverifies holder hnow

/-- A time in nanoseconds. -/
def milliseconds (n : Nat) : Nat := n * 1000000

/-- A token that user 1 got at a time. -/
def sampleToken (issued : Nat) : Bytes :=
  sampleConfig.tokens.generateAccessToken issued 1 sampleUser

theorem sampleService_past (clock : Nat) : Clocked.Past ⟨sampleService, clock⟩ where
  marks id now hmark := by cases hmark
  changed id user changedAt huser hchanged := by
    have hmem := Accounts.getByID_eq_some.mp huser
    obtain ⟨_, rfl⟩ := UserRow.mk.inj (List.mem_singleton.mp hmem)
    cases hchanged

/-- `RevokeSession` marks the user ten seconds after the token was issued. -/
theorem revokeSession_refuses :
    (Clocked.step sampleConfig ⟨sampleService, milliseconds 11000⟩
      ⟨milliseconds 20000, .revokeSession 1 1 (milliseconds 20000)⟩).Refuses sampleConfig
      sampleLibrary sampleOthers (sampleToken (milliseconds 10000)) :=
  (revocation_refuses_iff sampleLibrary_verifies (sampleService_past _) (by decide) rfl rfl
    (milliseconds 10000) sampleUser).mpr (.inr (.inl ⟨_, rfl, by decide⟩))

/-- User 1 has a session that was rotated, and the next one of its family. -/
def rotatedService : Service :=
  { sampleService with
    sessions := ⟨[⟨2, 1, "h2", 7, none, milliseconds 100000, false⟩,
      ⟨1, 1, "h1", 7, none, milliseconds 100000, true⟩], by decide⟩ }

/-- The rotated refresh token is presented again, after 20 seconds. -/
def reuse : Request := .refresh ⟨"h1", milliseconds 20000, 3, "h3", 0⟩ (milliseconds 20000)

/-- The reuse of a refresh token revokes all sessions, and an access token from ten seconds
before is still accepted. So is, after `RevokeSession`, one of the same second. -/
theorem revoked_session_token_accepted :
    ((handle sampleConfig rotatedService reuse).1 =
          .error "refresh token reused — all sessions revoked" ∧
        (∀ session ∈ (handle sampleConfig rotatedService reuse).2.sessions,
          session.revoked = true) ∧
        (handle sampleConfig rotatedService reuse).2.Accepts sampleConfig sampleLibrary
          sampleOthers (milliseconds 21000) (sampleToken (milliseconds 10000))) ∧
      (handle sampleConfig sampleService (.revokeSession 1 1 (milliseconds 10900))).2.Accepts
        sampleConfig sampleLibrary sampleOthers (milliseconds 11000)
        (sampleToken (milliseconds 10200)) := by
  refine ⟨⟨rfl, by decide, ?_⟩, ?_⟩
  · exact (accepts_generateAccessToken sampleLibrary_verifies).mpr
      ⟨by decide, sampleUser, rfl, by decide, by decide⟩
  · exact (accepts_generateAccessToken sampleLibrary_verifies).mpr
      ⟨by decide, sampleUser, rfl, by decide, by decide⟩

end BurnerByte.Account
