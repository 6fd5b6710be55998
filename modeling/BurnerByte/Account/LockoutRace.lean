import BurnerByte.Account.Lockout
import BurnerByte.Account.LostUpdate

/-!
# How many guesses a lockout lets pass

A lockout should bound the guesses: between the creation of the counter and the end of the lock
that it leads to, no more comparisons fail than attempts are allowed, and none takes place while
the account is locked. It does if the logins between their look at the lock and their entry in the
counter are counted in. Nothing enforces that: a login that has found the account unlocked compares
the passwords whatever the others have counted since.
-/

namespace BurnerByte.Account

open Redis Tally

variable {ι : Type}

/-- The login has found the account unlocked and is not in the counter yet. -/
def Phase.inFlight : Phase → Nat
  | .comparing _ | .incrementing => 1
  | _ => 0

/-- The comparison has failed and is not in the counter yet. -/
def Phase.recording : Phase → Nat
  | .incrementing => 1
  | _ => 0

/-- The login has reached the limit, counted from the start of its window, and will set the lock. -/
def Phase.aboutToLock (l : Lockout) : Phase → Option Nat
  | .locking start => some start
  | .expiring start => if l.maxAttempts ≤ 1 then some start else none
  | _ => none

namespace Logins

variable (l : Lockout) (sys : Logins ι)

def count : Nat := sys.shared.redis.value .attempts

section

variable [Fintype ι]

def inFlight : Nat := tally (fun attempt => attempt.phase.inFlight) sys.procs

def recording : Nat := tally (fun attempt => attempt.phase.recording) sys.procs

/-- There is room for one more login. -/
structure Room : Prop where
  unreached : ∀ i, (sys.procs i).phase.aboutToLock l = none
  below : (sys.count + sys.inFlight : Int) < l.maxAttempts

/-- A login finds the account unlocked only where there is room for it. -/
def Careful (sys : Logins ι) : LoginEvent ι → Prop
  | .login i => (sys.procs i).phase = .checking → isLocked sys.shared.redis = none → sys.Room l
  | .pass _ => True

end

/-- No comparison takes place while the account is locked. -/
def ComparesUnlocked (sys : Logins ι) : LoginEvent ι → Prop
  | .login i => ∀ hash, (sys.procs i).phase = .comparing hash → isLocked sys.shared.redis = none
  | .pass _ => True

/-- While the account is locked, no more comparisons have failed since the start of the window than
attempts are allowed. -/
def Bounded : Prop :=
  (isLocked sys.shared.redis).isSome = true →
    (sys.shared.fails : Int) - sys.shared.lockStart ≤ l.maxAttempts

end Logins

/-! ## What one statement does -/

/-- Nothing is counted or locked, though a counter or a lock may be gone. -/
structure Ledger.Quiet (ledger ledger' : Ledger) : Prop where
  fails : ledger'.fails = ledger.fails
  windowStart : ledger'.windowStart = ledger.windowStart
  lockStart : ledger'.lockStart = ledger.lockStart
  count : ledger'.redis.value .attempts = ledger.redis.value .attempts ∨
    ledger'.redis.value .attempts = 0
  locked : isLocked ledger.redis = none → isLocked ledger'.redis = none

/-- A failure is counted. The login that goes on to lock the account has reached the limit. -/
structure Ledger.Counts (l : Lockout) (ledger : Ledger) (phase : Phase) (ledger' : Ledger) :
    Prop where
  fails : ledger'.fails = ledger.fails
  count : ledger'.redis.value .attempts = ledger.redis.value .attempts + 1
  windowStart : ledger'.windowStart =
    if ledger.redis.value .attempts = 0 then ledger.fails - 1 else ledger.windowStart
  locked : isLocked ledger'.redis = isLocked ledger.redis
  inFlight : phase.inFlight = 0
  recording : phase.recording = 0
  limit : ∀ start, phase.aboutToLock l = some start →
    l.maxAttempts ≤ ledger.redis.value .attempts + 1 ∧ start = ledger'.windowStart

/-- The steps of a login, as far as the bound is concerned. -/
inductive Moves (l : Lockout) : Phase → Ledger → Phase → Ledger → Prop where
  | enter {ledger : Ledger} (hash : String) (hopen : isLocked ledger.redis = none) :
      Moves l .checking ledger (.comparing hash) ledger
  | fail {ledger : Ledger} (hash : String) :
      Moves l (.comparing hash) ledger .incrementing { ledger with fails := ledger.fails + 1 }
  | count {ledger ledger' : Ledger} {phase : Phase} (h : ledger.Counts l phase ledger') :
      Moves l .incrementing ledger phase ledger'
  | lock {ledger : Ledger} (start : Nat) :
      Moves l (.locking start) ledger .clearing
        { ledger with redis := ledger.redis.set .locked 1 l.duration, lockStart := start }
  | quiet {phase phase' : Phase} {ledger ledger' : Ledger} (hquiet : ledger.Quiet ledger')
      (hflight : phase'.inFlight ≤ phase.inFlight)
      (hrecording : phase'.recording = phase.recording)
      (hlimit : ∀ start, phase'.aboutToLock l = some start → phase.aboutToLock l = some start) :
      Moves l phase ledger phase' ledger'

theorem isLocked_eq_none {r : Server LockoutKey} : isLocked r = none ↔ ¬ 0 < r.ttl .locked :=
  ite_eq_right_iff.trans (imp_congr_right fun _ => by simp)

theorem isLocked_congr {r r' : Server LockoutKey} (h : r'.ttl .locked = r.ttl .locked) :
    isLocked r' = isLocked r := by
  unfold isLocked
  rw [h]

theorem Ledger.Quiet.refl (ledger : Ledger) : ledger.Quiet ledger :=
  ⟨rfl, rfl, rfl, .inl rfl, id⟩

/-- The counter is gone. -/
theorem Ledger.Quiet.del_attempts (ledger : Ledger) :
    ledger.Quiet { ledger with redis := ledger.redis.del .attempts } where
  fails := rfl
  windowStart := rfl
  lockStart := rfl
  count := .inr Server.value_del_self
  locked := (isLocked_congr (Server.ttl_del_of_ne (by decide))).trans

/-- The lock is gone. -/
theorem Ledger.Quiet.del_locked (ledger : Ledger) :
    ledger.Quiet { ledger with redis := ledger.redis.del .locked } where
  fails := rfl
  windowStart := rfl
  lockStart := rfl
  count := .inl (Server.value_del_of_ne (by decide))
  locked _ := isLocked_eq_none.mpr Server.ttl_del_self

theorem Ledger.Quiet.expire (ledger : Ledger) (d : Int) :
    ledger.Quiet { ledger with redis := ledger.redis.expire .attempts d } where
  fails := rfl
  windowStart := rfl
  lockStart := rfl
  count := Server.value_expire_self d
  locked := (isLocked_congr (Server.ttl_expire_of_ne d (by decide))).trans

theorem Ledger.Quiet.pass (ledger : Ledger) (d : Nat) :
    ledger.Quiet { ledger with redis := ledger.redis.pass d } where
  fails := rfl
  windowStart := rfl
  lockStart := rfl
  count := Server.value_pass d
  locked h := isLocked_eq_none.mpr fun hlater =>
    isLocked_eq_none.mp h (Server.ttl_pos_of_pass hlater)

section

variable (l : Lockout)

theorem Guess.check_moves (guess : Guess) (ledger : Ledger) :
    Moves l .checking ledger (guess.check ledger) ledger := by
  have hleave : Moves l .checking ledger .finished ledger :=
    .quiet (.refl ledger) (Nat.le_refl 0) rfl fun _ h => h
  unfold Guess.check
  split
  · exact hleave
  rename_i hopen
  split
  · exact .enter _ (Option.not_isSome_iff_eq_none.mp hopen)
  · exact hleave

theorem Guess.compare_moves (env : Env) (guess : Guess) (hash : String) (ledger : Ledger) :
    Moves l (.comparing hash) ledger (guess.compare env hash ledger).1
      (guess.compare env hash ledger).2 := by
  unfold Guess.compare
  split
  · exact .fail hash
  split
  · exact .quiet (.refl ledger) (Nat.zero_le 1) rfl fun _ h => h
  · exact .quiet (.refl ledger) (Nat.zero_le 1) rfl fun _ h => h

theorem Lockout.increment_moves (ledger : Ledger) :
    Moves l .incrementing ledger (l.increment ledger).1 (l.increment ledger).2 := by
  have hopen : isLocked (ledger.redis.incr .attempts).2 = isLocked ledger.redis :=
    isLocked_congr (Server.ttl_incr_of_ne (by decide))
  have hcount : (ledger.redis.incr .attempts).2.value .attempts =
      ledger.redis.value .attempts + 1 := Server.value_incr_self
  have hfst : (ledger.redis.incr .attempts).1 = ledger.redis.value .attempts + 1 := rfl
  unfold Lockout.increment
  by_cases hfirst : (ledger.redis.incr .attempts).1 = 1
  · have hzero : ledger.redis.value .attempts = 0 := by omega
    simp only [hfirst, if_true]
    refine .count ⟨rfl, hcount, (if_pos hzero).symm, hopen, rfl, rfl, fun start hstart => ?_⟩
    obtain ⟨hmax, hstart⟩ := Option.ite_none_right_eq_some.mp hstart
    exact ⟨by omega, (Option.some.inj hstart).symm⟩
  · have hpos : ledger.redis.value .attempts ≠ 0 := by omega
    simp only [if_neg hfirst]
    split
    · refine .count ⟨rfl, hcount, (if_neg hpos).symm, hopen, rfl, rfl, fun start hstart => ?_⟩
      exact ⟨by omega, (Option.some.inj hstart).symm⟩
    · exact .count ⟨rfl, hcount, (if_neg hpos).symm, hopen, rfl, rfl, fun _ h => by cases h⟩

theorem Attempt.next_moves (env : Env) (attempt : Attempt) (ledger : Ledger) :
    Moves l attempt.phase ledger (attempt.next env l ledger).1 (attempt.next env l ledger).2 := by
  obtain ⟨guess, phase⟩ := attempt
  cases phase with
  | checking => exact guess.check_moves l ledger
  | comparing hash => exact guess.compare_moves l env hash ledger
  | incrementing => exact l.increment_moves ledger
  | expiring start =>
    simp only [Attempt.next]
    split
    · rename_i hmax
      exact .quiet (.expire ledger l.duration) (Nat.le_refl 0) rfl fun _ h => (if_pos hmax).trans h
    · exact .quiet (.expire ledger l.duration) (Nat.le_refl 0) rfl fun _ h => by cases h
  | locking start => exact .lock start
  | unlocking => exact .quiet (.del_locked ledger) (Nat.le_refl 0) rfl fun _ h => h
  | finished => exact .quiet (.refl ledger) (Nat.le_refl 0) rfl fun _ h => h
  | _ => exact .quiet (.del_attempts ledger) (Nat.le_refl 0) rfl fun _ h => h

end

/-! ## The invariant -/

namespace Logins

variable [Fintype ι] {l : Lockout} {sys sys' : Logins ι}

/-- No login can compare any more, and the failures since the start are within the limit. -/
structure Closed (l : Lockout) (sys : Logins ι) (start : Nat) : Prop where
  inFlight : sys.inFlight = 0
  fails : (sys.shared.fails : Int) ≤ start + l.maxAttempts

structure Inv (l : Lockout) (sys : Logins ι) : Prop where
  capacity : sys.count + sys.inFlight ≤ l.maxAttempts.toNat
  window : sys.count ≠ 0 → sys.shared.fails ≤ sys.shared.windowStart + sys.count + sys.recording
  reached : ∀ i start, (sys.procs i).phase.aboutToLock l = some start → sys.Closed l start
  locked : (isLocked sys.shared.redis).isSome = true → sys.Closed l sys.shared.lockStart

theorem recording_le_inFlight (sys : Logins ι) : sys.recording ≤ sys.inFlight := by
  refine tally_mono (fun attempt => ?_) sys.procs
  cases attempt.phase <;> simp [Phase.recording, Phase.inFlight]

theorem phase_inFlight_le (sys : Logins ι) (i : ι) :
    (sys.procs i).phase.inFlight ≤ sys.inFlight :=
  le_tally (fun attempt => attempt.phase.inFlight) sys.procs i

/-- As long as a login may still fail nobody has reached the limit. -/
theorem Inv.open_of_inFlight (h : Inv l sys) (hflight : sys.inFlight ≠ 0) :
    isLocked sys.shared.redis = none ∧ ∀ i, (sys.procs i).phase.aboutToLock l = none := by
  constructor
  · cases hlocked : isLocked sys.shared.redis with
    | none => rfl
    | some retryAfter => exact absurd (h.locked (by rw [hlocked]; rfl)).inFlight hflight
  · intro i
    cases hreached : (sys.procs i).phase.aboutToLock l with
    | none => rfl
    | some start => exact absurd (h.reached i start hreached).inFlight hflight

/-- Nobody has reached the limit, so that only the sums are left to check. -/
theorem Inv.of_open (hcapacity : sys.count + sys.inFlight ≤ l.maxAttempts.toNat)
    (hwindow : sys.count ≠ 0 →
      sys.shared.fails ≤ sys.shared.windowStart + sys.count + sys.recording)
    (hopen : isLocked sys.shared.redis = none)
    (hunreached : ∀ i, (sys.procs i).phase.aboutToLock l = none) : Inv l sys where
  capacity := hcapacity
  window := hwindow
  reached i start h := by
    rw [hunreached i] at h
    cases h
  locked h := by
    rw [hopen] at h
    cases h

theorem Inv.quiet (h : Inv l sys) (hquiet : sys.shared.Quiet sys'.shared)
    (hflight : sys'.inFlight ≤ sys.inFlight) (hrecording : sys'.recording = sys.recording)
    (hreached : ∀ i start, (sys'.procs i).phase.aboutToLock l = some start →
      (sys.procs i).phase.aboutToLock l = some start) : Inv l sys' := by
  have hclosed : ∀ start, sys.Closed l start → sys'.Closed l start := by
    intro start hclosed
    refine ⟨Nat.le_zero.mp (hclosed.inFlight ▸ hflight), ?_⟩
    rw [hquiet.fails]
    exact hclosed.fails
  have hcount : sys'.count = sys.count ∨ sys'.count = 0 := hquiet.count
  refine ⟨?_, ?_, fun i start hi => hclosed start (h.reached i start (hreached i start hi)), ?_⟩
  · have hcapacity := h.capacity
    omega
  · intro hne
    have hsame : sys'.count = sys.count := hcount.resolve_right hne
    rw [hsame] at hne ⊢
    rw [hquiet.fails, hquiet.windowStart, hrecording]
    exact h.window hne
  · intro hlocked
    rw [hquiet.lockStart]
    refine hclosed _ (h.locked ?_)
    by_contra hopen
    rw [hquiet.locked (Option.not_isSome_iff_eq_none.mp hopen)] at hlocked
    cases hlocked

/-! ## One login moves -/

/-- One login has gone on to the given phase, and left the ledger. -/
structure Moved (sys : Logins ι) (i : ι) (phase : Phase) (ledger : Ledger) (sys' : Logins ι) :
    Prop where
  shared : sys'.shared = ledger
  inFlight : sys'.inFlight + (sys.procs i).phase.inFlight = sys.inFlight + phase.inFlight
  recording : sys'.recording + (sys.procs i).phase.recording = sys.recording + phase.recording
  self : (sys'.procs i).phase = phase
  other : ∀ j, j ≠ i → sys'.procs j = sys.procs j

namespace Moved

variable {i : ι} {phase : Phase} {ledger : Ledger} (h : sys.Moved i phase ledger sys')

include h

/-- The limit is reached by the login that moved, or was reached before by another. -/
theorem reached {j : ι} {start : Nat} (hj : (sys'.procs j).phase.aboutToLock l = some start) :
    j = i ∧ phase.aboutToLock l = some start ∨
      (sys.procs j).phase.aboutToLock l = some start := by
  by_cases hji : j = i
  · subst hji
    rw [h.self] at hj
    exact .inl ⟨rfl, hj⟩
  · rw [h.other j hji] at hj
    exact .inr hj

theorem unreached (hbefore : ∀ j, (sys.procs j).phase.aboutToLock l = none)
    (hphase : phase.aboutToLock l = none) : ∀ j, (sys'.procs j).phase.aboutToLock l = none := by
  intro j
  cases hj : (sys'.procs j).phase.aboutToLock l with
  | none => rfl
  | some start =>
    obtain ⟨_, hself⟩ | hother := h.reached hj
    · cases hphase.symm.trans hself
    · cases (hbefore j).symm.trans hother

end Moved

section

variable {i : ι} {ledger : Ledger}

theorem Inv.enter {hash : String} (h : Inv l sys) (hroom : sys.Room l)
    (hopen : isLocked sys.shared.redis = none) (hold : (sys.procs i).phase = .checking)
    (hmoved : sys.Moved i (.comparing hash) sys.shared sys') : Inv l sys' := by
  have hflight := hmoved.inFlight
  have hrecording := hmoved.recording
  have hbelow := hroom.below
  simp only [hold, Phase.inFlight, Phase.recording, Nat.add_zero] at hflight hrecording
  have hcount : sys'.count = sys.count := by unfold count; rw [hmoved.shared]
  refine .of_open ?_ ?_ ?_ (hmoved.unreached hroom.unreached rfl)
  · omega
  · rw [hcount, hmoved.shared, hrecording]
    exact h.window
  · rw [hmoved.shared]
    exact hopen

theorem Inv.fail {hash : String} (h : Inv l sys) (hold : (sys.procs i).phase = .comparing hash)
    (hmoved : sys.Moved i .incrementing { sys.shared with fails := sys.shared.fails + 1 } sys') :
    Inv l sys' := by
  have hflight := hmoved.inFlight
  have hrecording := hmoved.recording
  have hcapacity := h.capacity
  have hle := sys.phase_inFlight_le i
  simp only [hold, Phase.inFlight, Phase.recording, Nat.add_zero] at hflight hrecording hle
  have hin : sys.inFlight ≠ 0 := by omega
  obtain ⟨hopen, hunreached⟩ := h.open_of_inFlight hin
  have hcount : sys'.count = sys.count := by unfold count; rw [hmoved.shared]
  refine .of_open ?_ ?_ ?_ (hmoved.unreached hunreached rfl)
  · omega
  · intro hne
    have hfailed := h.window (hcount ▸ hne)
    rw [hmoved.shared, hcount, hrecording]
    simp only
    omega
  · rw [hmoved.shared]
    exact hopen

/-- The login that reaches the limit is the last one in flight. -/
theorem Inv.counted {phase : Phase} (h : Inv l sys) (hold : (sys.procs i).phase = .incrementing)
    (hcounts : sys.shared.Counts l phase ledger)
    (hmoved : sys.Moved i phase ledger sys') : Inv l sys' := by
  have hflight := hmoved.inFlight
  have hrecording := hmoved.recording
  have hcapacity := h.capacity
  have hrecorded := recording_le_inFlight sys'
  rw [hold, hcounts.inFlight] at hflight
  rw [hold, hcounts.recording] at hrecording
  simp only [Phase.inFlight, Phase.recording, Nat.add_zero] at hflight hrecording
  have hin : sys.inFlight ≠ 0 := by omega
  obtain ⟨hopen, hunreached⟩ := h.open_of_inFlight hin
  have hcount : sys'.count = sys.count + 1 := by
    unfold count
    rw [hmoved.shared, hcounts.count]
  have hwindow : sys'.shared.fails ≤ sys'.shared.windowStart + sys'.count + sys'.recording := by
    rw [hmoved.shared, hcounts.fails, hcounts.windowStart]
    split
    · omega
    rename_i hne
    have hfailed := h.window hne
    omega
  refine ⟨by omega, fun _ => hwindow, ?_, ?_⟩
  · intro j start hj
    obtain ⟨_, hself⟩ | hother := hmoved.reached hj
    · obtain ⟨hmax, rfl⟩ := hcounts.limit start hself
      have hvalue' : sys.count = sys.shared.redis.value .attempts := rfl
      have hzero : sys'.inFlight = 0 := by omega
      refine ⟨hzero, ?_⟩
      rw [← hmoved.shared]
      omega
    · cases (hunreached j).symm.trans hother
  · intro hlocked
    rw [hmoved.shared, hcounts.locked, hopen] at hlocked
    cases hlocked

theorem Inv.lock {start : Nat} (h : Inv l sys) (hold : (sys.procs i).phase = .locking start)
    (hmoved : sys.Moved i .clearing { sys.shared with
      redis := sys.shared.redis.set .locked 1 l.duration, lockStart := start } sys') :
    Inv l sys' := by
  have hflight := hmoved.inFlight
  have hrecording := hmoved.recording
  simp only [hold, Phase.inFlight, Phase.recording, Nat.add_zero] at hflight hrecording
  have hcount : sys'.count = sys.count := by
    unfold count
    rw [hmoved.shared]
    exact Server.value_set_of_ne 1 l.duration (by decide)
  have hclosed : ∀ start, sys.Closed l start → sys'.Closed l start := by
    rintro start ⟨hzero, hle⟩
    exact ⟨hflight.trans hzero, by rw [hmoved.shared]; exact hle⟩
  refine ⟨?_, ?_, ?_, ?_⟩
  · rw [hcount, hflight]
    exact h.capacity
  · rw [hcount, hmoved.shared, hrecording]
    exact h.window
  · intro j start' hj
    obtain ⟨_, hself⟩ | hother := hmoved.reached hj
    · cases hself
    · exact hclosed start' (h.reached j start' hother)
  · intro _
    rw [hmoved.shared]
    exact hclosed start (h.reached i start (by rw [hold]; rfl))

theorem Inv.moves {phase : Phase} (h : Inv l sys) (hcareful : sys.Careful l (.login i))
    (hmoves : Moves l (sys.procs i).phase sys.shared phase ledger)
    (hmoved : sys.Moved i phase ledger sys') : Inv l sys' := by
  generalize hold : (sys.procs i).phase = old at hmoves
  cases hmoves with
  | enter hash hopen => exact h.enter (hcareful hold hopen) hopen hold hmoved
  | fail hash => exact h.fail hold hmoved
  | count hcounts => exact h.counted hold hcounts hmoved
  | lock start => exact h.lock hold hmoved
  | quiet hquiet hflight hrecording hlimit =>
    have hin := hmoved.inFlight
    have hrec := hmoved.recording
    rw [hold] at hin hrec
    refine h.quiet (hmoved.shared ▸ hquiet) (by omega) (by omega) fun j start hj => ?_
    obtain ⟨rfl, hself⟩ | hother := hmoved.reached hj
    · rw [hold]
      exact hlimit start hself
    · exact hother

end

/-! ## Runs -/

theorem inv_start (guesses : ι → Guess) (now : Int) : Inv l (start guesses now) := by
  have hflight : (start guesses now).inFlight = 0 := tally_eq_zero fun _ => rfl
  have hcount : (start guesses now).count = 0 := rfl
  exact .of_open (by omega) (absurd hcount) rfl fun _ => rfl

theorem Inv.comparesUnlocked (h : Inv l sys) (e : LoginEvent ι) : sys.ComparesUnlocked e := by
  cases e with
  | login i =>
    intro hash hphase
    have hle := sys.phase_inFlight_le i
    simp only [hphase, Phase.inFlight] at hle
    exact (h.open_of_inFlight (by omega)).1
  | pass d => trivial

theorem Inv.bounded (h : Inv l sys) : sys.Bounded l := by
  intro hlocked
  have hfails := (h.locked hlocked).fails
  omega

section

variable [DecidableEq ι] (env : Env) (l : Lockout)

theorem inv_step (sys : Logins ι) (e : LoginEvent ι) (h : Inv l sys) (hcareful : sys.Careful l e) :
    Inv l (sys.step env l e) := by
  cases e with
  | login i =>
    refine h.moves hcareful ((sys.procs i).next_moves l env sys.shared)
      ⟨rfl, tally_update .., tally_update .., ?_, fun _ => Interleaving.System.step_other sys⟩
    rw [Logins.step, Interleaving.System.step_self]
    rfl
  | pass d => exact h.quiet (.pass sys.shared d) (Nat.le_refl _) rfl fun _ _ hi => hi

/-- If every login that finds the account unlocked has room, the lockout bounds the guesses. -/
theorem guesses_bounded (guesses : ι → Guess) (now : Int) {schedule : List (LoginEvent ι)}
    (h : Trace.Guarded (step env l) (Careful l) (start guesses now) schedule) :
    Trace.Guarded (step env l) ComparesUnlocked (start guesses now) schedule ∧
      ∀ done, done <+: schedule → (Trace.run (step env l) (start guesses now) done).Bounded l := by
  have hstart : Inv l (start guesses now) := inv_start guesses now
  constructor
  · refine Trace.Guarded.iff_forall.mpr fun done e rest hsplit => ?_
    rw [hsplit] at h
    exact (h.before hstart (inv_step env l)).1.comparesUnlocked e
  · rintro done ⟨rest, rfl⟩
    exact ((Trace.Guarded.append_iff.mp h).1.invariant hstart (inv_step env l)).bounded

end

/-! ## Runs that keep to the limit, and runs that do not -/

instance (l : Lockout) (sys : Logins ι) : Decidable (sys.Room l) :=
  decidable_of_iff ((∀ i, (sys.procs i).phase.aboutToLock l = none) ∧
    (sys.count + sys.inFlight : Int) < l.maxAttempts)
    ⟨fun ⟨h, h'⟩ => ⟨h, h'⟩, fun ⟨h, h'⟩ => ⟨h, h'⟩⟩

instance (l : Lockout) (sys : Logins ι) (e : LoginEvent ι) : Decidable (sys.Careful l e) :=
  match e with
  | .login _ => inferInstanceAs (Decidable (_ → _ → _))
  | .pass _ => inferInstanceAs (Decidable True)

/-- Two wrong passwords, one after the other, lock an account that allows two attempts, and the
third login is refused. -/
def threeInARow : List (LoginEvent (Fin 3)) :=
  List.replicate 5 (.login 0) ++ .pass 1000000000 :: List.replicate 5 (.login 1) ++ [.login 2]

def wrongGuess : Guess := ⟨sampleUser, "wrong"⟩

def wrongLogins {n : Nat} (maxAttempts : Int) (events : List (LoginEvent (Fin n))) :
    Logins (Fin n) :=
  Trace.run (step sampleEnv ⟨maxAttempts, 15 * Go.minute⟩) (start (fun _ => wrongGuess) 0) events

theorem third_in_a_row_refused :
    isLocked (wrongLogins 2 threeInARow).shared.redis = some (15 * 60) ∧
      (wrongLogins 2 threeInARow).shared.fails = 2 ∧
      (wrongLogins 2 threeInARow).Bounded ⟨2, 15 * Go.minute⟩ := by
  have hcareful : Trace.Guarded (step sampleEnv ⟨2, 15 * Go.minute⟩) (Careful ⟨2, 15 * Go.minute⟩)
      (start (fun _ => wrongGuess) 0) threeInARow := by decide +kernel
  have hbounded :=
    (guesses_bounded sampleEnv ⟨2, 15 * Go.minute⟩ (fun _ => wrongGuess) 0 hcareful).2
  exact ⟨by decide +kernel, by decide +kernel, hbounded threeInARow (List.prefix_refl _)⟩

/-- Six logins find the account unlocked before the first of them compares. Five fail, and the last
of these locks the account. -/
def crowd : List (LoginEvent (Fin 6)) :=
  (List.finRange 6).map .login ++ List.replicate 3 (.login 0) ++
    [1, 2, 3].flatMap (fun i => List.replicate 2 (.login i)) ++ List.replicate 3 (.login 4)

/-- The sixth compares in spite of the lock, and fails as well, where five attempts are allowed. -/
theorem sixth_guess_while_locked :
    ¬ (wrongLogins 5 crowd).ComparesUnlocked (.login 5) ∧
      ¬ (wrongLogins 5 (crowd ++ [.login 5])).Bounded ⟨5, 15 * Go.minute⟩ := by
  constructor
  · intro hunlocked
    have hphase : ((wrongLogins 5 crowd).procs 5).phase =
        .comparing "$2a$05$CCCCCCCCCCCCCCCCCCCCC.E5YPO9kmyuRGyh0XouQYb4YMJKvyOeW" := by
      decide +kernel
    exact absurd (hunlocked _ hphase) (by decide +kernel)
  · intro hbounded
    exact absurd (hbounded (by decide +kernel)) (by decide +kernel)

end Logins

end BurnerByte.Account
