import BurnerByte.Account.LockoutWindow
import BurnerByte.Settings.Restart

/-!
# The lockout policy in force

The process creates the lockout from its configuration file, and only then loads the settings that
are stored in the database. An administrator may change the policy later. Both reach the
configuration, which the email about a locked account reports, but neither reaches the lockout. So
the policy in force is enforced only as long as it is the one of the file.
-/

namespace BurnerByte.Settings

open Account Expiring Go Redis

/-! ## The life of a process -/

/-- `auth.NewLockout` with the values of the configuration. -/
def Config.newLockout (c : Config) : Lockout := ⟨c.lockout.maxAttempts, c.lockout.duration⟩

structure Process where
  stored : Stored
  cfg : Config
  lockout : Lockout

/-- The start of the process. The lockout is created before the stored settings are loaded. -/
def Process.boot (file : Config) (stored : Stored) : Process where
  stored := stored
  lockout := file.newLockout
  cfg := file.loadFromDB stored

inductive SettingsEvent where
  | update (saved : Bool) (body : Option PlatformSettings)
  | restart (file : Config)

def Process.step (p : Process) : SettingsEvent → Process
  | .update saved body =>
    match updatePlatformSettings saved p.cfg body with
    | .ok (stored, cfg) => { p with stored, cfg }
    | .error _ => p
  | .restart file => .boot file p.stored

/-- The policy in force, as the email about a locked account reports it. -/
def Process.lockoutPolicy (p : Process) : LockoutConfig := p.cfg.lockout

/-! ## The policy is enforced -/

/-- A user without failures is locked out by as many of them in one window as the policy allows,
and a lock has the time to live of the policy. -/
structure Enforces (l : Lockout) (policy : LockoutConfig) : Prop where
  attempts : ∀ (r : Server LockoutKey) (first : Nat) (gaps : List Nat),
    (r.pass first).value .attempts = 0 →
    Lockout.elapsed gaps < formatSec l.duration * second →
    (l.LockedByLast r (first :: gaps) ↔ (gaps.length + 1 : Int) = policy.maxAttempts)
  duration : ∀ r : Server LockoutKey, (l.recordFailure r).1 = true →
    (l.recordFailure r).2.store .locked =
      some ⟨1, some (r.now + formatMs policy.duration * millisecond)⟩

/-- The numbers of the two agree: no policy with fewer than one attempt can be enforced, nor a lock
without a time to live, which Redis keeps in milliseconds. -/
structure Agrees (l : Lockout) (policy : LockoutConfig) : Prop where
  maxAttempts : raise 1 l.maxAttempts = policy.maxAttempts
  positive : 0 < l.duration
  duration : formatMs l.duration = formatMs policy.duration

/-- A server that has counted some failures of a user who was never locked out. -/
def countedServer (count : Nat) : Server LockoutKey :=
  ⟨0, Store.empty.set .attempts count none⟩

theorem countedServer_value (count : Nat) : (countedServer count).value .attempts = count := rfl

theorem raise_eq_max (low x : Int) : raise low x = max low x := by
  unfold raise
  split <;> omega

variable {l : Lockout} {policy : LockoutConfig}

theorem Enforces.agrees (h : Enforces l policy) : Agrees l policy := by
  -- a failure with enough others before it sets the lock
  have hle : l.maxAttempts ≤ (countedServer l.maxAttempts.toNat).value .attempts + 1 := by
    rw [countedServer_value]
    omega
  have hlocked := h.duration _ (Lockout.recordFailure_fst.mpr hle)
  rw [Lockout.recordFailure_locked hle] at hlocked
  have hdeadline := congrArg Entry.deadline (Option.some.inj hlocked)
  have hpos : 0 < l.duration := by
    by_contra hneg
    rw [if_neg hneg] at hdeadline
    split at hdeadline <;> cases hdeadline
  rw [if_pos hpos, Option.some.injEq, Int.add_right_inj] at hdeadline
  have hduration := Int.eq_of_mul_eq_mul_right (by decide) hdeadline
  -- and so do as many failures as attempts are allowed, all at once
  have hsec : 0 < formatSec l.duration := formatUnit_pos (by decide) hpos
  let gaps := List.replicate (raise 1 l.maxAttempts - 1).toNat 0
  have htime : (Lockout.elapsed gaps : Int) < formatSec l.duration * second := by
    rw [Lockout.elapsed_replicate_zero]
    exact Int.mul_pos hsec (by decide)
  have hlength : (gaps.length + 1 : Int) = raise 1 l.maxAttempts := by
    have hraised := le_raise 1 l.maxAttempts
    rw [List.length_replicate]
    omega
  have hnone : ((countedServer 0).pass 0).value .attempts = 0 := rfl
  have hlast := (Lockout.lockedByLast_iff hnone hsec htime).mpr
    (hlength.trans (raise_eq_max 1 l.maxAttempts))
  have hattempts := (h.attempts (countedServer 0) 0 gaps hnone htime).mp hlast
  exact ⟨hlength.symm.trans hattempts, hpos, hduration⟩

theorem Agrees.enforces (h : Agrees l policy) :
    Enforces l policy where
  attempts r first gaps hcount htime := by
    rw [Lockout.lockedByLast_iff hcount (formatUnit_pos (by decide) h.positive) htime,
      ← h.maxAttempts, raise_eq_max]
  duration r hlocked := by
    rw [Lockout.recordFailure_locked (Lockout.recordFailure_fst.mp hlocked), if_pos h.positive,
      h.duration]

/-! ## Over the life of a process -/

/-- A request that succeeds sets the policy that the lockout has anyway, and so does the row in the
database where a process starts. -/
def Process.Keeps (p : Process) : SettingsEvent → Prop
  | .update _ none => True
  | .update saved (some input) =>
    (∃ result, updatePlatformSettings saved p.cfg (some input) = .ok result) →
      Agrees p.lockout
        ⟨raise 1 input.lockoutMaxAttempts, raise 1 input.lockoutDurationMins * minute⟩
  | .restart file => Agrees file.newLockout (file.loadFromDB p.stored).lockout

def Process.Enforced (p : Process) : Prop := Enforces p.lockout p.lockoutPolicy

theorem Process.enforced_iff {p : Process} : p.Enforced ↔ Agrees p.lockout p.cfg.lockout :=
  ⟨Enforces.agrees, Agrees.enforces⟩

theorem Process.keeps_iff (p : Process) (e : SettingsEvent) (h : p.Enforced) :
    p.Keeps e ↔ (p.step e).Enforced := by
  rw [Process.enforced_iff] at h ⊢
  cases e with
  | update saved body =>
    cases body with
    | none => exact iff_of_true trivial h
    | some input =>
      simp only [Process.Keeps, Process.step]
      cases hupdate : updatePlatformSettings saved p.cfg (some input) with
      | error err => exact iff_of_true (fun ⟨result, hresult⟩ => nomatch hresult) h
      | ok result =>
        obtain ⟨stored, cfg⟩ := result
        obtain ⟨_, _, _, hbody, _, _, _, rfl, rfl⟩ := updatePlatformSettings_eq_ok hupdate
        cases hbody
        exact ⟨fun hkeeps => hkeeps ⟨_, rfl⟩, fun hagrees _ => hagrees⟩
  | restart file => exact Iff.rfl

/-- The policy in force is always the one that is enforced exactly if the file has that policy at
every start, and no request changes it. -/
theorem policy_enforced_iff (file : Config) (stored : Stored) (events : List SettingsEvent) :
    (∀ done, done <+: events → (Trace.run Process.step (.boot file stored) done).Enforced) ↔
      Agrees file.newLockout (file.loadFromDB stored).lockout ∧
        Trace.Guarded Process.step Process.Keeps (.boot file stored) events := by
  constructor
  · intro h
    have hstart : (Process.boot file stored).Enforced := h [] List.nil_prefix
    exact ⟨Process.enforced_iff.mp hstart,
      (Trace.Guarded.iff_always hstart Process.keeps_iff).mpr h⟩
  · rintro ⟨hagrees, hguarded⟩
    have hstart : (Process.boot file stored).Enforced := Process.enforced_iff.mpr hagrees
    exact (Trace.Guarded.iff_always hstart Process.keeps_iff).mp hguarded

/-- Three attempts are in force, five are enforced: after the request, and also after a restart. -/
theorem three_attempts_reported_five_enforced :
    (∃ update : SettingsEvent,
      (Trace.run Process.step (.boot fileConfig none) [update]).lockoutPolicy.maxAttempts = 3 ∧
      ¬ (Trace.run Process.step (.boot fileConfig none) [update]).Enforced ∧
      (Trace.run Process.step (.boot fileConfig none)
        [update, .restart fileConfig]).lockoutPolicy.maxAttempts = 3 ∧
      ¬ (Trace.run Process.step (.boot fileConfig none)
        [update, .restart fileConfig]).Enforced) := by
  refine ⟨.update true (some { unchangedSettings with lockoutMaxAttempts := 3 }), by decide +kernel,
    fun h => ?_, by decide +kernel, fun h => ?_⟩
  · exact absurd (Process.enforced_iff.mp h).maxAttempts (by decide +kernel)
  · exact absurd (Process.enforced_iff.mp h).maxAttempts (by decide +kernel)

end BurnerByte.Settings
