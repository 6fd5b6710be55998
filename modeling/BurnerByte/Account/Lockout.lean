import BurnerByte.Account.Users
import BurnerByte.Core.Interleaving
import BurnerByte.Core.Redis
import BurnerByte.Core.Tally

/-!
# Account lockout

Failed logins of a user are counted in Redis. The count expires some time after the first of them.
Once it reaches the maximum a second key locks the account for the same time. A login reads the
lock, then compares the passwords, and then counts a failure, each with commands of its own, so
that other logins of the user may execute theirs in between.
-/

namespace BurnerByte.Account

open Redis

/-- The two keys of a user. -/
inductive LockoutKey where
  | attempts
  | locked
  deriving DecidableEq

structure Lockout where
  maxAttempts : Int
  duration : Int

/-- How long the account is still locked, in seconds. -/
def isLocked (r : Server LockoutKey) : Option Int :=
  if 0 < r.ttl .locked then some (r.ttl .locked) else none

def Lockout.recordFailure (l : Lockout) (r : Server LockoutKey) : Bool × Server LockoutKey :=
  let (count, r) := r.incr .attempts
  let r := if count = 1 then r.expire .attempts l.duration else r
  if l.maxAttempts ≤ count then (true, (r.set .locked 1 l.duration).del .attempts)
  else (false, r)

def resetLockout (r : Server LockoutKey) : Server LockoutKey := (r.del .attempts).del .locked

/-! ## One command at a time -/

/-- The row that a login has read, and the password that it tries. -/
structure Guess where
  user : User
  password : String

/-- What a login does next. The beginning of the window that it saw is kept for the record. -/
inductive Phase where
  | checking
  | comparing (hash : String)
  | incrementing
  | expiring (start : Nat)
  | locking (start : Nat)
  | clearing
  | resetting
  | unlocking
  | finished
  deriving DecidableEq

/-- Besides the server, what has happened so far: the comparisons that failed, those of them that
were over when the counter was created by a further one, and the same number for the counter that
set the lock. -/
structure Ledger where
  redis : Server LockoutKey
  fails : Nat
  windowStart : Nat
  lockStart : Nat

structure Attempt where
  guess : Guess
  phase : Phase

section

variable (env : Env) (l : Lockout)

/-- Up to the comparison. -/
def Guess.check (guess : Guess) (ledger : Ledger) : Phase :=
  if (isLocked ledger.redis).isSome then .finished
  else
    match checkAuthMethodLock guess.user "password", guess.user.passwordHash with
    | .ok (), some hash => .comparing hash
    | _, _ => .finished

/-- The comparison, which takes its time. -/
def Guess.compare (guess : Guess) (hash : String) (ledger : Ledger) : Phase × Ledger :=
  if !env.checkPassword hash guess.password then
    (.incrementing, { ledger with fails := ledger.fails + 1 })
  else if env.requireEmailVerification && !guess.user.emailVerified then (.finished, ledger)
  else (.resetting, ledger)

/-- The first command of `RecordFailure`. -/
def Lockout.increment (ledger : Ledger) : Phase × Ledger :=
  let (count, redis) := ledger.redis.incr .attempts
  let start := if count = 1 then ledger.fails - 1 else ledger.windowStart
  let ledger := { ledger with redis, windowStart := start }
  if count = 1 then (.expiring start, ledger)
  else if l.maxAttempts ≤ count then (.locking start, ledger)
  else (.finished, ledger)

/-- The next statement of a login. -/
def Attempt.next (attempt : Attempt) (ledger : Ledger) : Phase × Ledger :=
  match attempt.phase with
  | .checking => (attempt.guess.check ledger, ledger)
  | .comparing hash => attempt.guess.compare env hash ledger
  | .incrementing => l.increment ledger
  | .expiring start =>
    (if l.maxAttempts ≤ 1 then .locking start else .finished,
      { ledger with redis := ledger.redis.expire .attempts l.duration })
  | .locking start =>
    (.clearing, { ledger with redis := ledger.redis.set .locked 1 l.duration, lockStart := start })
  | .clearing => (.finished, { ledger with redis := ledger.redis.del .attempts })
  | .resetting => (.unlocking, { ledger with redis := ledger.redis.del .attempts })
  | .unlocking => (.finished, { ledger with redis := ledger.redis.del .locked })
  | .finished => (.finished, ledger)

def Attempt.stmt (attempt : Attempt) (ledger : Ledger) : Attempt × Ledger :=
  ({ attempt with phase := (attempt.next env l ledger).1 }, (attempt.next env l ledger).2)

end

/-! ## Logins of one user -/

/-- A login executes its next statement, or time passes. -/
inductive LoginEvent (ι : Type) where
  | login (i : ι)
  | pass (d : Nat)

abbrev Logins (ι : Type) := Interleaving.System ι Attempt Ledger

variable {ι : Type} [DecidableEq ι]

def Logins.step (env : Env) (l : Lockout) (sys : Logins ι) : LoginEvent ι → Logins ι
  | .login i => Interleaving.System.step (Attempt.stmt env l) sys i
  | .pass d => { sys with shared := { sys.shared with redis := sys.shared.redis.pass d } }

/-- No login has begun, and none has failed before. -/
def Logins.start (guesses : ι → Guess) (now : Int) : Logins ι where
  procs i := ⟨guesses i, .checking⟩
  shared := ⟨⟨now, Expiring.Store.empty⟩, 0, 0, 0⟩

/-! ## A login that nobody interrupts -/

/-- What a login does with the two keys. -/
def Guess.login (env : Env) (l : Lockout) (guess : Guess) (r : Server LockoutKey) :
    Server LockoutKey :=
  if (isLocked r).isSome then r
  else
    match checkAuthMethodLock guess.user "password", guess.user.passwordHash with
    | .ok (), some hash =>
      if !env.checkPassword hash guess.password then (l.recordFailure r).2
      else if env.requireEmailVerification && !guess.user.emailVerified then r
      else resetLockout r
    | _, _ => r

section

variable (env : Env) (l : Lockout) (guess : Guess) (ledger : Ledger)

/-- The keys after some statements of a login. -/
def Attempt.alone (n : Nat) (attempt : Attempt) (ledger : Ledger) : Server LockoutKey :=
  match n with
  | 0 => ledger.redis
  | n + 1 => (attempt.stmt env l ledger).1.alone n (attempt.stmt env l ledger).2

theorem alone_finished (n : Nat) :
    Attempt.alone env l n ⟨guess, .finished⟩ ledger = ledger.redis := by
  induction n with
  | zero => rfl
  | succ n ih => exact ih

theorem alone_locking (n start : Nat) : Attempt.alone env l (n + 2) ⟨guess, .locking start⟩ ledger =
    (ledger.redis.set .locked 1 l.duration).del .attempts :=
  alone_finished ..

/-- The first statement is the one of the phase. -/
theorem alone_succ (n : Nat) (phase : Phase) : Attempt.alone env l (n + 1) ⟨guess, phase⟩ ledger =
    Attempt.alone env l n ⟨guess, (Attempt.next env l ⟨guess, phase⟩ ledger).1⟩
      (Attempt.next env l ⟨guess, phase⟩ ledger).2 := rfl

theorem alone_checking :
    Attempt.alone env l 6 ⟨guess, .checking⟩ ledger = guess.login env l ledger.redis := by
  rw [alone_succ]
  simp only [Attempt.next, Guess.check, Guess.login]
  split
  · exact alone_finished ..
  split
  · rw [alone_succ]
    simp only [Attempt.next, Guess.compare]
    split
    · -- The commands of `RecordFailure` make `recordFailure`.
      rw [alone_succ]
      simp only [Attempt.next, Lockout.increment, Lockout.recordFailure]
      by_cases hfirst : (ledger.redis.incr .attempts).1 = 1
      · rw [if_pos hfirst, alone_succ]
        simp only [Attempt.next, hfirst, if_true]
        by_cases hmax : l.maxAttempts ≤ 1
        · have hmax' : l.maxAttempts ≤ ((1 : Nat) : Int) := hmax
          rw [if_pos hmax, if_pos hmax']
          exact alone_locking ..
        have hmax' : ¬ l.maxAttempts ≤ ((1 : Nat) : Int) := hmax
        rw [if_neg hmax, if_neg hmax']
        exact alone_finished ..
      · rw [if_neg hfirst, if_neg hfirst]
        split
        · exact alone_locking ..
        · exact alone_finished ..
    split
    · exact alone_finished ..
    · exact alone_finished ..
  · exact alone_finished ..

end

theorem Logins.run_replicate (env : Env) (l : Lockout) (n : Nat) (sys : Logins ι) (i : ι) :
    (Trace.run (Logins.step env l) sys (List.replicate n (.login i))).shared.redis =
      (sys.procs i).alone env l n sys.shared := by
  induction n generalizing sys with
  | zero => rfl
  | succ n ih =>
    rw [List.replicate_succ, Trace.run_cons, ih, Logins.step, Interleaving.System.step_self]
    rfl

/-- The six statements of a login in a row do with the keys what the login does alone. -/
theorem Logins.run_login (env : Env) (l : Lockout) (sys : Logins ι) (i : ι)
    (h : (sys.procs i).phase = .checking) :
    (Trace.run (Logins.step env l) sys (List.replicate 6 (.login i))).shared.redis =
      (sys.procs i).guess.login env l sys.shared.redis := by
  rw [Logins.run_replicate, ← alone_checking env l (sys.procs i).guess sys.shared, ← h]

end BurnerByte.Account
