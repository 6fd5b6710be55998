import BurnerByte.Core.Interleaving
import BurnerByte.Mailbox.Lifetimes
import Mathlib.Data.Fintype.Defs

/-!
# How many inboxes a domain has

A call that creates an inbox counts the live inboxes of the domain, and inserts its row later. The
count is compared with the limit of the organisation or of the platform, and with that of the team.
The limit of the domain itself is not looked at.
-/

namespace BurnerByte.Mailbox

open Go Sql Interleaving
open Trace (Guarded run)

/-- The cascade that is meant to resolve the limit, with the domain's own setting. -/
def Settings.resolveMaxInboxesPerDomain (c : Settings) (domain : Option Int) : Int :=
  (domain <|> c.org.maxInboxesPerDomain).getD c.defaults.maxInboxesPerDomain

/-- A call before its checks or between them and its `INSERT`, a call that has returned, and time
that passes bit by bit. -/
inductive Creation where
  | checking (r : CreateRequest)
  | inserting (r : CreateRequest) (inbox : Inbox)
  | returned
  | passing (ticks : List Nat)

/-- The next statement of a process, on the database and the clock. -/
def Creation.stmt : Creation → Db × Int → Creation × (Db × Int)
  | .checking r, (db, now) =>
    match r.inbox db now with
    | .error _ => (.returned, db, now)
    | .ok (inbox, _) => (.inserting r inbox, db, now)
  | .inserting _ inbox, (db, now) => (.returned, (db.insertInbox inbox).toOption.getD db, now)
  | .returned, s => (.returned, s)
  | .passing ticks, (db, now) => (.passing ticks.tail, db, now + ticks.headD 0)

variable {db db' : Db} {now : Int} {d : UUID}

theorem countActiveByDomain_insertInbox (db : Db) (inbox : Inbox) (now : Int) (d : UUID) :
    ((db.insertInbox inbox).toOption.getD db).countActiveByDomain now d ≤
      db.countActiveByDomain now d + if inbox.domainID = d then 1 else 0 := by
  refine Outcome.getD_of_ok (P := fun db' : Db => db'.countActiveByDomain now d ≤ _)
    (Nat.le_add_right _ _) fun db' hinsert => ?_
  have hrows : db'.inboxes.rows = inbox :: db.inboxes.rows := by
    unfold Db.insertInbox at hinsert
    split at hinsert
    · split at hinsert <;> cases hinsert
      rename_i hinsert
      exact UniqueTable.rows_insert hinsert
    · cases hinsert
  rw [Db.countActiveByDomain, hrows, List.countP_cons]
  by_cases hd : inbox.domainID = d <;> simp [hd, Db.countActiveByDomain]
  split <;> omega

/-! ## Calls one after the other -/

/-- The limit that a call compares with. -/
def Settings.maxInboxes (c : Settings) : Int :=
  c.org.maxInboxesPerDomain.getD c.defaults.maxInboxesPerDomain

def CreateRequest.teamMax (r : CreateRequest) : Option Int :=
  r.settings.team.bind (·.maxInboxesPerDomain)

/-- The checks of a call found room in the domain. -/
theorem CreateRequest.room_of_inbox {r : CreateRequest} {ttl : Int} {inbox : Inbox}
    (h : r.inbox db now = .ok (inbox, ttl)) :
    db.countActiveByDomain now r.domainID < r.settings.maxInboxes ∧
      ∀ teamMax ∈ r.teamMax, db.countActiveByDomain now r.domainID < teamMax := by
  obtain ⟨-, -, hlimits, hteam⟩ := CreateRequest.inbox_eq_ok h
  constructor
  · simp only [CreateRequest.checkLimits] at hlimits
    split at hlimits
    · cases hlimits
    rename_i hroom
    exact Int.not_le.mp hroom
  · intro teamMax hmax
    unfold CreateRequest.checkTeamLimit at hteam
    rw [show r.settings.team.bind (·.maxInboxesPerDomain) = some teamMax from hmax] at hteam
    simp only at hteam
    split at hteam
    · cases hteam
    rename_i hroom
    exact Int.not_le.mp hroom

/-- What a process knows of a domain with so many live inboxes: a call that has checked has found
room, and a call that will check has the limits of the configuration. -/
def Creation.Fits (c : Settings) (d : UUID) (count : Nat) : Creation → Prop
  | .checking r => r.domainID = d → r.settings.maxInboxes = c.maxInboxes
  | .inserting r inbox =>
    inbox.domainID = d → count < c.maxInboxes ∧ ∀ teamMax ∈ r.teamMax, count < teamMax
  | .returned => True
  | .passing _ => True

variable {c : Settings} {count count' : Nat} {p : Creation}

theorem Creation.Fits.mono (h : p.Fits c d count) (hle : count' ≤ count) : p.Fits c d count' := by
  have hle' : (count' : Int) ≤ count := Int.ofNat_le.mpr hle
  cases p with
  | checking r => exact h
  | inserting r inbox =>
    intro hd
    refine ⟨Int.lt_of_le_of_lt hle' (h hd).1, fun teamMax hmax => ?_⟩
    exact Int.lt_of_le_of_lt hle' ((h hd).2 teamMax hmax)
  | _ => trivial

/-- The call is about to insert an inbox of the domain. -/
def Creation.Pending (d : UUID) : Creation → Prop
  | .inserting _ inbox => inbox.domainID = d
  | _ => False

/-- The call is about to check, for an inbox of the domain. -/
def Creation.Checks (d : UUID) : Creation → Prop
  | .checking r => r.domainID = d
  | _ => False

instance (d : UUID) : (p : Creation) → Decidable (p.Pending d)
  | .inserting _ inbox => inferInstanceAs (Decidable (inbox.domainID = d))
  | .checking _ | .returned | .passing _ => .isFalse id

instance (d : UUID) : (p : Creation) → Decidable (p.Checks d)
  | .checking r => inferInstanceAs (Decidable (r.domainID = d))
  | .inserting .. | .returned | .passing _ => .isFalse id

theorem Creation.Fits.of_idle (h : p.Fits c d count) (hidle : ¬ p.Pending d) :
    p.Fits c d count' := by
  cases p with
  | checking r => exact h
  | inserting r inbox => exact fun hd => absurd hd hidle
  | _ => trivial

section

variable {ι : Type} [DecidableEq ι] {domain : Option Int}

/-- The live inboxes of the domain. -/
def active (d : UUID) (sys : System ι Creation (Db × Int)) : Nat :=
  sys.shared.1.countActiveByDomain sys.shared.2 d

/-- A call checks only while no other is about to insert an inbox of its domain. -/
def Serial (d : UUID) (sys : System ι Creation (Db × Int)) (i : ι) : Prop :=
  (sys.procs i).Checks d → ∀ j, ¬ (sys.procs j).Pending d

instance [Fintype ι] (d : UUID) (sys : System ι Creation (Db × Int)) (i : ι) :
    Decidable (Serial d sys i) := inferInstanceAs (Decidable (_ → _))

/-- The domain is within its quota, and at most one call is about to insert an inbox of it. -/
structure Within (c : Settings) (domain : Option Int) (d : UUID)
    (sys : System ι Creation (Db × Int)) : Prop where
  count : active d sys ≤ c.resolveMaxInboxesPerDomain domain
  fits : ∀ i, (sys.procs i).Fits c d (active d sys)
  alone : ∀ i j, (sys.procs i).Pending d → (sys.procs j).Pending d → i = j

variable {sys : System ι Creation (Db × Int)} {i : ι}

/-- A step keeps the quota if its process fits afterwards, the others still do, and it becomes
about to insert only while no other is. -/
theorem Within.of_step (h : Within c domain d sys)
    (hcount : active d (sys.step Creation.stmt i) ≤ c.resolveMaxInboxesPerDomain domain)
    (hself : ((sys.procs i).stmt sys.shared).1.Fits c d (active d (sys.step Creation.stmt i)))
    (hothers : ∀ j, j ≠ i → (sys.procs j).Fits c d (active d (sys.step Creation.stmt i)))
    (halone : ((sys.procs i).stmt sys.shared).1.Pending d → ∀ j, j ≠ i →
      ¬ (sys.procs j).Pending d) :
    Within c domain d (sys.step Creation.stmt i) where
  count := hcount
  fits j := by
    by_cases hj : j = i
    · subst hj
      rwa [System.step_self]
    · rw [System.step_other sys hj]
      exact hothers j hj
  alone j k hpj hpk := by
    by_cases hj : j = i <;> by_cases hk : k = i
    · exact hj.trans hk.symm
    · subst hj
      rw [System.step_self] at hpj
      rw [System.step_other sys hk] at hpk
      exact absurd hpk (halone hpj k hk)
    · subst hk
      rw [System.step_self] at hpk
      rw [System.step_other sys hj] at hpj
      exact absurd hpj (halone hpk j hj)
    rw [System.step_other sys hj] at hpj
    rw [System.step_other sys hk] at hpk
    exact h.alone j k hpj hpk

theorem active_step (d : UUID) (sys : System ι Creation (Db × Int)) (i : ι) :
    active d (sys.step Creation.stmt i) =
      ((sys.procs i).stmt sys.shared).2.1.countActiveByDomain
        ((sys.procs i).stmt sys.shared).2.2 d := rfl

theorem active_insert {r : CreateRequest} {inbox : Inbox} (hp : sys.procs i = .inserting r inbox)
    (d : UUID) :
    active d (sys.step Creation.stmt i) ≤ active d sys + if inbox.domainID = d then 1 else 0 := by
  rw [active_step, hp]
  exact countActiveByDomain_insertInbox ..

/-- A step after which the domain has no more inboxes, and its process is not about to insert one.
-/
theorem Within.of_le (h : Within c domain d sys)
    (hstmt : (sys.procs i).stmt sys.shared = (p, db, now))
    (hle : db.countActiveByDomain now d ≤ active d sys) (hself : p.Fits c d (active d sys))
    (hidle : ¬ p.Pending d) : Within c domain d (sys.step Creation.stmt i) := by
  have hactive : active d (sys.step Creation.stmt i) ≤ active d sys := by
    rwa [active_step, hstmt]
  refine h.of_step (Int.le_trans (Int.ofNat_le.mpr hactive) h.count) ?_ (fun j _ => ?_) ?_
  · rw [hstmt]
    exact hself.mono hactive
  · exact (h.fits j).mono hactive
  · rw [hstmt]
    exact fun hpending => absurd hpending hidle

theorem Within.step (hlimit : c.maxInboxes ≤ c.resolveMaxInboxesPerDomain domain)
    (h : Within c domain d sys) (hserial : Serial d sys i) :
    Within c domain d (sys.step Creation.stmt i) := by
  have hfits := h.fits i
  cases hp : sys.procs i with
  | checking r =>
    rw [hp] at hfits
    cases hinbox : r.inbox sys.shared.1 sys.shared.2 with
    | error err =>
      have hstmt : (sys.procs i).stmt sys.shared = (.returned, sys.shared) := by
        simp only [hp, Creation.stmt, hinbox]
      exact h.of_le hstmt (Nat.le_refl _) trivial id
    | ok new =>
      obtain ⟨inbox, ttl⟩ := new
      have hstmt : (sys.procs i).stmt sys.shared = (.inserting r inbox, sys.shared) := by
        simp only [hp, Creation.stmt, hinbox]
      have hactive : active d (sys.step Creation.stmt i) = active d sys := by
        rw [active_step, hstmt]
        rfl
      obtain ⟨⟨-, hdomain⟩, -⟩ := CreateRequest.inbox_eq_ok hinbox
      obtain ⟨hroom, hteam⟩ := CreateRequest.room_of_inbox hinbox
      refine h.of_step ?_ ?_ (fun j _ => ?_) ?_
      · exact hactive ▸ h.count
      · rw [hactive, hstmt]
        intro hd
        obtain rfl := hdomain.symm.trans hd
        exact ⟨hfits rfl ▸ hroom, hteam⟩
      · exact hactive ▸ h.fits j
      · rw [hstmt]
        exact fun hd j _ => hserial (hp ▸ hdomain.symm.trans hd) j
  | inserting r inbox =>
    rw [hp] at hfits
    have hstmt : (sys.procs i).stmt sys.shared = (.returned,
        (sys.shared.1.insertInbox inbox).toOption.getD sys.shared.1, sys.shared.2) := by
      rw [hp]
      rfl
    have hactive := active_insert hp d
    by_cases hd : inbox.domainID = d
    · rw [if_pos hd] at hactive
      have hroom := (hfits hd).1
      refine h.of_step (by omega) (by rw [hstmt]; trivial) (fun j hj => ?_) (by rw [hstmt]; nofun)
      -- The only call about to insert an inbox of the domain is this one.
      exact (h.fits j).of_idle fun hpending => hj (h.alone j i hpending (hp ▸ hd))
    · rw [if_neg hd, active_step, hstmt] at hactive
      exact h.of_le hstmt hactive trivial id
  | returned =>
    have hstmt : (sys.procs i).stmt sys.shared = (.returned, sys.shared) := by
      rw [hp]
      rfl
    exact h.of_le hstmt (Nat.le_refl _) trivial id
  | passing ticks =>
    have hstmt : (sys.procs i).stmt sys.shared =
        (.passing ticks.tail, sys.shared.1, sys.shared.2 + ticks.headD 0) := by
      rw [hp]
      rfl
    -- as time passes inboxes only expire
    refine h.of_le hstmt (List.countP_mono_left fun inbox _ hlater => ?_) trivial id
    rw [Bool.and_eq_true] at hlater ⊢
    exact ⟨hlater.1, Inbox.live_of_later hlater.2 (by omega)⟩

/-- Calls that have not started, with the limits of the configuration, and time. -/
def Creation.Fresh (c : Settings) (d : UUID) : Creation → Prop
  | .checking r => r.domainID = d → r.settings.maxInboxes = c.maxInboxes
  | .passing _ => True
  | _ => False

/-- As long as calls check one after the other, a domain whose own limit is not the lower one stays
within its quota, and an inbox of a team is inserted within the limit of that team. -/
theorem inboxes_within_quota {schedule : List ι}
    (hlimit : c.maxInboxes ≤ c.resolveMaxInboxesPerDomain domain)
    (hcount : active d sys ≤ c.resolveMaxInboxesPerDomain domain)
    (hfresh : ∀ i, (sys.procs i).Fresh c d)
    (hserial : Guarded (System.step Creation.stmt) (Serial d) sys schedule) :
    let after := run (System.step Creation.stmt) sys schedule
    active d after ≤ c.resolveMaxInboxesPerDomain domain ∧
      ∀ i r inbox, after.procs i = .inserting r inbox → inbox.domainID = d →
        ∀ teamMax ∈ r.teamMax, active d (after.step Creation.stmt i) ≤ teamMax := by
  intro after
  have hidle : ∀ i, ¬ (sys.procs i).Pending d := by
    intro i hpending
    have hi := hfresh i
    cases hp : sys.procs i <;> rw [hp] at hi hpending <;> first | exact hi | exact hpending
  have hstart : Within c domain d sys := by
    refine ⟨hcount, fun i => ?_, fun i _ hpending => absurd hpending (hidle i)⟩
    have hi := hfresh i
    cases hp : sys.procs i <;> rw [hp] at hi <;> first | exact hi | exact hi.elim
  have hafter : Within c domain d after :=
    hserial.invariant hstart fun sys i h hguard => h.step hlimit hguard
  refine ⟨hafter.count, fun i r inbox hp hd teamMax hmax => ?_⟩
  have hfits := hafter.fits i
  rw [hp] at hfits
  have hroom := (hfits hd).2 teamMax hmax
  have hactive := active_insert hp d
  rw [if_pos hd] at hactive
  omega

end

/-- Two users of the small run each create an inbox, in a domain that may have one. -/
def twoCreations (c : Settings) : System Bool Creation (Db × Int) where
  procs
    | false => .checking { sampleRequest with settings := c }
    | true =>
      .checking { sampleRequest with
        userID := 8, input := ⟨some (lit "ann"), none⟩, settings := c, newID := 5 }
  shared := (assignedState.db, 0)

def onePerDomain : Settings :=
  { sampleSettings with org := { sampleSettings.org with maxInboxesPerDomain := some 1 } }

theorem serial_calls_within_quota :
    active 1 (run (System.step Creation.stmt) (twoCreations onePerDomain)
      [false, false, true, true]) ≤ onePerDomain.resolveMaxInboxesPerDomain none := by
  have hfresh : ∀ i, ((twoCreations onePerDomain).procs i).Fresh onePerDomain 1 := by
    intro i
    cases i <;> exact fun _ => rfl
  exact (inboxes_within_quota (by decide) (by decide +kernel) hfresh (by decide +kernel)).1

/-- Both calls count before either inserts. A limit of the domain itself is not looked at, even
when one call follows the other. -/
theorem quota_exceeded :
    onePerDomain.resolveMaxInboxesPerDomain none = 1 ∧
      active 1 (run (System.step Creation.stmt) (twoCreations onePerDomain)
        [false, true, false, true]) = 2 ∧
      sampleSettings.resolveMaxInboxesPerDomain (some 1) = 1 ∧
      active 1 (run (System.step Creation.stmt) (twoCreations sampleSettings)
        [false, false, true, true]) = 2 := by
  decide +kernel

end BurnerByte.Mailbox
