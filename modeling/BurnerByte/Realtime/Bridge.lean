import BurnerByte.Core.Interleaving
import BurnerByte.Core.Tally
import BurnerByte.Realtime.Database

/-!
# The bridge from Redis to the database

Every API instance subscribes to the channel, and Redis delivers each event to every
subscriber. An instance executes the statements of the events it received one after the
other, while the other instances execute theirs.

Nothing decides which instance writes: the counters and the notifications of a message are
written by each of them. What the statements still to be executed will add, together with
what has been added, is the same after every interleaving, and so the metrics of a message
grow once for each instance.
-/

namespace BurnerByte.Realtime

open Go Sql Interleaving Tally
open Trace (run run_cons)
open Mailbox (Inbox)

universe u

/-- The database and its clock. -/
structure Store where
  db : Db
  now : Int

def day : Int := 24 * hour

/-- `NOW()::date`. -/
def Store.today (store : Store) : Nat := (store.now / day).toNat

/-- The instances, each with the statements it has still to execute. -/
abbrev State (ι : Type u) := System ι (List Statement) Store

/-- An instance executes its next statement. -/
def subscriber : List Statement → Store → List Statement × Store
  | [], store => ([], store)
  | stmt :: pending, store => (pending, { store with db := stmt.run store.db store.today })

/-- The next statement of an instance fails, which is logged. -/
def failing : List Statement → Store → List Statement × Store
  | [], store => ([], store)
  | _ :: pending, store => (pending, store)

inductive Event (ι : Type u) where
  /-- The SMTP daemon has stored a message in an inbox. -/
  | receive (inboxID : UUID) (r : Received)
  /-- The cleanup worker has found an expired inbox. -/
  | announce (ib : Expired)
  | execute (i : ι)
  | fail (i : ι)
  | pass (elapsed : Nat)
  /-- Inboxes are deleted. -/
  | remove (p : Inbox → Bool)

section

variable {ι : Type u}

def start (db : Db) (now : Int) : State ι := ⟨fun _ => [], ⟨db, now⟩⟩

/-- Redis delivers an event to every instance. -/
def deliver (s : State ι) (evt : InboxEvent) : State ι :=
  { s with procs := fun i => s.procs i ++ evt.statements }

/-- A message that is stored, with its inbox. -/
def Event.message (db : Db) : Event ι → Option (Inbox × Received)
  | .receive inboxID r => (db.mail.inboxes.find? inboxID).map fun inbox => (inbox, r)
  | _ => none

/-- The messages that a run stores. -/
def stored (db : Db) (es : List (Event ι)) : List (Inbox × Received) :=
  es.filterMap (Event.message db)

variable [DecidableEq ι] (m : Casing)

def step (s : State ι) : Event ι → State ι
  | .receive inboxID r =>
    match s.shared.db.mail.inboxes.find? inboxID with
    | none => s
    | some inbox => deliver s (emailReceived m s.shared.db.mail inbox r)
  | .announce ib => deliver s (inboxExpired ib)
  | .execute i => s.step subscriber i
  | .fail i => s.step failing i
  | .pass elapsed => { s with shared := { s.shared with now := s.shared.now + elapsed } }
  | .remove p => { s with shared := { s.shared with db := s.shared.db.removeInboxes p } }

end

/-! ## What a message is to be counted in -/

/-- The counters of a message, and the notification of the owner of its inbox. A message
without a sender domain has no counter for it. -/
def metrics (m : Casing) (mail : Mailbox.Db) (inbox : Inbox) (r : Received) : List Metric :=
  let orgID := orgOf mail inbox
  let (teamID, domainName) := assignmentOf mail inbox
  [.org orgID, .daily orgID, .hourly orgID r.hour.val, .domain orgID domainName] ++
    (if senderDomain m r.sender = [] then [] else [.sender orgID (senderDomain m r.sender)]) ++
    [.team teamID, .dailyTeam teamID] ++
    (inbox.createdBy.toList.map fun userID =>
      .notified userID MessageType.emailReceived.text (some inbox.id))

/-- Each counter of each message has grown by the messages that belong to it, and each owner
has as many new notifications as messages. -/
def CountedOnce (m : Casing) (db db' : Db) (messages : List (Inbox × Received)) : Prop :=
  ∀ message ∈ messages, ∀ metric ∈ metrics m db.mail message.1 message.2,
    db'.figure metric = db.figure metric +
      messages.countP fun other => metric ∈ metrics m db.mail other.1 other.2

/-- No statement fails and no inbox is deleted. -/
def Event.Undisturbed {ι : Type u} : Event ι → Prop
  | .fail _ => False
  | .remove _ => False
  | _ => True

namespace Db

variable {db : Db} {inbox : Inbox}

/-! ## What the instances do for a message -/

theorem orgOf_spec (hinbox : inbox ∈ db.mail.inboxes) : orgOf db.mail inbox ∈ db.orgs := by
  obtain ⟨domain, hdomain, hid⟩ := db.mail.inbox_domain inbox hinbox
  have hfind : db.mail.domains.find? inbox.domainID = some domain :=
    UniqueTable.find?_eq_some_iff.mpr ⟨hdomain, hid⟩
  obtain ⟨orgID, horg, rfl⟩ := db.domain_org domain hdomain
  simp only [orgOf, hfind]
  exact horg

theorem assignmentOf_spec (hinbox : inbox ∈ db.mail.inboxes) :
    (∃ team ∈ db.mail.teams, team.id = (assignmentOf db.mail inbox).1) ∧
      (assignmentOf db.mail inbox).2 ≠ [] := by
  obtain ⟨a, ha, hid⟩ := db.mail.inbox_assignment inbox hinbox
  obtain ⟨domain, hdomain, hdomainID⟩ := db.mail.assignment_domain a ha
  have hfind : db.mail.assignments.find? inbox.domainAssignmentID = some a :=
    UniqueTable.find?_eq_some_iff.mpr ⟨ha, hid⟩
  have hfind' : db.mail.domains.find? a.domainID = some domain :=
    UniqueTable.find?_eq_some_iff.mpr ⟨hdomain, hdomainID⟩
  simp only [assignmentOf, hfind, hfind']
  exact ⟨db.mail.assignment_team a ha, db.domain_named domain hdomain⟩

end Db

section

variable {m : Casing} {db : Db} {inbox : Inbox} {r : Received}

/-- The statements for the counters, with none left out but the one for an empty sender domain. -/
theorem counters_emailReceived (hinbox : inbox ∈ db.mail.inboxes) :
    (emailReceived m db.mail inbox r).counters =
      [.incrementEmail (orgOf db.mail inbox) r.sizeBytes,
        .upsertDailyStat (orgOf db.mail inbox) 1 0 r.sizeBytes,
        .upsertHourlyStat (orgOf db.mail inbox) r.hour.val,
        .upsertDomainStat (orgOf db.mail inbox) (assignmentOf db.mail inbox).2] ++
      (if senderDomain m r.sender = [] then []
        else [.upsertSenderDomainStat (orgOf db.mail inbox) (senderDomain m r.sender)]) ++
      [.incrementTeamEmail (assignmentOf db.mail inbox).1 r.sizeBytes,
        .upsertDailyTeamStat (assignmentOf db.mail inbox).1 1 0 r.sizeBytes] := by
  have horg : orgOf db.mail inbox ≠ uuidNil := db.org_ne_nil _ (Db.orgOf_spec hinbox)
  obtain ⟨⟨team, hteam, hid⟩, hname⟩ := Db.assignmentOf_spec hinbox
  have hne : (assignmentOf db.mail inbox).1 ≠ uuidNil := hid ▸ db.team_ne_nil team hteam
  have hhour : (0 : Int) ≤ r.hour.val := Int.natCast_nonneg _
  by_cases hsender : senderDomain m r.sender = [] <;>
    simp [InboxEvent.counters, emailReceived, horg, hne, hname, hhour, hsender]

theorem accepted_counters (hinbox : inbox ∈ db.mail.inboxes) :
    ∀ stmt ∈ (emailReceived m db.mail inbox r).counters, stmt.Accepted db ∧ stmt.amount = 1 := by
  have horg : orgOf db.mail inbox ∈ db.orgs := Db.orgOf_spec hinbox
  have hteam := (Db.assignmentOf_spec hinbox).1
  have hhour : Db.ValidHour r.hour.val := by
    have := r.hour.isLt
    exact ⟨by omega, by omega⟩
  rw [counters_emailReceived hinbox]
  intro stmt hstmt
  split at hstmt
  all_goals
    simp only [List.append_nil, List.cons_append, List.nil_append, List.mem_cons,
      List.not_mem_nil, or_false] at hstmt
    rcases hstmt with rfl | rfl | rfl | rfl | rfl | rfl | rfl
  all_goals simp only [Statement.Accepted, Statement.amount, and_true]
  all_goals first | exact horg | exact hteam | exact ⟨hhour, horg⟩

theorem nodup_metrics (m : Casing) (mail : Mailbox.Db) (inbox : Inbox) (r : Received) :
    (metrics m mail inbox r).Nodup := by
  unfold metrics
  cases inbox.createdBy with
  | _ => by_cases hsender : senderDomain m r.sender = [] <;> simp [hsender]

/-- Statements that are accepted and count one each. -/
theorem gains_of_accepted {stmts : List Statement} {metric : Metric}
    (h : ∀ stmt ∈ stmts, stmt.Accepted db ∧ stmt.amount = 1) :
    Statement.gains db metric stmts = (stmts.map Statement.metric).count metric := by
  induction stmts with
  | nil => rfl
  | cons stmt stmts ih =>
    obtain ⟨haccepted, hamount⟩ := h stmt List.mem_cons_self
    have hrest := ih fun other hother => h other (List.mem_cons_of_mem stmt hother)
    simp only [Statement.gains, Statement.gain, haccepted, true_and, hamount, hrest,
      List.map_cons, List.count_cons, beq_iff_eq, Nat.add_comm]

/-- The notification is accepted if the inbox still has its creator. -/
theorem gain_notification (hinbox : inbox ∈ db.mail.inboxes) (metric : Metric) :
    (emailReceived m db.mail inbox r).notification.gain db metric =
      (inbox.createdBy.toList.map fun userID =>
        Metric.notified userID MessageType.emailReceived.text (some inbox.id)).count metric := by
  cases hcreator : inbox.createdBy with
  | none =>
    have hnil : ¬ (emailReceived m db.mail inbox r).notification.Accepted db := by
      rintro ⟨⟨userID, huser, hid⟩, _⟩
      refine db.user_ne_nil userID huser (hid.trans ?_)
      simp only [emailReceived, Inbox.owner, hcreator, Option.getD_none]
    rw [Statement.gain, if_neg fun hgain => hnil hgain.1]
    rfl
  | some userID =>
    have haccepted : (emailReceived m db.mail inbox r).notification.Accepted db := by
      refine ⟨⟨userID, db.inbox_creator inbox hinbox userID hcreator, ?_⟩, ?_⟩
      · simp only [emailReceived, Inbox.owner, hcreator, Option.getD_some]
      · rintro id ⟨⟩
        exact ⟨inbox, hinbox, rfl⟩
    have hmetric : (emailReceived m db.mail inbox r).notification.metric =
        .notified userID MessageType.emailReceived.text (some inbox.id) := by
      simp only [InboxEvent.notification, Statement.metric, emailReceived, Inbox.owner, hcreator,
        Option.getD_some]
    simp only [Statement.gain, haccepted, true_and, hmetric, Option.toList_some, List.map_cons,
      List.map_nil, List.count_singleton, beq_iff_eq]
    rfl

/-- One instance counts a message once wherever it is to be counted. -/
theorem gains_emailReceived (hinbox : inbox ∈ db.mail.inboxes) (metric : Metric) :
    Statement.gains db metric (emailReceived m db.mail inbox r).statements =
      if metric ∈ metrics m db.mail inbox r then 1 else 0 := by
  rw [InboxEvent.statements, Statement.gains, gains_of_accepted (accepted_counters hinbox),
    gain_notification hinbox, counters_emailReceived hinbox, Nat.add_comm, ← List.count_append,
    ← (nodup_metrics m db.mail inbox r).count]
  by_cases hsender : senderDomain m r.sender = [] <;> simp [metrics, hsender, Statement.metric]

/-- An expired inbox counts in nothing that a message counts in. -/
theorem gains_inboxExpired {metric : Metric} (h : metric ∈ metrics m db.mail inbox r)
    (ib : Expired) : Statement.gains db metric (inboxExpired ib).statements = 0 := by
  have hother : (inboxExpired ib).notification.metric ≠ metric := by
    rintro rfl
    have htext : MessageType.inboxExpired.text ≠ MessageType.emailReceived.text := by decide
    by_cases hsender : senderDomain m r.sender = [] <;>
      simp [metrics, hsender, InboxEvent.notification, Statement.metric, inboxExpired, htext.symm]
        at h
  rw [InboxEvent.statements, Statement.gains, Statement.gain, if_neg fun hgain => hother hgain.2]
  rfl

end

/-! ## Every interleaving -/

section

variable {ι : Type u} (m : Casing) (db : Db) (metric : Metric)

/-- What one instance adds to a metric for an event. -/
def Event.gain : Event ι → Nat
  | .receive inboxID r =>
    match db.mail.inboxes.find? inboxID with
    | none => 0
    | some inbox => Statement.gains db metric (emailReceived m db.mail inbox r).statements
  | .announce ib => Statement.gains db metric (inboxExpired ib).statements
  | _ => 0

def Event.gains : List (Event ι) → Nat
  | [] => 0
  | e :: es => e.gain m db metric + Event.gains es

variable [Fintype ι]

/-- What has been added to a metric, and what the pending statements will add. -/
def balance (s : State ι) : Nat :=
  s.shared.db.figure metric + tally (Statement.gains db metric) s.procs

theorem balance_deliver (s : State ι) (evt : InboxEvent) :
    balance db metric (deliver s evt) =
      balance db metric s + Fintype.card ι * Statement.gains db metric evt.statements := by
  have hpending : ∀ i, Statement.gains db metric ((deliver s evt).procs i) =
      Statement.gains db metric (s.procs i) + Statement.gains db metric evt.statements :=
    fun i => Statement.gains_append db metric _ _
  rw [balance, balance, tally_add_const hpending, Nat.add_assoc]
  rfl

variable [DecidableEq ι] {m db}

variable {s : State ι}

theorem balance_execute (h : db.SameParents s.shared.db) (i : ι) :
    db.SameParents (s.step subscriber i).shared.db ∧
      balance db metric (s.step subscriber i) = balance db metric s := by
  have hmoved := tally_update (Statement.gains db metric) s.procs i
    (subscriber (s.procs i) s.shared).1
  cases hpending : s.procs i with
  | nil =>
    simp only [balance, System.step, hpending, subscriber] at hmoved ⊢
    exact ⟨h, by omega⟩
  | cons stmt pending =>
    obtain ⟨hsame, hfigure⟩ := Statement.run_spec metric h s.shared.today stmt
    rw [hpending] at hmoved
    simp only [balance, System.step, hpending, subscriber, Statement.gains] at hmoved ⊢
    exact ⟨hsame, by omega⟩

/-- A step of the system keeps the balance, up to what it publishes to every instance. -/
theorem balance_step (h : db.SameParents s.shared.db) {e : Event ι} (he : e.Undisturbed) :
    db.SameParents (step m s e).shared.db ∧ balance db metric (step m s e) =
      balance db metric s + Fintype.card ι * e.gain m db metric := by
  cases e with
  | receive inboxID r =>
    simp only [step, Event.gain, h.mail]
    cases db.mail.inboxes.find? inboxID with
    | none => exact ⟨h, rfl⟩
    | some inbox => exact ⟨h, balance_deliver db metric s _⟩
  | announce ib => exact ⟨h, balance_deliver db metric s _⟩
  | execute i => exact balance_execute metric h i
  | pass elapsed => exact ⟨h, rfl⟩
  | _ => exact he.elim

theorem balance_run (h : db.SameParents s.shared.db) {es : List (Event ι)}
    (hes : ∀ e ∈ es, e.Undisturbed) :
    balance db metric (run (step m) s es) =
      balance db metric s + Fintype.card ι * Event.gains m db metric es := by
  induction es generalizing s with
  | nil => rfl
  | cons e es ih =>
    obtain ⟨hsame, hbalance⟩ := balance_step (m := m) metric h (hes e List.mem_cons_self)
    rw [run_cons, ih hsame fun e' he' => hes e' (List.mem_cons_of_mem e he'), hbalance,
      Event.gains, Nat.mul_add, Nat.add_assoc]

/-- Once every instance is done, a metric has grown by what each of them added. -/
theorem figure_of_done {now : Int} {es : List (Event ι)} (hes : ∀ e ∈ es, e.Undisturbed)
    (hdone : ∀ i, (run (step m) (start db now) es).procs i = []) :
    (run (step m) (start db now) es).shared.db.figure metric =
      db.figure metric + Fintype.card ι * Event.gains m db metric es := by
  have hrun := balance_run (m := m) metric (s := start db now) (.refl db) hes
  have hend : tally (Statement.gains db metric) (run (step m) (start db now) es).procs = 0 :=
    tally_eq_zero fun i => by rw [hdone i]; rfl
  have hbegin : tally (Statement.gains db metric) (start db now : State ι).procs = 0 :=
    tally_eq_zero fun _ => rfl
  rw [balance, balance, hend, hbegin] at hrun
  exact hrun

end

/-- The messages of a run are what is counted of it. -/
theorem gains_eq_countP {ι : Type u} {m : Casing} {db : Db} {metric : Metric} {inbox : Inbox}
    {r : Received} (h : metric ∈ metrics m db.mail inbox r) (es : List (Event ι)) :
    Event.gains m db metric es =
      (stored db es).countP fun other => metric ∈ metrics m db.mail other.1 other.2 := by
  induction es with
  | nil => rfl
  | cons e es ih =>
    rw [Event.gains, ih, stored, stored, List.filterMap_cons]
    cases e with
    | receive inboxID r' =>
      simp only [Event.gain, Event.message]
      cases hfind : db.mail.inboxes.find? inboxID with
      | none => exact Nat.zero_add _
      | some found =>
        have hfound := (UniqueTable.find?_eq_some_iff.mp hfind).1
        simp only [Option.map_some, List.countP_cons, gains_emailReceived hfound,
          decide_eq_true_eq, Nat.add_comm]
    | announce ib => simp only [Event.gain, Event.message, gains_inboxExpired h, Nat.zero_add]
    | _ => exact Nat.zero_add _

/-- Messages are counted once exactly if one instance is subscribed. -/
theorem counted_once_iff {ι : Type u} [Fintype ι] [DecidableEq ι] (m : Casing) (db : Db)
    (now : Int) (es : List (Event ι)) (hes : ∀ e ∈ es, e.Undisturbed) (hstored : stored db es ≠ [])
    (hdone : ∀ i, (run (step m) (start db now) es).procs i = []) :
    CountedOnce m db (run (step m) (start db now) es).shared.db (stored db es) ↔
      Fintype.card ι = 1 := by
  have hfigure : ∀ message ∈ stored db es, ∀ metric ∈ metrics m db.mail message.1 message.2,
      (run (step m) (start db now) es).shared.db.figure metric = db.figure metric +
        Fintype.card ι * (stored db es).countP fun other =>
          metric ∈ metrics m db.mail other.1 other.2 := by
    intro message _ metric hmetric
    rw [figure_of_done metric hes hdone, gains_eq_countP hmetric]
  constructor
  · intro h
    obtain ⟨message, hmessage⟩ := List.exists_mem_of_ne_nil _ hstored
    have hmetric : Metric.org (orgOf db.mail message.1) ∈
        metrics m db.mail message.1 message.2 := by simp [metrics]
    have hcounted : 0 < (stored db es).countP fun other =>
        Metric.org (orgOf db.mail message.1) ∈ metrics m db.mail other.1 other.2 :=
      List.countP_pos_iff.mpr ⟨message, hmessage, by simpa using hmetric⟩
    have honce := (hfigure message hmessage _ hmetric).symm.trans (h message hmessage _ hmetric)
    have hfactor := Nat.add_left_cancel honce
    exact Nat.eq_of_mul_eq_mul_right hcounted (hfactor.trans (Nat.one_mul _).symm)
  · intro hcard message hmessage metric hmetric
    rw [hfigure message hmessage metric hmetric, hcard, Nat.one_mul]

/-- A message for inbox 6, and then every instance executes its eight statements. -/
def sampleEvents {ι : Type u} (instances : List ι) : List (Event ι) :=
  .receive 6 ⟨lit "c@d", lit "hello", 10, 5⟩ ::
    instances.flatMap fun i => List.replicate 8 (.execute i)

def sampleCounts {ι : Type u} [DecidableEq ι] (instances : List ι) : State ι :=
  run (step .ascii) (start sampleDb 0) (sampleEvents instances)

/-- With one instance the message counts once everywhere. -/
theorem one_instance_counts_once :
    CountedOnce .ascii sampleDb (sampleCounts [()]).shared.db
      (stored sampleDb (sampleEvents [()])) :=
  (counted_once_iff .ascii sampleDb 0 (sampleEvents [()])
    (by
      simp only [sampleEvents, List.flatMap_cons, List.flatMap_nil, List.replicate]
      simp [Event.Undisturbed])
    (by decide +kernel) (by decide +kernel)).mpr rfl

/-- Two instances are done with the one message, which has been counted twice for the
organisation and of which the owner of the inbox has two notifications. -/
theorem two_instances_count_twice :
    (∀ i, (sampleCounts [false, true]).procs i = []) ∧
      (stored sampleDb (sampleEvents [false, true])).length = 1 ∧
      sampleDb.figure (.org 1) = 0 ∧
      (sampleCounts [false, true]).shared.db.figure (.org 1) = 2 ∧
      (sampleCounts [false, true]).shared.db.notifications.length = 2 ∧
      ¬ CountedOnce .ascii sampleDb (sampleCounts [false, true]).shared.db
        (stored sampleDb (sampleEvents [false, true])) := by
  refine ⟨by decide +kernel, by decide +kernel, by decide +kernel, by decide +kernel,
    by decide +kernel, ?_⟩
  unfold CountedOnce
  decide +kernel

end BurnerByte.Realtime
