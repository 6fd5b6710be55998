import BurnerByte.Mailbox.MailEffects
import BurnerByte.Realtime.Events

/-!
# Announcing expired inboxes

The cleanup job lists the expired inboxes, announces each of them as `inbox.expired`, and then
deletes the expired inboxes. The two statements read the clock on their own and fail on their
own, and requests are handled between them. So what is deleted need not be what was announced.

The job also deletes messages, sessions, password resets and API keys, which touches neither
the inboxes nor what is announced of them. The announcements follow the list at once: they
depend on nothing that a request changes.
-/

namespace BurnerByte.Worker

open Go Sql Trace
open Mailbox (Inbox Db expired)
open Realtime (Expired InboxEvent inboxExpired orgOf)

/-! ## Statements of the job -/

/-- The team of the assignment, or the nil identifier if the assignment is gone. -/
def teamOf (db : Db) (inbox : Inbox) : UUID :=
  match db.assignments.find? inbox.domainAssignmentID with
  | none => uuidNil
  | some a => a.teamID

def joined (db : Db) (inbox : Inbox) : Expired where
  id := inbox.id
  createdBy := inbox.owner
  fullAddress := inbox.fullAddress
  expiresAt := inbox.expiresAt
  orgID := orgOf db inbox
  teamID := teamOf db inbox

def listExpired (db : Db) (now : Int) : List Expired :=
  (db.inboxes.rows.filter (expired now)).map (joined db)

def deleteExpired (db : Db) (now : Int) : Db := db.delete { inboxes := expired now }

/-! ## Announcements -/

inductive Channel where
  | webhook
  | audit
  | realtime
  deriving DecidableEq

/-- A call for `inbox.expired`. -/
inductive Call where
  | dispatch (teamID inboxID : UUID) (address : Bytes) (expiredAt : Int)
  | recordWithName (orgID resourceID : UUID) (resourceName : Bytes) (expiredAt : Int)
  | publish (evt : InboxEvent)

def Call.channel : Call → Channel
  | .dispatch .. => .webhook
  | .recordWithName .. => .audit
  | .publish .. => .realtime

def Call.inboxID : Call → UUID
  | .dispatch _ inboxID _ _ => inboxID
  | .recordWithName _ resourceID _ _ => resourceID
  | .publish evt => evt.inboxID

/-- One inbox on every channel. The webhook needs a team. -/
def announce (ib : Expired) : List Call :=
  (if ib.teamID ≠ uuidNil then [.dispatch ib.teamID ib.id ib.fullAddress ib.expiresAt] else []) ++
    [.recordWithName ib.orgID ib.id ib.fullAddress ib.expiresAt, .publish (inboxExpired ib)]

def emitInboxExpired (found : List Expired) : List Call := found.flatMap announce

/-- How often an inbox was announced on a channel. -/
def announced (calls : List Call) (channel : Channel) (id : UUID) : Nat :=
  calls.countP fun call => call.channel = channel ∧ call.inboxID = id

theorem announced_append (calls calls' : List Call) (channel : Channel) (id : UUID) :
    announced (calls ++ calls') channel id =
      announced calls channel id + announced calls' channel id := List.countP_append ..

theorem announced_announce {ib : Expired} (hteam : ib.teamID ≠ uuidNil) (channel : Channel)
    (id : UUID) : announced (announce ib) channel id = if ib.id = id then 1 else 0 := by
  simp only [announce, hteam, ne_eq, not_false_eq_true, if_true]
  cases channel <;>
    simp [announced, List.countP_cons, Call.channel, Call.inboxID, inboxExpired]

/-- On each channel, every inbox of the list is announced once. -/
theorem announced_emitInboxExpired {found : List Expired}
    (hteam : ∀ ib ∈ found, ib.teamID ≠ uuidNil) (channel : Channel) (id : UUID) :
    announced (emitInboxExpired found) channel id = (found.map Expired.id).count id := by
  induction found with
  | nil => rfl
  | cons ib found ih =>
    rw [emitInboxExpired, List.flatMap_cons, announced_append,
      announced_announce (hteam ib List.mem_cons_self), List.map_cons, List.count_cons,
      Nat.add_comm]
    simp only [beq_iff_eq]
    rw [← ih fun other hother => hteam other (List.mem_cons_of_mem ib hother)]
    rfl

/-! ## Runs -/

structure State where
  db : Db
  now : Int
  calls : List Call
  /-- The inboxes that the job has deleted. -/
  cleaned : List UUID

/-- The identifier has been in use. -/
def State.Used (s : State) (id : UUID) : Prop :=
  id ∈ s.cleaned ∨ ∃ call ∈ s.calls, call.inboxID = id
  deriving Decidable

theorem announced_of_unused {s : State} {id : UUID} (h : ¬ s.Used id) (channel : Channel) :
    announced s.calls channel id = 0 := by
  refine List.countP_eq_zero.mpr fun call hcall hthis => h (.inr ⟨call, hcall, ?_⟩)
  exact (of_decide_eq_true hthis).2

/-- What happens beside the job. -/
inductive Request where
  | pass (elapsed : Nat)
  | extendTTL (id : UUID) (newExpiry : Int)
  | createInbox (inbox : Inbox)
  | delete (d : Db.Deletion)

section

variable (job : CleanupJob) (s : State)

def State.handle : Request → State
  | .pass elapsed => { s with now := s.now + elapsed }
  | .extendTTL id newExpiry => { s with db := s.db.extendTTL id newExpiry }
  | .createInbox inbox =>
    -- Identifiers are generated, and none is used again.
    if s.Used inbox.id then s else { s with db := (s.db.insertInbox inbox).toOption.getD s.db }
  | .delete d => { s with db := s.db.delete d }

/-- A run of the job: whether its statements succeed, and what happens between them. -/
structure CleanupJob where
  listed : Bool
  meanwhile : List Request
  deleted : Bool

/-- What the list returns. -/
def CleanupJob.found : List Expired :=
  if job.listed then listExpired s.db s.now else []

/-- The state in which the inboxes are deleted. -/
def CleanupJob.between : State :=
  run State.handle { s with calls := s.calls ++ emitInboxExpired (job.found s) } job.meanwhile

def CleanupJob.finish : State :=
  if job.deleted then
    { s with
      db := deleteExpired s.db s.now
      cleaned := s.cleaned ++ (s.db.inboxes.rows.filter (expired s.now)).map Inbox.id }
  else s

inductive Event where
  | request (r : Request)
  | cleanup (job : CleanupJob)

def step : Event → State
  | .request r => s.handle r
  | .cleanup job => job.finish (job.between s)

/-! ## Announced and deleted -/

/-- Every inbox that the job deleted was announced once on every channel, and no inbox that is
still there was. -/
structure State.Consistent (s : State) : Prop where
  cleaned : ∀ id ∈ s.cleaned, ∀ channel, announced s.calls channel id = 1
  kept : ∀ inbox ∈ s.db.inboxes, ∀ channel, announced s.calls channel inbox.id = 0

/-- Assignments belong to teams, whose identifiers are generated. -/
def Named (db : Db) : Prop := ∀ a ∈ db.assignments, a.teamID ≠ uuidNil

/-- Of the inboxes that are there when the job deletes, those are deleted that the list found. -/
def CleanupJob.Matches : Prop :=
  ∀ inbox ∈ (job.between s).db.inboxes,
    (inbox.id ∈ (job.found s).map Expired.id ↔
      job.deleted = true ∧ expired (job.between s).now inbox = true)

end

section

variable {s t : State} {P : UUID → Prop}

/-- Requests announce nothing, and what holds of the inboxes and of unused identifiers holds of
the inboxes they leave. -/
structure Beside (P : UUID → Prop) (s t : State) : Prop where
  calls : t.calls = s.calls
  cleaned : t.cleaned = s.cleaned
  inboxes : ∀ inbox ∈ t.db.inboxes, P inbox.id
  named : Named t.db

theorem Beside.handle (hnew : ∀ id, ¬ s.Used id → P id) (h : Beside P s t) (r : Request) :
    Beside P s (t.handle r) := by
  cases r with
  | pass elapsed => exact ⟨h.calls, h.cleaned, h.inboxes, h.named⟩
  | extendTTL id newExpiry =>
    refine ⟨h.calls, h.cleaned, ?_, h.named⟩
    intro inbox hinbox
    obtain ⟨old, hold, rfl⟩ := List.mem_map.mp hinbox
    have hold' := h.inboxes old hold
    split
    · exact hold'
    · exact hold'
  | createInbox inbox =>
    rw [State.handle]
    split
    · exact h
    rename_i hunused
    have hunused' : ¬ s.Used inbox.id := by
      rw [State.Used, h.calls, h.cleaned] at hunused
      exact hunused
    cases hinsert : t.db.insertInbox inbox with
    | error err => exact h
    | ok db =>
      obtain ⟨hmem, _, hassignments, _⟩ := Db.insertInbox_eq_ok hinsert
      refine ⟨h.calls, h.cleaned, fun new hmemNew => ?_, ?_⟩
      · cases (hmem new).mp hmemNew with
        | inl heq =>
          rw [heq]
          exact hnew inbox.id hunused'
        | inr hold => exact h.inboxes new hold
      · intro a ha
        have ha' : a ∈ db.assignments := ha
        rw [hassignments] at ha'
        exact h.named a ha'
  | delete d =>
    exact ⟨h.calls, h.cleaned,
      fun inbox hinbox => h.inboxes inbox (Db.mem_delete_inboxes.mp hinbox).1,
      fun a ha => h.named a (Db.mem_delete_assignments.mp ha).1⟩

theorem Beside.run (hnew : ∀ id, ¬ s.Used id → P id) (h : Beside P s t) (rs : List Request) :
    Beside P s (Trace.run State.handle t rs) :=
  Trace.run_induct (fun _ r ht => ht.handle hnew r) h rs

end

/-! ## One run of the job -/

namespace CleanupJob

variable {s : State} {job : CleanupJob}

theorem nodup_found (job : CleanupJob) (s : State) :
    ((job.found s).map Expired.id).Nodup := by
  unfold found
  split
  · rw [listExpired, List.map_map]
    exact s.db.inboxes.unique.sublist (List.filter_sublist.map Inbox.id)
  · exact List.nodup_nil

theorem team_of_found (hnamed : Named s.db) : ∀ ib ∈ job.found s, ib.teamID ≠ uuidNil := by
  intro ib hib
  unfold found at hib
  split at hib
  · obtain ⟨inbox, hinbox, rfl⟩ := List.mem_map.mp hib
    obtain ⟨a, ha, hid⟩ := s.db.inbox_assignment inbox (List.mem_filter.mp hinbox).1
    have hfind : s.db.assignments.find? inbox.domainAssignmentID = some a :=
      UniqueTable.find?_eq_some_iff.mpr ⟨ha, hid⟩
    simp only [joined, teamOf, hfind]
    exact hnamed a ha
  · exact absurd hib List.not_mem_nil

theorem inbox_of_found {id : UUID} (h : id ∈ (job.found s).map Expired.id) :
    ∃ inbox ∈ s.db.inboxes, inbox.id = id := by
  obtain ⟨ib, hib, rfl⟩ := List.mem_map.mp h
  unfold found at hib
  split at hib
  · obtain ⟨inbox, hinbox, rfl⟩ := List.mem_map.mp hib
    exact ⟨inbox, (List.mem_filter.mp hinbox).1, rfl⟩
  · exact absurd hib List.not_mem_nil

/-- What the job announces in a state. -/
theorem announced_found (hnamed : Named s.db) (channel : Channel) (id : UUID) :
    announced (s.calls ++ emitInboxExpired (job.found s)) channel id =
      announced s.calls channel id + if id ∈ (job.found s).map Expired.id then 1 else 0 := by
  rw [announced_append, announced_emitInboxExpired (team_of_found hnamed),
    (nodup_found job s).count]

/-- When the job comes to delete, the inboxes that are there have been announced if the list
found them, and those that earlier runs deleted have been announced once, as before. -/
structure Announced (job : CleanupJob) (s mid : State) : Prop where
  cleaned : ∀ id ∈ mid.cleaned, ∀ channel, announced mid.calls channel id = 1
  inboxes : ∀ inbox ∈ mid.db.inboxes, ∀ channel, announced mid.calls channel inbox.id =
    if inbox.id ∈ (job.found s).map Expired.id then 1 else 0

theorem announced_between (hs : s.Consistent) (hnamed : Named s.db) (job : CleanupJob) :
    job.Announced s (job.between s) := by
  let s₁ : State := { s with calls := s.calls ++ emitInboxExpired (job.found s) }
  let P (id : UUID) : Prop := ∀ channel, announced s₁.calls channel id =
    if id ∈ (job.found s).map Expired.id then 1 else 0
  have hnew : ∀ id, ¬ s₁.Used id → P id := by
    intro id hunused channel
    have hzero : announced s₁.calls channel id = 0 := announced_of_unused hunused channel
    have hsum : announced s₁.calls channel id = announced s.calls channel id +
        if id ∈ (job.found s).map Expired.id then 1 else 0 := announced_found hnamed channel id
    rw [hzero]
    split
    · rename_i hfound
      rw [if_pos hfound] at hsum
      exact absurd (hzero.symm.trans hsum) (by omega)
    · rfl
  have hstart : Beside P s₁ s₁ := by
    refine ⟨rfl, rfl, fun inbox hinbox channel => ?_, hnamed⟩
    rw [announced_found hnamed, hs.kept inbox hinbox, Nat.zero_add]
  have hmid : Beside P s₁ (job.between s) := hstart.run hnew job.meanwhile
  refine ⟨fun id hid channel => ?_, fun inbox hinbox channel => ?_⟩
  · rw [hmid.cleaned] at hid
    -- An inbox that was deleted before is not in the table, so the list does not find it.
    have hgone : id ∉ (job.found s).map Expired.id := by
      intro hfound
      obtain ⟨inbox, hinbox, rfl⟩ := inbox_of_found hfound
      have hone := hs.cleaned inbox.id hid channel
      rw [hs.kept inbox hinbox] at hone
      cases hone
    rw [hmid.calls, announced_found hnamed, hs.cleaned id hid, if_neg hgone]
  · rw [hmid.calls]
    exact hmid.inboxes inbox hinbox channel

/-- The deletion takes the inboxes that are expired by then, unless it fails. -/
theorem finish_spec (job : CleanupJob) (mid : State) :
    (job.finish mid).calls = mid.calls ∧
      (∀ id, id ∈ (job.finish mid).cleaned ↔ id ∈ mid.cleaned ∨ ∃ inbox ∈ mid.db.inboxes,
        (job.deleted = true ∧ expired mid.now inbox = true) ∧ inbox.id = id) ∧
      ∀ inbox, inbox ∈ (job.finish mid).db.inboxes ↔ inbox ∈ mid.db.inboxes ∧
        ¬ (job.deleted = true ∧ expired mid.now inbox = true) := by
  unfold finish
  by_cases hdeleted : job.deleted = true
  · simp only [hdeleted, if_true, true_and, List.mem_append, List.mem_map, List.mem_filter,
      and_assoc]
    refine ⟨fun id => Iff.rfl, fun inbox => ?_⟩
    rw [deleteExpired, Db.mem_delete_inboxes, Db.removesInbox_inboxes, Bool.not_eq_true]
  · simp [hdeleted]

/-- `Mailbox.cleanupJob`, the job on the mail, leaves the same inboxes. -/
theorem mem_inboxes_finish_iff {mail : Mailbox.State} {t : Mailbox.Times} {inbox : Inbox}
    (hdb : mail.db = s.db) (hnow : t.read = s.now) (hdeleted : job.deleted = true) :
    inbox ∈ (job.finish s).db.inboxes ↔ inbox ∈ (Mailbox.cleanupJob mail t).db.inboxes := by
  rw [(finish_spec job s).2.2, Mailbox.mem_inboxes_cleanupJob, hdb, hnow, hdeleted]
  simp

/-- The run ends in a consistent state exactly if it deletes what it found. -/
theorem consistent_finish_iff {mid : State} (h : job.Announced s mid) :
    (job.finish mid).Consistent ↔ ∀ inbox ∈ mid.db.inboxes,
      (inbox.id ∈ (job.found s).map Expired.id ↔
        job.deleted = true ∧ expired mid.now inbox = true) := by
  obtain ⟨hcalls, hcleaned, hinboxes⟩ := finish_spec job mid
  constructor
  · intro hend inbox hinbox
    have hcount := h.inboxes inbox hinbox .audit
    rw [← hcalls] at hcount
    by_cases hgone : job.deleted = true ∧ expired mid.now inbox = true
    · refine iff_of_true ?_ hgone
      by_contra hmissed
      have hone :=
        hend.cleaned inbox.id ((hcleaned _).mpr (.inr ⟨inbox, hinbox, hgone, rfl⟩)) .audit
      rw [hcount, if_neg hmissed] at hone
      cases hone
    · refine iff_of_false (fun hfound => ?_) hgone
      have hzero := hend.kept inbox ((hinboxes _).mpr ⟨hinbox, hgone⟩) .audit
      rw [hcount, if_pos hfound] at hzero
      cases hzero
  · intro hmatch
    refine ⟨fun id hid channel => ?_, fun inbox hinbox channel => ?_⟩
    · rw [hcalls]
      rcases (hcleaned id).mp hid with hold | ⟨inbox, hinbox, hgone, rfl⟩
      · exact h.cleaned id hold channel
      · rw [h.inboxes inbox hinbox, if_pos ((hmatch inbox hinbox).mpr hgone)]
    · obtain ⟨hmem, hkept⟩ := (hinboxes inbox).mp hinbox
      rw [hcalls, h.inboxes inbox hmem, if_neg (mt (hmatch inbox hmem).mp hkept)]

end CleanupJob

/-! ## Every run -/

/-- Every run of the job deletes what it found. -/
def Event.Matches (s : State) : Event → Prop
  | .request _ => True
  | .cleanup job => job.Matches s

theorem named_step (s : State) (e : Event) (h : Named s.db) : Named (step s e).db := by
  have hrequests : ∀ {s : State} (rs : List Request), Named s.db →
      Named (run State.handle s rs).db := by
    intro s rs h
    have hstart : Beside (fun _ => True) s s := ⟨rfl, rfl, fun _ _ => trivial, h⟩
    exact (hstart.run (fun _ _ => trivial) rs).named
  cases e with
  | request r => exact hrequests [r] h
  | cleanup job =>
    have hmid : Named (job.between s).db := hrequests job.meanwhile h
    rw [step, CleanupJob.finish]
    split
    · exact fun a ha => hmid a (Db.mem_delete_assignments.mp ha).1
    · exact hmid

theorem matches_iff {s : State} (hs : s.Consistent) (hnamed : Named s.db) (e : Event) :
    e.Matches s ↔ (step s e).Consistent := by
  cases e with
  | request r =>
    have hstart : Beside (fun id => ∀ channel, announced s.calls channel id = 0) s s :=
      ⟨rfl, rfl, hs.kept, hnamed⟩
    have hend := hstart.handle (fun id hunused channel => announced_of_unused hunused channel) r
    refine iff_of_true trivial ⟨?_, ?_⟩
    · rw [step, hend.cleaned, hend.calls]
      exact hs.cleaned
    · rw [step, hend.calls]
      exact hend.inboxes
  | cleanup job =>
    exact (CleanupJob.consistent_finish_iff (CleanupJob.announced_between hs hnamed job)).symm

/-- The inboxes that the job has deleted were announced once and the others were not, after every
run of the job, exactly if each of its runs deletes the inboxes that it found. -/
theorem announced_exactly_once_iff (s : State) (hs : s.Consistent) (hnamed : Named s.db)
    (es : List Event) :
    (∀ done, done <+: es → (run step s done).Consistent) ↔ Guarded step Event.Matches s es := by
  have hstep : ∀ s e, (s.Consistent ∧ Named s.db) →
      (e.Matches s ↔ (step s e).Consistent ∧ Named (step s e).db) := by
    intro s e h
    rw [matches_iff h.1 h.2 e, and_iff_left (named_step s e h.2)]
  rw [Guarded.iff_always ⟨hs, hnamed⟩ hstep]
  refine forall₂_congr fun done _ => (and_iff_left ?_).symm
  exact Trace.run_induct named_step hnamed done

/-- Nothing has been announced yet. -/
def sampleState (now : Int) : State := ⟨Realtime.sampleMail, now, [], []⟩

theorem consistent_sampleState (now : Int) : (sampleState now).Consistent :=
  ⟨fun _ hid => absurd hid List.not_mem_nil, fun _ _ _ => rfl⟩

theorem named_sampleMail : Named Realtime.sampleMail := by
  unfold Named
  decide

/-- An inbox that is expired when the job lists and still when it deletes. -/
theorem expired_inbox_announced_once :
    (run step (sampleState 60) [.cleanup ⟨true, [.pass 10], true⟩]).cleaned = [6] ∧
      (run step (sampleState 60) [.cleanup ⟨true, [.pass 10], true⟩]).Consistent := by
  refine ⟨by decide +kernel, ?_⟩
  refine (announced_exactly_once_iff (sampleState 60) (consistent_sampleState 60) named_sampleMail
    [.cleanup ⟨true, [.pass 10], true⟩]).mpr ⟨?_, trivial⟩ _ (List.prefix_refl _)
  simp only [Event.Matches, CleanupJob.Matches]
  decide +kernel

/-- An inbox expires between the two statements, or the list fails: it is deleted and was not
announced. An inbox is extended between them, or the deletion fails: it is announced and still
there, and the next run announces it again. -/
theorem announced_and_deleted_differ :
    (sampleState 50).Consistent ∧
      ((step (sampleState 50) (.cleanup ⟨true, [.pass 10], true⟩)).cleaned = [6] ∧
        announced (step (sampleState 50) (.cleanup ⟨true, [.pass 10], true⟩)).calls .audit 6 = 0) ∧
      ((step (sampleState 60) (.cleanup ⟨false, [], true⟩)).cleaned = [6] ∧
        announced (step (sampleState 60) (.cleanup ⟨false, [], true⟩)).calls .audit 6 = 0) ∧
      ((step (sampleState 60) (.cleanup ⟨true, [.extendTTL 6 9000], true⟩)).cleaned = [] ∧
        announced (step (sampleState 60) (.cleanup ⟨true, [.extendTTL 6 9000], true⟩)).calls
          .audit 6 = 1) ∧
      ((run step (sampleState 60) [.cleanup ⟨true, [], false⟩, .cleanup ⟨true, [], true⟩]).cleaned =
          [6] ∧
        announced (run step (sampleState 60)
          [.cleanup ⟨true, [], false⟩, .cleanup ⟨true, [], true⟩]).calls .audit 6 = 2) := by
  refine ⟨consistent_sampleState 50, ?_, ?_, ?_, ?_⟩
  all_goals decide +kernel

end BurnerByte.Worker
