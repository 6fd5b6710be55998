import BurnerByte.Core.Interleaving
import BurnerByte.Smtp.Streams

/-!
# The queue between the listener and the workers

The connections put parsed messages into a buffered channel, and workers take them out. On a
signal the context is cancelled, `Start` forbids further messages, closes the channel and waits
for the workers. `Enqueue` looks whether it may still send before it sends, so that the channel
may be closed in between. The main program does not wait for `Start`.

Calls of `Enqueue`, workers, `Start` and the main program are processes that execute one statement
at a time, in every order. A message is named by the call that brings it.
-/

namespace BurnerByte.Smtp

open Go Interleaving

/-- The channel, and whether messages are still taken. -/
structure Server (α : Type) where
  queue : List α
  capacity : Nat
  stopped : Bool
  closed : Bool

namespace Server

variable {α : Type}

def newServer (queueSize : Int) : Server α where
  queue := []
  capacity := if queueSize ≤ 0 then 1000 else queueSize.toNat
  stopped := false
  closed := false

/-- The `select` of `Enqueue`. To send on a closed channel panics, with or without room. -/
def trySend (s : Server α) (x : α) : Option (Bool × Server α) :=
  if s.closed then none
  else if s.queue.length < s.capacity then some (true, { s with queue := s.queue ++ [x] })
  else some (false, s)

def enqueue (s : Server α) (x : α) : Option (Bool × Server α) :=
  if s.stopped then some (false, s) else s.trySend x

/-- A message that comes now is taken. -/
def HasRoom (s : Server α) : Prop := s.stopped = false ∧ s.queue.length < s.capacity

theorem enqueue_iff {s : Server α} {x : α} {ok : Bool}
    (h : (s.enqueue x).map Prod.fst = some ok) : ok = true ↔ s.HasRoom := by
  unfold enqueue trySend at h
  unfold HasRoom
  split at h
  · simp_all
  split at h
  · simp at h
  · split at h <;> simp_all

end Server

/-! ## The answer to a message -/

/-- The copies of a message that come into the queue. -/
def queued (l : Listener) (s : Session) (data : Bytes) : List InboundEmail :=
  ((inboundEmails l s.mailFrom s.rcptTo data).zipIdx.filter fun copy =>
    l.enqueue s.turn copy.2 copy.1).map Prod.fst

/-- What a data phase puts into the queue. -/
def enqueued (l : Listener) (s : Session) : List InboundEmail :=
  (received l s).elim [] (queued l s)

/-- The last reply of a data phase. -/
def answer (l : Listener) (s : Session) : Bytes := (receive l s).replies.getLast?.getD []

/-- A sender that is told to try again has left nothing, and one that is told that all is well
has reached every recipient. -/
structure Reliable (l : Listener) (s : Session) : Prop where
  refused : lit "451" <+: answer l s → enqueued l s = []
  accepted : lit "250" <+: answer l s → (enqueued l s).map InboundEmail.toAddr = s.rcptTo

variable {l : Listener} {s : Session} {data : Bytes} {server : Nat → Server InboundEmail}

theorem map_toAddr_inboundEmails (l : Listener) (mailFrom : Bytes) (rcptTo : List Bytes)
    (data : Bytes) : (inboundEmails l mailFrom rcptTo data).map InboundEmail.toAddr = rcptTo := by
  unfold inboundEmails
  split <;> simp [Function.comp_def]

/-- Each copy is tried on the server as it is by then. -/
def Tries (l : Listener) (s : Session) (server : Nat → Server InboundEmail) : Prop :=
  ∀ i email, ((server i).enqueue email).map Prod.fst = some (l.enqueue s.turn i email)

/-- What holds of the server at every copy, by the number of the copy. -/
theorem forall_copies (l : Listener) (s : Session) (data : Bytes) {P : Nat → Prop} :
    (∀ copy ∈ (inboundEmails l s.mailFrom s.rcptTo data).zipIdx, P copy.2) ↔
      ∀ i < s.rcptTo.length, P i := by
  have hlen := congrArg List.length (map_toAddr_inboundEmails l s.mailFrom s.rcptTo data)
  rw [List.length_map] at hlen
  constructor
  · intro h i hi
    exact h (_, i) (List.mk_mem_zipIdx_iff_getElem?.mpr (List.getElem?_eq_getElem (hlen ▸ hi)))
  · intro h copy hcopy
    exact h copy.2 (hlen ▸ List.snd_lt_of_mem_zipIdx hcopy)

/-- A message is answered reliably exactly if its copies all find room in the queue, or none. -/
theorem reliable_iff (h : Tries l s server) :
    Reliable l s ↔ (received l s).isSome → (∀ i < s.rcptTo.length, (server i).HasRoom) ∨
      ∀ i < s.rcptTo.length, ¬ (server i).HasRoom := by
  have hroom (copy : InboundEmail × Nat) : l.enqueue s.turn copy.2 copy.1 = true ↔
      (server copy.2).HasRoom := Server.enqueue_iff (h copy.2 copy.1)
  cases hreceived : received l s with
  | none =>
    have henqueued : enqueued l s = [] := by rw [enqueued, hreceived]; rfl
    refine iff_of_true ⟨fun _ => henqueued, fun hok => ?_⟩ nofun
    obtain ⟨reply, heq, hreply⟩ := receive_of_none hreceived
    have hanswer : answer l s = reply := by simp [answer, heq, Session.answered]
    rw [hanswer] at hok
    exact absurd hok ((by decide : ∀ reply ∈ _, ¬ lit "250" <+: reply) reply hreply)
  | some data =>
    have hall : processData l s.turn s.mailFrom s.rcptTo data = true ↔
        ∀ i < s.rcptTo.length, (server i).HasRoom := by
      rw [← forall_copies l s data, processData, List.all_eq_true]
      exact forall₂_congr fun copy _ => hroom copy
    have hnone : enqueued l s = [] ↔ ∀ i < s.rcptTo.length, ¬ (server i).HasRoom := by
      rw [← forall_copies l s data, enqueued, hreceived, Option.elim, queued,
        List.map_eq_nil_iff, List.filter_eq_nil_iff]
      exact forall₂_congr fun copy _ => not_congr (hroom copy)
    have hanswer : answer l s = if processData l s.turn s.mailFrom s.rcptTo data
        then lit "250 2.0.0 OK: message queued"
        else lit "451 4.3.0 Service unavailable, try again later" := by
      simp [answer, receive_of_some hreceived, Session.answered]
    by_cases hok : processData l s.turn s.mailFrom s.rcptTo data = true
    · rw [if_pos hok] at hanswer
      refine iff_of_true ⟨fun hrefused => ?_, fun _ => ?_⟩ fun _ => .inl (hall.mp hok)
      · rw [hanswer] at hrefused
        exact absurd hrefused (by decide)
      · have hkept : queued l s data = inboundEmails l s.mailFrom s.rcptTo data := by
          rw [queued, List.filter_eq_self.mpr (List.all_eq_true.mp hok), List.zipIdx_map_fst]
        rw [enqueued, hreceived, Option.elim, hkept, map_toAddr_inboundEmails]
    · rw [if_neg hok] at hanswer
      rw [← hnone, ← hall, or_iff_right hok]
      constructor
      · exact fun hreliable _ => hreliable.refused (hanswer ▸ by decide)
      · refine fun hempty => ⟨fun _ => hempty rfl, fun haccepted => ?_⟩
        rw [hanswer] at haccepted
        exact absurd haccepted (by decide)

/-- A message for two recipients. -/
def twoRecipients : Session :=
  { Session.accept [] (sent (lit "hi\r\n.\r\n")) [] with
    mailFrom := lit "a", rcptTo := [lit "b", lit "c"] }

theorem both_copies_queued : Reliable (.permissive 100 (by decide)) twoRecipients :=
  (@reliable_iff _ _ (fun _ => .newServer 0) fun _ _ => rfl).mpr fun _ =>
    .inl fun _ _ => ⟨rfl, by decide⟩

/-- A listener that finds the queue full after the first copy of a message. -/
def oneAccepted : Listener :=
  { Listener.permissive 100 (by decide) with enqueue := fun _ i _ => i = 0 }

/-- A queue of one place, before the first copy and after it. -/
def onePlace : Nat → Server InboundEmail
  | 0 => .newServer 1
  | _ + 1 => ⟨inboundEmails oneAccepted (lit "a") [lit "b"] (lit "hi\r\n"), 1, false, false⟩

/-- The first copy is queued, the second finds the queue full, and the sender is told to try
again. -/
theorem first_copy_stays : Tries oneAccepted twoRecipients onePlace ∧
    ¬ Reliable oneAccepted twoRecipients := by
  refine ⟨fun i email => ?_, fun h => ?_⟩
  · cases i <;> rfl
  · have hanswer : lit "451" <+: answer oneAccepted twoRecipients := by decide +kernel
    have hone : (enqueued oneAccepted twoRecipients).length = 1 := by decide +kernel
    simp [h.refused hanswer] at hone

/-! ## The daemon -/

inductive Process where
  | call (i : Nat)
  | start
  | worker (i : Nat)
  | main
  deriving DecidableEq

/-- Where a process stands. -/
inductive Place where
  /-- A call of `Enqueue`, before and after it looks at `stopped`. -/
  | entering (m : Nat)
  | sending (m : Nat)
  | answered (ok : Bool)
  /-- `Start`, once its workers run. -/
  | waiting
  | stopping
  | closing
  | draining
  | returned
  /-- A worker waits for a message, holds one, and is about to process it, either with a context
  of its own or with the one of the daemon. -/
  | receiving (w : Nat)
  | holding (w m : Nat)
  | processing (w m : Nat) (own : Bool)
  | finished
  /-- The main program, before and after the signal. -/
  | serving
  | leaving
  | left

structure Daemon where
  server : Server Nat
  cancelled : Bool
  /-- The workers that `Start` waits for. -/
  running : List Nat
  /-- The messages for which `Enqueue` returned true. -/
  accepted : List Nat
  /-- The calls of `Process`, with whether the context was still good. -/
  processed : List (Nat × Bool)
  panicked : Bool
  /-- The process has ended, by a panic or by the return of the main program. -/
  exited : Bool

/-- The next statement of a process of a daemon that runs. -/
def Place.next (d : Daemon) : Place → Place × Daemon
  | .entering m => (if d.server.stopped then .answered false else .sending m, d)
  | .sending m =>
    match d.server.trySend m with
    | none => (.sending m, { d with panicked := true, exited := true })
    | some (ok, server) =>
      (.answered ok, { d with server, accepted := if ok then m :: d.accepted else d.accepted })
  | .waiting => (if d.cancelled then .stopping else .waiting, d)
  | .stopping => (.closing, { d with server := { d.server with stopped := true } })
  | .closing => (.draining, { d with server := { d.server with closed := true } })
  | .draining => (if d.running = [] then .returned else .draining, d)
  | .receiving w =>
    match d.server.queue with
    | m :: queue => (.holding w m, { d with server := { d.server with queue } })
    | [] =>
      if d.server.closed then (.finished, { d with running := d.running.filter (· ≠ w) })
      else (.receiving w, d)
  | .holding w m => (.processing w m d.cancelled, d)
  | .processing w m own =>
    (.receiving w, { d with processed := (m, own || !d.cancelled) :: d.processed })
  | .serving => (.leaving, { d with cancelled := true })
  | .leaving => (.left, { d with exited := true })
  | p => (p, d)

/-- A daemon that has ended executes nothing. -/
def Place.stmt (p : Place) (d : Daemon) : Place × Daemon := if d.exited then (p, d) else p.next d

/-- The configured number of workers. -/
def workerCount (workers : Int) : Nat := if workers ≤ 0 then 4 else workers.toNat

/-- The daemon has started, and nobody has sent anything. -/
def launched (queueSize workers : Int) : System Process Place Daemon where
  procs
    | .call i => .entering i
    | .start => .waiting
    | .worker w => if w < workerCount workers then .receiving w else .finished
    | .main => .serving
  shared := ⟨.newServer queueSize, false, List.range (workerCount workers), [], [], false, false⟩

def after (queueSize workers : Int) (schedule : List Process) : System Process Place Daemon :=
  Trace.run (System.step Place.stmt) (launched queueSize workers) schedule

/-- The message that a worker has. -/
def Place.message : Place → Option Nat
  | .holding _ m | .processing _ m _ => some m
  | _ => none

/-- The worker that stands at the place. -/
def Place.workerID : Place → Option Nat
  | .receiving w | .holding w _ | .processing w _ _ => some w
  | _ => none

/-- A worker is about to call `Process` with the context of the daemon. -/
def Place.borrows : Place → Bool
  | .processing _ _ own => !own
  | _ => false

/-- What a statement can do to the queue and to the calls of `Enqueue`. -/
structure Sends (p : Place) (d : Daemon) (p' : Place) (d' : Daemon) : Prop where
  panicked : d'.panicked = true → d.panicked = true ∨ d.server.closed = true ∧ ∃ m, p = .sending m
  closed : d'.server.closed = true → d.server.closed = true ∨ p = .closing
  stopped : d.server.stopped = true → d'.server.stopped = true
  sending : ∀ m, p' = .sending m → d'.panicked = true ∨ d.server.stopped = false ∧ d' = d
  closing : p' = .closing → d'.server.stopped = true

theorem next_sends (p : Place) (d : Daemon) : Sends p d (p.next d).1 (p.next d).2 := by
  unfold Place.next Server.trySend
  constructor <;> grind

/-- The queue is closed only while no call stands between its look at `stopped` and its send. -/
def ClosesAlone (sys : System Process Place Daemon) (i : Process) : Prop :=
  sys.procs i = .closing → ∀ j m, sys.procs j ≠ .sending m

structure Orderly (sys : System Process Place Daemon) : Prop where
  calm : sys.shared.panicked = false
  closed : sys.shared.server.closed = true →
    sys.shared.server.stopped = true ∧ ∀ j m, sys.procs j ≠ .sending m
  closing : ∀ j, sys.procs j = .closing → sys.shared.server.stopped = true

variable {sys : System Process Place Daemon} {queueSize workers : Int} {schedule : List Process}

/-- A process executes its next statement, unless the daemon has ended. -/
theorem next_or_ended (sys : System Process Place Daemon) (i : Process) :
    sys.step Place.stmt i = sys ∨
      sys.shared.exited = false ∧ sys.step Place.stmt i = sys.step (fun p d => p.next d) i := by
  unfold System.step Place.stmt
  split
  · rw [Function.update_eq_self]
    exact .inl rfl
  · rename_i hopen
    exact .inr ⟨Bool.eq_false_iff.mpr hopen, rfl⟩

theorem Orderly.step (h : Orderly sys) {i : Process} (hguard : ClosesAlone sys i) :
    Orderly (sys.step Place.stmt i) := by
  rcases next_or_ended sys i with heq | ⟨_, heq⟩
  · rwa [heq]
  rw [heq]
  have hsends := next_sends (sys.procs i) sys.shared
  have hcalm : ((sys.procs i).next sys.shared).2.panicked = false := by
    rw [Bool.eq_false_iff]
    intro hpanicked
    rcases hsends.panicked hpanicked with hold | ⟨hclosed, m, hm⟩
    · exact absurd (h.calm.symm.trans hold) nofun
    · exact (h.closed hclosed).2 i m hm
  refine ⟨hcalm, fun hclosed => ?_, ?_⟩
  · obtain ⟨hstopped, halone⟩ : sys.shared.server.stopped = true ∧
        ∀ j m, sys.procs j ≠ .sending m := by
      rcases hsends.closed hclosed with hold | hclosing
      · exact h.closed hold
      · exact ⟨h.closing i hclosing, hguard hclosing⟩
    refine ⟨hsends.stopped hstopped, System.forall_step
      (P := fun _ (p : Place) => ∀ m, p ≠ .sending m) halone fun m hm => ?_⟩
    rcases hsends.sending m hm with hpanicked | ⟨hopen, _⟩
    · exact absurd (hcalm.symm.trans hpanicked) nofun
    · exact absurd (hopen.symm.trans hstopped) nofun
  · exact System.forall_step (P := fun _ (p : Place) => p = .closing →
        ((sys.procs i).next sys.shared).2.server.stopped = true)
      (fun j hj => hsends.stopped (h.closing j hj)) hsends.closing

theorem orderly_launched (queueSize workers : Int) : Orderly (launched queueSize workers) := by
  refine ⟨rfl, nofun, fun j hj => ?_⟩
  unfold launched at hj
  cases j <;> grind

/-- While the queue is closed only in such moments, the shutdown does not panic. -/
theorem never_panics
    (h : Trace.Guarded (System.step Place.stmt) ClosesAlone (launched queueSize workers) schedule) :
    (after queueSize workers schedule).shared.panicked = false :=
  (h.invariant (orderly_launched queueSize workers) fun _ _ hs hguard => hs.step hguard).calm

/-- A call that comes after the shutdown is refused. -/
theorem late_call_refused :
    (after 0 0 [.main, .start, .start, .start, .call 0]).shared.panicked = false := by
  refine never_panics ⟨nofun, nofun, nofun, fun _ j m => ?_, nofun, trivial⟩
  cases j with
  | worker w => by_cases hw : w < 4 <;> simp [System.step, launched, workerCount, hw]
  | _ => nofun

/-- A call finds the server running, `Start` stops it and closes the queue, and the call sends. -/
theorem late_send_panics :
    (after 0 0 [.call 0, .main, .start, .start, .start, .call 0]).shared.panicked = true := by
  decide

/-! ## Messages that were accepted -/

/-- What a statement can do to the messages and to the workers. -/
structure Moves (p : Place) (d : Daemon) (p' : Place) (d' : Daemon) : Prop where
  accepted : ∀ m ∈ d'.accepted, m ∈ d.accepted ∨ m ∈ d'.server.queue
  queue : ∀ m ∈ d.server.queue, m ∈ d'.server.queue ∨ p'.message = some m
  message : ∀ m, p.message = some m → p'.message = some m ∨ (m, true) ∈ d'.processed ∨
    d.cancelled = true ∧ p.borrows = true
  processed : ∀ x ∈ d.processed, x ∈ d'.processed
  cancelled : d'.cancelled = true → d.cancelled = true ∨ p = .serving
  context : p'.borrows = true → d'.cancelled = false
  worker : ∀ w, p'.workerID = some w → p.workerID = some w
  fewer : ∀ w ∈ d'.running, w ∈ d.running
  running : ∀ w ∈ d.running, w ∈ d'.running ∨ p.workerID = some w ∧ p'.workerID = none ∧
    d'.server.queue = [] ∧ d'.server.closed = true
  drained : d.server.queue = [] → d.server.closed = true →
    d'.server.queue = [] ∧ d'.server.closed = true
  returned : p' = .returned → p = .returned ∨ d'.running = []
  exited : d'.exited = true → d.exited = true ∨ d'.panicked = true ∨ p = .leaving

theorem next_moves (p : Place) (d : Daemon) : Moves p d (p.next d).1 (p.next d).2 := by
  unfold Place.next Server.trySend
  cases p <;> constructor <;> grind [Place.message, Place.workerID, Place.borrows]

/-- The signal does not come between the look of a worker at the context and its call of `Process`,
no call is about to send when the queue is closed, and the main program returns only after `Start`
has. -/
structure Waits (sys : System Process Place Daemon) (i : Process) : Prop where
  alone : ClosesAlone sys i
  signal : sys.procs i = .serving → ∀ j, (sys.procs j).borrows = false
  exit : sys.procs i = .leaving → sys.procs .start = .returned

/-- Where the accepted messages are, as long as the daemon has `n` workers. -/
structure Accounted (n : Nat) (sys : System Process Place Daemon) : Prop where
  kept : ∀ m ∈ sys.shared.accepted, m ∈ sys.shared.server.queue ∨
    (∃ j, (sys.procs j).message = some m) ∨ (m, true) ∈ sys.shared.processed
  own : sys.shared.cancelled = true → ∀ j, (sys.procs j).borrows = false
  workers : ∀ j w, (sys.procs j).workerID = some w → j = .worker w ∧ w ∈ sys.shared.running
  drained : ∀ w < n, w ∉ sys.shared.running →
    sys.shared.server.queue = [] ∧ sys.shared.server.closed = true
  returned : ∀ j, sys.procs j = .returned → sys.shared.running = []

variable {n : Nat}

theorem Place.workerID_of_message {p : Place} {m : Nat} (h : p.message = some m) :
    ∃ w, p.workerID = some w := by
  cases p <;> simp_all [message, workerID]

/-- Once no worker runs, the accepted messages are processed. -/
theorem Accounted.processed (h : Accounted n sys) (hn : 0 < n)
    (hrunning : sys.shared.running = []) :
    ∀ m ∈ sys.shared.accepted, (m, true) ∈ sys.shared.processed := by
  intro m hm
  rcases h.kept m hm with hqueue | ⟨j, hj⟩ | hdone
  · rw [(h.drained 0 hn (by simp [hrunning])).1] at hqueue
    cases hqueue
  · obtain ⟨w, hw⟩ := Place.workerID_of_message hj
    have hmem := (h.workers j w hw).2
    rw [hrunning] at hmem
    cases hmem
  · exact hdone

theorem Accounted.step (h : Accounted n sys) {i : Process}
    (hsignal : sys.procs i = .serving → ∀ j, (sys.procs j).borrows = false) :
    Accounted n (sys.step (fun p d => p.next d) i) := by
  have hmoves := next_moves (sys.procs i) sys.shared
  constructor
  · intro m hm
    rcases hmoves.accepted m hm with hold | hqueue
    · rcases h.kept m hold with hqueue | ⟨j, hj⟩ | hdone
      · rcases hmoves.queue m hqueue with hqueue | htaken
        · exact .inl hqueue
        · exact .inr (.inl ⟨i, by rwa [System.step_self]⟩)
      · by_cases hji : j = i
        · subst hji
          rcases hmoves.message m hj with hkept | hdone | ⟨hcancelled, hborrows⟩
          · exact .inr (.inl ⟨j, by rwa [System.step_self]⟩)
          · exact .inr (.inr hdone)
          · exact absurd ((h.own hcancelled j).symm.trans hborrows) nofun
        · exact .inr (.inl ⟨j, by rwa [System.step_other sys hji]⟩)
      · exact .inr (.inr (hmoves.processed _ hdone))
    · exact .inl hqueue
  · intro hcancelled
    have hothers : ∀ j, (sys.procs j).borrows = false :=
      (hmoves.cancelled hcancelled).elim h.own hsignal
    refine System.forall_step (P := fun _ (p : Place) => p.borrows = false) hothers ?_
    rw [Bool.eq_false_iff]
    intro hborrows
    exact absurd ((hmoves.context hborrows).symm.trans hcancelled) nofun
  · intro j w hw
    by_cases hji : j = i
    · subst hji
      rw [System.step_self] at hw
      obtain ⟨hj, hrunning⟩ := h.workers j w (hmoves.worker w hw)
      refine ⟨hj, (hmoves.running w hrunning).resolve_right fun hgone => ?_⟩
      exact absurd (hgone.2.1.symm.trans hw) nofun
    · rw [System.step_other sys hji] at hw
      obtain ⟨rfl, hrunning⟩ := h.workers j w hw
      refine ⟨rfl, (hmoves.running w hrunning).resolve_right fun hgone => ?_⟩
      exact hji (h.workers i w hgone.1).1.symm
  · intro w hw hgone
    by_cases hrunning : w ∈ sys.shared.running
    · exact ((hmoves.running w hrunning).resolve_left hgone).2.2
    · exact hmoves.drained (h.drained w hw hrunning).1 (h.drained w hw hrunning).2
  · have hempty (hold : sys.shared.running = []) :
        ((sys.procs i).next sys.shared).2.running = [] := by
      rw [List.eq_nil_iff_forall_not_mem] at hold ⊢
      exact fun w hw => hold w (hmoves.fewer w hw)
    refine System.forall_step (P := fun _ (p : Place) => p = .returned →
      ((sys.procs i).next sys.shared).2.running = []) (fun j hj => hempty (h.returned j hj)) ?_
    exact fun hreturned => (hmoves.returned hreturned).elim (fun hj => hempty (h.returned i hj)) id

theorem accounted_launched (queueSize workers : Int) :
    Accounted (workerCount workers) (launched queueSize workers) where
  kept := nofun
  own := nofun
  workers j w hw := by
    unfold launched at hw ⊢
    cases j <;> grind [Place.workerID]
  drained w hw hgone := absurd (List.mem_range.mpr hw) hgone
  returned j hj := by
    unfold launched at hj
    cases j <;> grind

theorem workerCount_pos (workers : Int) : 0 < workerCount workers := by
  unfold workerCount
  split <;> omega

/-- The messages are accounted for, and all are processed when the daemon exits. -/
structure Settled (n : Nat) (sys : System Process Place Daemon) : Prop where
  orderly : Orderly sys
  accounted : Accounted n sys
  exited : sys.shared.exited = true → ∀ m ∈ sys.shared.accepted, (m, true) ∈ sys.shared.processed

theorem Settled.step (h : Settled n sys) (hn : 0 < n) {i : Process} (hwaits : Waits sys i) :
    Settled n (sys.step Place.stmt i) := by
  have horderly := h.orderly.step hwaits.alone
  rcases next_or_ended sys i with heq | ⟨hopen, heq⟩
  · rwa [heq]
  rw [heq] at horderly ⊢
  have hnext := h.accounted.step hwaits.signal
  refine ⟨horderly, hnext, fun hleft => hnext.processed hn ?_⟩
  have hi : sys.procs i = .leaving := by
    rcases (next_moves _ _).exited hleft with hended | hpanicked | hi
    · exact absurd (hopen.symm.trans hended) nofun
    · exact absurd (horderly.calm.symm.trans hpanicked) nofun
    · exact hi
  have hstart := hwaits.exit hi
  have hne : Process.start ≠ i := by
    rintro rfl
    rw [hi] at hstart
    cases hstart
  exact hnext.returned .start (by rwa [System.step_other sys hne])

/-- While `Start`, the signal and the main program wait in this way, every message that was accepted
has been handed to `Process` with a good context when the daemon exits. -/
theorem accepted_processed
    (h : Trace.Guarded (System.step Place.stmt) Waits (launched queueSize workers) schedule)
    (hexited : (after queueSize workers schedule).shared.exited = true) :
    ∀ m ∈ (after queueSize workers schedule).shared.accepted,
      (m, true) ∈ (after queueSize workers schedule).shared.processed := by
  have hstart : Settled (workerCount workers) (launched queueSize workers) :=
    ⟨orderly_launched queueSize workers, accounted_launched queueSize workers, nofun⟩
  have hend := h.invariant hstart fun sys i hsys hwaits =>
    hsys.step (workerCount_pos workers) hwaits
  exact hend.exited hexited

/-- One message is accepted, then the signal comes, and the main program returns at once. -/
theorem accepted_message_lost :
    (after 0 0 [.call 0, .call 0, .main, .main]).shared.exited = true ∧
      0 ∈ (after 0 0 [.call 0, .call 0, .main, .main]).shared.accepted ∧
      (after 0 0 [.call 0, .call 0, .main, .main]).shared.processed = [] := by
  decide

/-- The signal comes before the only worker takes the message, and `Start` returns first. -/
theorem drained_before_exit :
    (0, true) ∈ (after 0 1 [.call 0, .call 0, .main, .worker 0, .worker 0, .worker 0, .start,
      .start, .start, .worker 0, .start, .main]).shared.processed := by
  refine accepted_processed ?_ (by decide) 0 (by decide)
  refine ⟨⟨nofun, nofun, nofun⟩, ⟨nofun, nofun, nofun⟩, ⟨nofun, fun _ j => ?_, nofun⟩,
    ⟨nofun, nofun, nofun⟩, ⟨nofun, nofun, nofun⟩, ⟨nofun, nofun, nofun⟩, ⟨nofun, nofun, nofun⟩,
    ⟨nofun, nofun, nofun⟩, ⟨fun _ j m => ?_, nofun, nofun⟩, ⟨nofun, nofun, nofun⟩,
    ⟨nofun, nofun, nofun⟩, ⟨nofun, nofun, fun _ => rfl⟩, trivial⟩
  -- Only the first call and the first worker ever move.
  all_goals
    cases j with
    | call i =>
      obtain rfl | hi := eq_or_ne i 0
      · first | rfl | nofun
      · simp [System.step, launched, Place.borrows, Function.update_of_ne, hi]
    | worker w =>
      obtain rfl | hw := eq_or_ne w 0
      · first | rfl | nofun
      · simp [System.step, launched, workerCount, Place.borrows, Function.update_of_ne, hw]
    | _ => first | rfl | nofun

end BurnerByte.Smtp
