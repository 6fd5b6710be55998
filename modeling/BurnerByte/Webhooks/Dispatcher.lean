import BurnerByte.Core.Trace
import BurnerByte.Net.Guard

/-!
# The webhook dispatcher

Every delivery of an event runs on its own: it posts to the webhook's URL, follows redirects, and
tries again after a failure. All deliveries share one HTTP client, whose transport opens
connections through the guarded dial function only. The state machine below takes one step for
each request that some delivery makes, so its runs are the interleavings of all deliveries.

What the resolver answers, what the servers answer, where they redirect to, and which connections
stay open is part of the events, and chosen anew in each. Whatever it is, no connection leads
into the blocked set, and no request is sent over another connection.
-/

namespace BurnerByte.Webhooks.Dispatcher

open Go Netguard

/-- What the HTTP library makes of a URL: whether a request can be built for it, and the
host and port to connect to, if it has a scheme that the transport supports. -/
structure Urls where
  valid : Bytes → Bool
  dialAddr : Bytes → Option Bytes

/-- The answer to a request. The location of a redirect is an absolute URL here. -/
inductive Response where
  | failed
  | status (code : Nat)
  | redirect (location : Bytes)

/-- What a request meets: the answers of the resolver, whether a connection that is still open
is used, and the server's answer. -/
structure Hop where
  check : Lookup
  use : Lookup
  reuse : Bool
  response : Response

/-! ## Deliveries -/

/-- A running delivery: its webhook's URL, that of its next request, the redirects it may
still follow and the attempts it has left, with the present one. -/
structure Delivery where
  url : Bytes
  current : Bytes
  redirectsLeft : Nat
  attemptsLeft : Nat

/-- The client gives up at the tenth redirect of a request. -/
def maxRedirects : Nat := 9

/-- The number of attempts of a dispatcher. -/
def maxRetries (configured : Int) : Nat := if configured ≤ 0 then 3 else configured.toNat

def Delivery.start (attempts : Nat) (url : Bytes) : Delivery := ⟨url, url, maxRedirects, attempts⟩

/-- After a failed attempt: the next one, if any. -/
def Delivery.retry (d : Delivery) : Option Delivery :=
  if d.attemptsLeft ≤ 1 then none else some (.start (d.attemptsLeft - 1) d.url)

def Delivery.after (d : Delivery) : Response → Option Delivery
  | .failed => d.retry
  | .status code => if 200 ≤ code ∧ code < 300 then none else d.retry
  | .redirect location =>
    if d.redirectsLeft = 0 then d.retry
    else some { d with current := location, redirectsLeft := d.redirectsLeft - 1 }

/-! ## The shared client -/

structure State where
  deliveries : List Delivery
  /-- Open connections that may be used again, by the address that was dialled. -/
  idle : List (Bytes × Connection)
  /-- All connections that were ever opened. -/
  opened : List Connection
  /-- The requests, with the connections they were sent over. -/
  sent : List (Bytes × Connection)

def State.init : State := ⟨[], [], [], []⟩

inductive Event where
  /-- An event for some active webhooks. -/
  | dispatch (urls : List Bytes)
  /-- The next request of a delivery. -/
  | request (i : Nat) (hop : Hop)
  /-- The deadline of a delivery. -/
  | expire (i : Nat)
  /-- An idle connection is closed. -/
  | close (i : Nat)
  /-- A call of `netguard.Dial`. -/
  | dial (host : Bytes) (port : Int) (check use : Lookup)

/-- A connection for a request: an idle one for the same address, or a new one. -/
def State.connect (s : State) (hop : Hop) (addr : Bytes) : Option Connection × State :=
  match if hop.reuse then s.idle.find? (·.1 = addr) else none with
  | some (_, conn) => (some conn, s)
  | none =>
    match dialContext hop.check hop.use addr with
    | .error _ => (none, s)
    | .ok conns =>
      (conns.head?, { s with
        idle := conns.map (addr, ·) ++ s.idle
        opened := conns ++ s.opened })

/-- The delivery `i` goes on after an answer, or ends. -/
def State.proceed (s : State) (i : Nat) (d : Delivery) (response : Response) : State :=
  match d.after response with
  | some d => { s with deliveries := s.deliveries.set i d }
  | none => { s with deliveries := s.deliveries.eraseIdx i }

/-- One request of the delivery `i`. Without a connection it fails. -/
def State.request (urls : Urls) (s : State) (i : Nat) (hop : Hop) (d : Delivery) : State :=
  if !urls.valid d.current then { s with deliveries := s.deliveries.eraseIdx i }
  else
    match urls.dialAddr d.current with
    | none => s.proceed i d .failed
    | some addr =>
      match s.connect hop addr with
      | (none, s) => s.proceed i d .failed
      | (some conn, s) =>
        State.proceed { s with sent := (d.current, conn) :: s.sent } i d hop.response

def step (urls : Urls) (attempts : Nat) (s : State) : Event → State
  | .dispatch hooks =>
    { s with deliveries := s.deliveries ++ hooks.map (Delivery.start attempts) }
  | .request i hop =>
    match s.deliveries[i]? with
    | none => s
    | some d => s.request urls i hop d
  | .expire i => { s with deliveries := s.deliveries.eraseIdx i }
  | .close i => { s with idle := s.idle.eraseIdx i }
  | .dial host port check use =>
    match dialHost check use host port with
    | .error _ => s
    | .ok conns => { s with opened := conns ++ s.opened }

/-! ## Safety -/

structure State.Guarded (s : State) : Prop where
  opened_safe : ∀ conn ∈ s.opened, conn.Safe
  idle_opened : ∀ entry ∈ s.idle, entry.2 ∈ s.opened
  sent_opened : ∀ entry ∈ s.sent, entry.2 ∈ s.opened

variable {s : State}

section

variable (h : s.Guarded)

include h

/-- Safe connections may be opened. -/
theorem State.Guarded.opens {conns : List Connection}
    (hsafe : ∀ conn ∈ conns, conn.Safe) (addr : Bytes) :
    State.Guarded
      { s with idle := conns.map (addr, ·) ++ s.idle, opened := conns ++ s.opened } where
  opened_safe := List.forall_mem_append.mpr ⟨hsafe, h.opened_safe⟩
  idle_opened := by
    intro entry hentry
    rcases List.mem_append.mp hentry with hnew | hold
    · obtain ⟨conn, hconn, rfl⟩ := List.mem_map.mp hnew
      exact List.mem_append_left _ hconn
    · exact List.mem_append_right _ (h.idle_opened entry hold)
  sent_opened entry hentry := List.mem_append_right _ (h.sent_opened entry hentry)

/-- A connection for a request is one that was opened, through the guard. -/
theorem State.Guarded.connect {s' : State} {hop : Hop} {addr : Bytes}
    {conn? : Option Connection} (hconnect : s.connect hop addr = (conn?, s')) :
    s'.Guarded ∧ ∀ conn ∈ conn?, conn ∈ s'.opened := by
  unfold State.connect at hconnect
  split at hconnect
  · rename_i key conn hidle
    cases hconnect
    refine ⟨h, fun conn' hconn' => ?_⟩
    cases hconn'
    split at hidle
    · exact h.idle_opened _ (List.mem_of_find?_eq_some hidle)
    · cases hidle
  · split at hconnect
    · cases hconnect
      exact ⟨h, fun conn hconn => absurd hconn (Option.not_mem_none conn)⟩
    rename_i conns hdial
    cases hconnect
    exact ⟨h.opens (dialContext_safe hdial) addr,
      fun conn hconn => List.mem_append_left _ (List.mem_of_head? hconn)⟩

theorem State.Guarded.withDeliveries (deliveries : List Delivery) :
    State.Guarded { s with deliveries } :=
  ⟨h.opened_safe, h.idle_opened, h.sent_opened⟩

theorem State.Guarded.proceed (i : Nat) (d : Delivery) (response : Response) :
    (s.proceed i d response).Guarded := by
  unfold State.proceed
  split
  · exact h.withDeliveries _
  · exact h.withDeliveries _

theorem State.Guarded.request {urls : Urls} (i : Nat) (hop : Hop) (d : Delivery) :
    (s.request urls i hop d).Guarded := by
  unfold State.request
  split
  · exact h.withDeliveries _
  split
  · exact h.proceed i d .failed
  split
  · rename_i s' hconnect
    exact (h.connect hconnect).1.proceed i d .failed
  rename_i conn s' hconnect
  obtain ⟨hs', hopened⟩ := h.connect hconnect
  have hsent : State.Guarded { s' with sent := (d.current, conn) :: s'.sent } :=
    ⟨hs'.opened_safe, hs'.idle_opened, List.forall_mem_cons.mpr ⟨hopened conn rfl, hs'.sent_opened⟩⟩
  exact hsent.proceed i d hop.response

theorem State.Guarded.step {urls : Urls} {attempts : Nat} (e : Event) :
    (Dispatcher.step urls attempts s e).Guarded := by
  cases e with
  | request i hop =>
    simp only [Dispatcher.step]
    split
    · exact h
    · exact h.request i hop _
  | close i =>
    exact ⟨h.opened_safe,
      fun entry hentry => h.idle_opened entry (List.mem_of_mem_eraseIdx hentry), h.sent_opened⟩
  | dial host port check use =>
    simp only [Dispatcher.step]
    split
    · exact h
    rename_i conns hdial
    exact ⟨List.forall_mem_append.mpr ⟨dialHost_safe hdial, h.opened_safe⟩,
      fun entry hentry => List.mem_append_right _ (h.idle_opened entry hentry),
      fun entry hentry => List.mem_append_right _ (h.sent_opened entry hentry)⟩
  | _ => exact h.withDeliveries _

end

/-- Whatever the resolver and the servers answer, in every interleaving of deliveries with their
retries and redirects: each connection goes to the address literal that was given to the
dialer, which is not in the blocked set, and each request is sent over such a connection. -/
theorem connections_safe (urls : Urls) (configured : Int) (events : List Event) :
    let s := Trace.run (step urls (maxRetries configured)) .init events
    (∀ conn ∈ s.opened, conn.Safe) ∧ ∀ entry ∈ s.sent, entry.2 ∈ s.opened := by
  intro s
  have hs : s.Guarded := Trace.run_induct (fun _ e h => h.step e)
    ⟨List.forall_mem_nil _, List.forall_mem_nil _, List.forall_mem_nil _⟩ events
  exact ⟨hs.opened_safe, hs.sent_opened⟩

end BurnerByte.Webhooks.Dispatcher
