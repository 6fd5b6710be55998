import BurnerByte.Smtp.Data
import BurnerByte.Smtp.Server

/-!
# Where the envelope of a message comes from

A turn of a conversation keeps the envelope, sets a new sender, adds a recipient that was accepted,
or clears the envelope. So the sender of a message is the one of the latest `MAIL` that succeeded,
its recipients were accepted since then, and nothing cleared the envelope in between. A handshake
clears the envelope as well, and leaves nothing of the old connection to read.
-/

namespace BurnerByte.Smtp

open Go

section

variable {l : Listener} {s : Session}

/-- The envelope after `n` turns: the sender was set by a turn, no later turn set another or reset
the conversation, and each recipient was accepted since. -/
structure SetBy (l : Listener) (s : Session) (n i : Nat) : Prop where
  before : i < n
  mail : MailAt l (handleConn l i s) (handleConn l n s).mailFrom
  quiet : ∀ k, i < k → k < n → Quiet l (handleConn l k s)
  rcpt : ∀ addr ∈ (handleConn l n s).rcptTo, ∃ j, i < j ∧ j < n ∧ RcptAt l (handleConn l j s) addr

theorem handleConn_succ (l : Listener) (n : Nat) (s : Session) :
    handleConn l (n + 1) s = step l (handleConn l n s) := Function.iterate_succ_apply' ..

theorem SetBy.next {n i : Nat} (h : SetBy l s n i) (hquiet : Quiet l (handleConn l n s))
    (hfrom : (handleConn l (n + 1) s).mailFrom = (handleConn l n s).mailFrom)
    (hrcpt : ∀ addr ∈ (handleConn l (n + 1) s).rcptTo,
      addr ∈ (handleConn l n s).rcptTo ∨ RcptAt l (handleConn l n s) addr) :
    SetBy l s (n + 1) i where
  before := Nat.lt_succ_of_lt h.before
  mail := hfrom ▸ h.mail
  quiet k hik hkn := (Nat.lt_succ_iff_lt_or_eq.mp hkn).elim (h.quiet k hik) fun heq => heq ▸ hquiet
  rcpt addr haddr := by
    rcases hrcpt addr haddr with hold | hnew
    · obtain ⟨j, hij, hjn, hj⟩ := h.rcpt addr hold
      exact ⟨j, hij, Nat.lt_succ_of_lt hjn, hj⟩
    · exact ⟨n, h.before, Nat.lt_succ_self n, hnew⟩

theorem envelope_set (l : Listener) (hostname : Bytes) (input : List Input)
    (handshakes : List (List Input)) (n : Nat) :
    let s := Session.accept hostname input handshakes
    (handleConn l n s).rcptTo.length ≤ 100 ∧
      ((handleConn l n s).mailFrom = [] ∨ ∃ i, SetBy l s n i) := by
  intro s
  induction n with
  | zero => exact ⟨Nat.zero_le _, .inl rfl⟩
  | succ n ih =>
    obtain ⟨hlen, hset⟩ := ih
    have hturn := step_turn l (handleConn l n s)
    rw [← handleConn_succ] at hturn
    cases hturn with
    | kept hquiet _ hfrom hrcpt =>
      rw [hfrom, hrcpt]
      refine ⟨hlen, hset.imp id fun ⟨i, hi⟩ => ⟨i, hi.next hquiet hfrom ?_⟩⟩
      exact fun addr haddr => .inl (hrcpt ▸ haddr)
    | mail hmail _ hrcpt =>
      refine ⟨hrcpt ▸ Nat.zero_le _, .inr ⟨n, Nat.lt_succ_self n, hmail, ?_, ?_⟩⟩
      · exact fun k hnk hkn => absurd hnk (by omega)
      · simp [hrcpt]
    | rcpt haddr hquiet _ hroom hfrom hrcpt =>
      rw [hfrom, hrcpt]
      refine ⟨List.length_append ▸ hroom, hset.imp id fun ⟨i, hi⟩ => ?_⟩
      refine ⟨i, hi.next hquiet hfrom fun addr' haddr' => ?_⟩
      rw [hrcpt, List.mem_append, List.mem_singleton] at haddr'
      rcases haddr' with hold | rfl
      · exact .inl hold
      · exact .inr haddr
    | cleared _ _ hfrom hrcpt | secured _ _ hfrom hrcpt =>
      exact ⟨hrcpt ▸ Nat.zero_le _, .inl hfrom⟩

theorem mem_inboundEmails {mailFrom data : Bytes} {rcptTo : List Bytes} {email : InboundEmail}
    (h : email ∈ inboundEmails l mailFrom rcptTo data) :
    email.mailFrom = mailFrom ∧ email.toAddr ∈ rcptTo := by
  unfold inboundEmails at h
  split at h <;> obtain ⟨addr, haddr, rfl⟩ := List.mem_map.mp h <;> exact ⟨rfl, haddr⟩

/-- What a data phase enqueues are copies for its envelope, at most one for each recipient. -/
theorem enqueued_spec (l : Listener) (s : Session) :
    (enqueued l s).length ≤ s.rcptTo.length ∧
      ∀ email ∈ enqueued l s, email.mailFrom = s.mailFrom ∧ email.toAddr ∈ s.rcptTo := by
  unfold enqueued
  cases received l s with
  | none => exact ⟨Nat.zero_le _, nofun⟩
  | some data =>
    constructor
    · have hlen := congrArg List.length (map_toAddr_inboundEmails l s.mailFrom s.rcptTo data)
      rw [List.length_map] at hlen
      rw [← hlen, Option.elim, queued, List.length_map]
      exact (List.length_filter_le _ _).trans (Nat.le_of_eq List.length_zipIdx)
    · intro email hemail
      obtain ⟨copy, hcopy, rfl⟩ := List.mem_map.mp hemail
      exact mem_inboundEmails (List.fst_mem_of_mem_zipIdx (List.mem_of_mem_filter hcopy))

/-- Each message that a conversation enqueues has the sender of the latest `MAIL` that succeeded
and a recipient accepted since, with no reset in between. There are at most 100 at a time. -/
theorem enqueued_as_accepted (l : Listener) (hostname : Bytes) (input rest : List Input)
    (handshakes : List (List Input)) (n : Nat)
    (h : Receives l (handleConn l n (.accept hostname input handshakes)) rest) :
    let s := Session.accept hostname input handshakes
    (enqueued l (handleConn l n s).behindLine).length ≤ 100 ∧
      ∀ email ∈ enqueued l (handleConn l n s).behindLine, email.mailFrom ≠ [] ∧
        ∃ i < n, MailAt l (handleConn l i s) email.mailFrom ∧
          (∀ k, i < k → k < n → Quiet l (handleConn l k s)) ∧
          ∃ j, i < j ∧ j < n ∧ RcptAt l (handleConn l j s) email.toAddr := by
  intro s
  obtain ⟨hlen, hset⟩ := envelope_set l hostname input handshakes n
  obtain ⟨hcount, hcopies⟩ := enqueued_spec l (handleConn l n s).behindLine
  refine ⟨hcount.trans hlen, fun email hemail => ?_⟩
  obtain ⟨hfrom, hto⟩ := hcopies email hemail
  obtain ⟨i, hi⟩ := hset.resolve_left h.2.1
  have hmail : MailAt l (handleConn l i s) email.mailFrom := hfrom ▸ hi.mail
  exact ⟨hmail.1, i, hi.before, hmail, hi.quiet, hi.rcpt _ hto⟩

/-- A conversation up to its first message. -/
def firstMessage : List Input :=
  sent (lit "MAIL FROM:<a>\r\nRCPT TO:<b>\r\nDATA\r\nhello\r\n.\r\n")

theorem first_message_as_accepted :
    (enqueued (.permissive 100 (by decide)) (handleConn (.permissive 100 (by decide)) 2
      (.accept (lit "mx.test") firstMessage [])).behindLine).length ≤ 100 := by
  have hturns : handleConn (.permissive 100 (by decide)) 2
      (.accept (lit "mx.test") firstMessage []) =
      withEnvelope 2 (lit "DATA\r\nhello\r\n.\r\n") := by
    decide +kernel
  refine (enqueued_as_accepted (.permissive 100 (by decide)) _ firstMessage
    (sent (lit "hello\r\n.\r\n")) [] 2 ?_).1
  rw [hturns]
  exact ⟨rfl, by decide, by decide, lit "DATA\r\n", by decide, by decide⟩

/-! ## Handshakes -/

theorem step_of_secures {stream : List Input} (h : Secures l s stream) :
    Secures l s (step l s).input ∧ (step l s).mailFrom = [] ∧ (step l s).rcptTo = [] := by
  cases step_turn l s with
  | mail hmail =>
    obtain ⟨_, _, hcommand, _⟩ := hmail
    obtain ⟨_, hstarttls⟩ := h.2.1
    cases hcommand.symm.trans hstarttls
  | kept hquiet | rcpt _ hquiet => exact absurd h (hquiet.starttls stream)
  | cleared hplain => exact absurd h (hplain stream)
  | secured hsecures _ hfrom hrcpt => exact ⟨hsecures, hfrom, hrcpt⟩

/-- After a handshake the envelope is empty, and what every later turn reads is the end of the
plaintext of that handshake or of a later one. This holds however the reads of the old connection
are cut, with whatever they left in the buffer. -/
theorem plaintext_dropped (l : Listener) (hostname : Bytes) (r : Reader)
    (handshakes : List (List Input)) {i n : Nat} {stream : List Input} (hin : i < n)
    (h : Secures l (handleConn l i (.accept hostname r.events handshakes)) stream) :
    let s := Session.accept hostname r.events handshakes
    (handleConn l (i + 1) s).mailFrom = [] ∧ (handleConn l (i + 1) s).rcptTo = [] ∧
      ∃ j, i ≤ j ∧ j < n ∧ ∃ plaintext, Secures l (handleConn l j s) plaintext ∧
        (handleConn l n s).input <:+ plaintext := by
  intro s
  have hfirst := step_of_secures h
  rw [← handleConn_succ] at hfirst
  refine ⟨hfirst.2.1, hfirst.2.2, ?_⟩
  induction n, hin using Nat.le_induction with
  | base => exact ⟨i, Nat.le_refl i, Nat.lt_succ_self i, _, hfirst.1, List.suffix_refl _⟩
  | succ n hn ih =>
    rw [handleConn_succ]
    rcases (step_turn l (handleConn l n s)).readsOn_or_secures with hreads | hsecures
    · obtain ⟨j, hij, hjn, plaintext, hj, hsuffix⟩ := ih
      exact ⟨j, hij, Nat.lt_succ_of_lt hjn, plaintext, hj, hreads.1.trans hsuffix⟩
    · exact ⟨n, Nat.le_of_succ_le hn, Nat.lt_succ_self n, _, hsecures.1, List.suffix_refl _⟩

/-- A command that came with the `STARTTLS` line is not read after the handshake. -/
theorem pipelined_command_dropped :
    let s := handleConn { Listener.permissive 100 (by decide) with tlsConfig := true } 1
      (.accept (lit "mx.test") (Reader.events ⟨lit "STARTTLS\r\nRSET\r\n", []⟩)
        [sent (lit "NOOP\r\n")])
    s.mailFrom = [] ∧ s.input = sent (lit "NOOP\r\n") := by
  refine ⟨?_, by decide +kernel⟩
  exact (plaintext_dropped { Listener.permissive 100 (by decide) with tlsConfig := true } _
    ⟨lit "STARTTLS\r\nRSET\r\n", []⟩ _ Nat.zero_lt_one
    ⟨rfl, ⟨[], by decide +kernel⟩, [], rfl⟩).1

end

end BurnerByte.Smtp
