import BurnerByte.Smtp.Commands

/-!
# What a conversation can still read

A turn reads from the front of the connection, or moves to the next connection
that a handshake opens. So at every point of a conversation the unread events
are the end of a stream the peer had to offer when the conversation started, and
a fact about all ends of these streams holds along the whole conversation.
-/

namespace BurnerByte.Smtp

open Go Outcome

theorem readDataStep_suffix (maxSize : Nat) (buf : Bytes) (input : List Input) :
    (readDataStep maxSize buf input).2 <:+ input := by
  have hsuffix := readString_suffix lf input
  rcases hread : readString lf input with ⟨result, rest⟩
  rw [hread] at hsuffix
  cases result with
  | error e => simpa only [readDataStep, hread] using hsuffix
  | ok line =>
    simp only [readDataStep, hread]
    split_ifs <;> exact hsuffix

theorem readDataFrom_suffix (maxSize : Nat) (buf : Bytes) (input : List Input) :
    (readDataFrom maxSize buf input).2 <:+ input := by
  induction buf, input using readDataFrom.induct maxSize with
  | case1 buf input result rest hstep =>
    rw [readDataFrom_of_done hstep]
    simpa only [hstep] using readDataStep_suffix maxSize buf input
  | case2 buf input buf' rest hstep ih =>
    rw [readDataFrom_of_more hstep]
    have hrest := readDataStep_suffix maxSize buf input
    rw [hstep] at hrest
    exact ih.trans hrest

/-- The events a conversation can still read: those of the connection, and those
of the connections that later handshakes open. -/
def Session.streams (s : Session) : List (List Input) := s.input :: s.handshakes

/-- Session `s'` reads on where `s` did, or on a connection `s` had still to open. -/
def Session.Continues (s s' : Session) : Prop :=
  (s'.input <:+ s.input ∧ s'.handshakes = s.handshakes) ∨ s.handshakes = s'.streams

theorem Session.Continues.streams_suffix {s s' : Session} (h : s.Continues s') :
    ∀ x ∈ s'.streams, ∃ y ∈ s.streams, x <:+ y := by
  intro x hx
  rcases h with ⟨hinput, hshakes⟩ | hshakes
  · rcases List.mem_cons.mp hx with rfl | hx
    · exact ⟨s.input, by simp [Session.streams], hinput⟩
    · exact ⟨x, by simp [Session.streams, ← hshakes, hx], List.suffix_refl x⟩
  · exact ⟨x, List.mem_cons_of_mem _ (hshakes ▸ hx), List.suffix_refl x⟩

/-- The message of a data phase, if it is read and is not too large. -/
def received (l : Listener) (s : Session) : Option Bytes :=
  match readData l.maxSize s.input with
  | (.ok data, _) => if l.maxSize < data.length then none else some data
  | (.error _, _) => none

/-- A session behind a data phase with a last reply and an envelope. -/
def Session.answered (s : Session) (maxSize : Nat) (reply mailFrom : Bytes) (rcptTo : List Bytes) :
    Session :=
  { s with
    input := (readData maxSize s.input).2
    replies := s.replies ++ [lit "354 Start mail input; end with <CRLF>.<CRLF>", reply]
    mailFrom, rcptTo }

/-- Without a message the envelope is kept. -/
theorem receive_of_none {l : Listener} {s : Session} (h : received l s = none) :
    ∃ reply, receive l s = s.answered l.maxSize reply s.mailFrom s.rcptTo ∧
      reply ∈ [lit "451 4.3.0 Error reading message data",
        lit "552 5.3.4 Message size exceeds limit"] := by
  unfold received at h
  unfold receive Session.answered
  simp only [Session.writef]
  split at h
  · rename_i hread
    split at h
    · rename_i hlarge
      exact ⟨_, by simp only [hread, hlarge, if_true, List.append_assoc]; rfl, by simp⟩
    · cases h
  · rename_i hread
    exact ⟨_, by simp only [hread, List.append_assoc]; rfl, by simp⟩

/-- Behind a message the envelope is empty. -/
theorem receive_of_some {l : Listener} {s : Session} {data : Bytes} (h : received l s = some data) :
    receive l s = s.answered l.maxSize
      (if processData l s.turn s.mailFrom s.rcptTo data then lit "250 2.0.0 OK: message queued"
        else lit "451 4.3.0 Service unavailable, try again later") [] [] := by
  unfold received at h
  unfold receive Session.answered
  simp only [Session.writef, Session.resetEnvelope]
  split at h
  · rename_i hread
    split at h
    · cases h
    rename_i hfit
    cases h
    simp only [hread, hfit, if_false, List.append_assoc]
    split <;> rfl
  · cases h

theorem foldl_writef (msgs : List Bytes) (s : Session) :
    ∃ replies, msgs.foldl Session.writef s = { s with replies } := by
  induction msgs generalizing s with
  | nil => exact ⟨s.replies, rfl⟩
  | cons msg msgs ih => exact ih (s.writef msg)

/-- The command that the turn from `s` dispatches, with its argument. -/
def command (l : Listener) (s : Session) : Option (Verb × Bytes) :=
  match s.phase, (readString lf s.input).1 with
  | .command, .ok line =>
    let text := trimRight line crlf
    if text = [] then none else some (commandVerb l.caseMapping text, commandArg text)
  | _, _ => none

/-- The session in which a command is dispatched. -/
def Session.behindLine (s : Session) : Session :=
  { s with input := (readString lf s.input).2, turn := s.turn + 1 }

/-- All that happens is that something is read, or that the conversation ends. -/
def Session.Idles (s s' : Session) : Prop :=
  ∃ input turn phase, input <:+ s.input ∧ s' = { s with input, turn, phase }

/-- A turn dispatches a command, unless there is none or it panics. -/
theorem step_cases (l : Listener) (s : Session) :
    command l s = none ∧ s.Idles (step l s) ∨ ∃ verb arg, command l s = some (verb, arg) ∧
      (dispatch l s.behindLine verb arg = .ok (step l s) ∨
        (∃ p, dispatch l s.behindLine verb arg = .error p) ∧ s.Idles (step l s)) := by
  obtain ⟨input, handshakes, mailFrom, rcptTo, replies, turn, phase⟩ := s
  cases phase with
  | closed => exact .inl ⟨rfl, input, turn, .closed, List.suffix_refl _, rfl⟩
  | crashed p => exact .inl ⟨rfl, input, turn, .crashed p, List.suffix_refl _, rfl⟩
  | command =>
    have hsuffix := readString_suffix lf input
    unfold command Session.behindLine
    rcases hread : readString lf input with ⟨result, rest⟩
    rw [hread] at hsuffix
    cases result with
    | error e => exact .inl ⟨rfl, rest, turn, .closed, hsuffix, by simp only [step, hread]⟩
    | ok line =>
      simp only [step, hread, handleLine, parseCommand_eq, ok_bind]
      by_cases hblank : trimRight line crlf = []
      · simp only [if_pos hblank]
        exact .inl ⟨trivial, rest, turn + 1, .command, hsuffix, rfl⟩
      simp only [if_neg hblank]
      refine .inr ⟨_, _, rfl, ?_⟩
      split
      · rename_i s' hdispatch
        exact .inl hdispatch
      · rename_i p hdispatch
        exact .inr ⟨⟨p, hdispatch⟩, rest, turn, .crashed p, hsuffix, rfl⟩

/-! ## What a turn does -/

/-- The turn sets a sender. -/
def MailAt (l : Listener) (s : Session) (sender : Bytes) : Prop :=
  sender ≠ [] ∧ ∃ arg, command l s = some (.mail, arg) ∧
    extractMailParam l.caseMapping arg (lit "FROM") = .ok sender

/-- The turn adds a recipient, which the router has accepted. -/
def RcptAt (l : Listener) (s : Session) (addr : Bytes) : Prop :=
  l.canAccept (s.turn + 1) addr = true ∧ ∃ arg, command l s = some (.rcpt, arg) ∧
    extractMailParam l.caseMapping arg (lit "TO") = .ok addr

/-- The turn carries out `STARTTLS`, and `stream` is the plaintext of the new connection. -/
def Secures (l : Listener) (s : Session) (stream : List Input) : Prop :=
  l.tlsConfig = true ∧ (∃ arg, command l s = some (.starttls, arg)) ∧
    ∃ later, s.handshakes = stream :: later

/-- The turn neither sets a sender nor resets the conversation. -/
structure Quiet (l : Listener) (s : Session) : Prop where
  mail : ∀ sender, ¬ MailAt l s sender
  rset : ∀ arg, command l s ≠ some (.rset, arg)
  starttls : ∀ stream, ¬ Secures l s stream

/-- The session reads on where it did. -/
def Session.ReadsOn (s s' : Session) : Prop :=
  s'.input <:+ s.input ∧ s'.handshakes = s.handshakes

/-- What a turn does to the envelope, and to what is left to read. -/
inductive Turn (l : Listener) (s s' : Session) : Prop where
  | kept (hquiet : Quiet l s) (hreads : s.ReadsOn s') (hfrom : s'.mailFrom = s.mailFrom)
    (hrcpt : s'.rcptTo = s.rcptTo)
  | mail (h : MailAt l s s'.mailFrom) (hreads : s.ReadsOn s') (hrcpt : s'.rcptTo = [])
  | rcpt {addr : Bytes} (h : RcptAt l s addr) (hquiet : Quiet l s) (hreads : s.ReadsOn s')
    (hroom : s.rcptTo.length < 100) (hfrom : s'.mailFrom = s.mailFrom)
    (hrcpt : s'.rcptTo = s.rcptTo ++ [addr])
  | cleared (hplain : ∀ stream, ¬ Secures l s stream) (hreads : s.ReadsOn s')
    (hfrom : s'.mailFrom = []) (hrcpt : s'.rcptTo = [])
  | secured (h : Secures l s s'.input) (hshakes : s.handshakes = s'.streams)
    (hfrom : s'.mailFrom = []) (hrcpt : s'.rcptTo = [])

section

variable {l : Listener} {s s' : Session} {verb : Verb} {arg : Bytes}

theorem quiet_of_verb (h : command l s = some (verb, arg)) (hmail : verb ≠ .mail)
    (hrset : verb ≠ .rset) (htls : verb ≠ .starttls) : Quiet l s where
  mail := by simp [MailAt, h, hmail]
  rset := by simp [h, hrset]
  starttls := by simp [Secures, h, htls]

theorem Session.Idles.turn (h : s.Idles s') (hquiet : Quiet l s) : Turn l s s' := by
  obtain ⟨_, _, _, hsuffix, rfl⟩ := h
  exact .kept hquiet ⟨hsuffix, rfl⟩ rfl rfl

/-- The line of the command has been read. -/
theorem readsOn_behindLine (s : Session) : s.ReadsOn s.behindLine :=
  ⟨readString_suffix lf s.input, rfl⟩

theorem dispatch_mail_turn (h : command l s = some (.mail, arg))
    (hok : dispatch l s.behindLine .mail arg = .ok s') : Turn l s s' := by
  simp only [dispatch] at hok
  cases hparam : extractMailParam l.caseMapping arg (lit "FROM") with
  | error p => simp [hparam] at hok
  | ok sender =>
    simp only [hparam, ok_bind] at hok
    split_ifs at hok with hempty <;> cases hok
    · refine .kept ⟨?_, by simp [h], by simp [Secures, h]⟩ (readsOn_behindLine s) rfl rfl
      rintro _ ⟨hne, arg', harg, hparam'⟩
      cases h.symm.trans harg
      cases hparam.symm.trans hparam'
      exact hne hempty
    · exact .mail ⟨hempty, arg, h, hparam⟩ (readsOn_behindLine s) rfl

theorem dispatch_rcpt_turn (h : command l s = some (.rcpt, arg))
    (hok : dispatch l s.behindLine .rcpt arg = .ok s') : Turn l s s' := by
  have hquiet : Quiet l s := quiet_of_verb h nofun nofun nofun
  simp only [dispatch] at hok
  split at hok
  · cases hok
    exact .kept hquiet (readsOn_behindLine s) rfl rfl
  cases hparam : extractMailParam l.caseMapping arg (lit "TO") with
  | error p => simp [hparam] at hok
  | ok addr =>
    simp only [hparam, ok_bind] at hok
    split_ifs at hok with hempty hfull haccept <;> cases hok
    · exact .kept hquiet (readsOn_behindLine s) rfl rfl
    · exact .kept hquiet (readsOn_behindLine s) rfl rfl
    · exact .rcpt ⟨haccept, arg, h, hparam⟩ hquiet (readsOn_behindLine s)
        (Nat.lt_of_not_le hfull) rfl rfl
    · exact .kept hquiet (readsOn_behindLine s) rfl rfl

theorem dispatch_starttls_turn (h : command l s = some (.starttls, arg))
    (hok : dispatch l s.behindLine .starttls arg = .ok s') : Turn l s s' := by
  have hkept (hno : ∀ stream, ¬ Secures l s stream) : Quiet l s :=
    ⟨by simp [MailAt, h], by simp [h], hno⟩
  simp only [dispatch] at hok
  split at hok
  · rename_i htls
    split at hok <;> cases hok
    · rename_i hnone
      refine .kept (hkept fun stream hsecures => ?_) (readsOn_behindLine s) rfl rfl
      obtain ⟨later, hlater⟩ := hsecures.2.2
      cases hlater.symm.trans hnone
    · rename_i stream later hshakes
      exact .secured ⟨htls, ⟨arg, h⟩, later, hshakes⟩ hshakes rfl rfl
  · rename_i hplain
    cases hok
    exact .kept (hkept fun stream hsecures => hplain hsecures.1) (readsOn_behindLine s) rfl rfl

theorem receive_turn (h : Quiet l s) : Turn l s (receive l s.behindLine) := by
  have hreads : (readData l.maxSize s.behindLine.input).2 <:+ s.input :=
    (readDataFrom_suffix _ _ _).trans (readString_suffix lf s.input)
  cases hreceived : received l s.behindLine with
  | none =>
    obtain ⟨reply, heq, _⟩ := receive_of_none hreceived
    rw [heq]
    exact .kept h ⟨hreads, rfl⟩ rfl rfl
  | some data =>
    rw [receive_of_some hreceived]
    exact .cleared h.starttls ⟨hreads, rfl⟩ rfl rfl

theorem dispatch_turn (h : command l s = some (verb, arg))
    (hok : dispatch l s.behindLine verb arg = .ok s') : Turn l s s' := by
  cases verb with
  | mail => exact dispatch_mail_turn h hok
  | rcpt => exact dispatch_rcpt_turn h hok
  | starttls => exact dispatch_starttls_turn h hok
  | ehlo =>
    obtain ⟨replies, heq⟩ := foldl_writef (ehloReplies l arg) s.behindLine
    obtain rfl := heq.symm.trans (Except.ok.inj hok)
    exact .kept (quiet_of_verb h (by decide) (by decide) (by decide)) (readsOn_behindLine s) rfl rfl
  | data =>
    have hquiet : Quiet l s := quiet_of_verb h (by decide) (by decide) (by decide)
    simp only [dispatch] at hok
    split_ifs at hok <;> cases hok
    · exact .kept hquiet (readsOn_behindLine s) rfl rfl
    · exact .kept hquiet (readsOn_behindLine s) rfl rfl
    · exact receive_turn hquiet
  | rset =>
    cases hok
    exact .cleared (by simp [Secures, h]) (readsOn_behindLine s) rfl rfl
  | _ =>
    cases hok
    exact .kept (quiet_of_verb h (by decide) (by decide) (by decide)) (readsOn_behindLine s) rfl rfl

theorem step_turn (l : Listener) (s : Session) : Turn l s (step l s) := by
  rcases step_cases l s with ⟨hnone, hidles⟩ | ⟨verb, arg, h, hok | ⟨⟨p, hpanic⟩, hidles⟩⟩
  · exact hidles.turn
      ⟨by simp [MailAt, hnone], by simp [hnone], by simp [Secures, hnone]⟩
  · exact dispatch_turn h hok
  by_cases hrcpt : verb = .rcpt
  · subst hrcpt
    exact hidles.turn (quiet_of_verb h nofun nofun nofun)
  obtain rfl : verb = .mail := by
    by_contra hmail
    obtain ⟨s', hok⟩ := dispatch_ok (l := l) (s := s.behindLine) arg hmail hrcpt
    cases hok.symm.trans hpanic
  refine hidles.turn ⟨?_, by simp [h], by simp [Secures, h]⟩
  rintro sender ⟨_, arg', harg, hparam⟩
  cases h.symm.trans harg
  simp only [dispatch, hparam, ok_bind] at hpanic
  split at hpanic <;> cases hpanic

theorem Turn.readsOn_or_secures (h : Turn l s s') : s.ReadsOn s' ∨ Secures l s s'.input ∧
    s.handshakes = s'.streams ∧ s'.mailFrom = [] ∧ s'.rcptTo = [] := by
  cases h with
  | kept _ hreads | mail _ hreads | rcpt _ _ hreads | cleared _ hreads => exact .inl hreads
  | secured h hshakes hfrom hrcpt => exact .inr ⟨h, hshakes, hfrom, hrcpt⟩

theorem step_continues (l : Listener) (s : Session) : s.Continues (step l s) :=
  (step_turn l s).readsOn_or_secures.imp id fun h => h.2.1

end

/-- At every point of a conversation, what is left to read is the end of a stream
the peer had at its start. -/
theorem handleConn_streams (l : Listener) (n : Nat) (s : Session) :
    ∀ x ∈ (handleConn l n s).streams, ∃ y ∈ s.streams, x <:+ y := by
  induction n generalizing s with
  | zero => exact fun x hx => ⟨x, hx, List.suffix_refl x⟩
  | succ n ih =>
    intro x hx
    obtain ⟨y, hy, hxy⟩ := ih (step l s) x hx
    obtain ⟨z, hz, hyz⟩ := (step_continues l s).streams_suffix y hy
    exact ⟨z, hz, hxy.trans hyz⟩

/-! ## Recipients -/

/-- The message has at most 100 recipients, and the router has accepted each of them. -/
def Session.Admitted (l : Listener) (s : Session) : Prop :=
  s.rcptTo.length ≤ 100 ∧ ∀ addr ∈ s.rcptTo, ∃ turn, l.canAccept turn addr = true

theorem Session.Admitted.step {l : Listener} {s : Session} (h : s.Admitted l) :
    (step l s).Admitted l := by
  unfold Session.Admitted
  cases step_turn l s with
  | kept _ _ _ hrcpt =>
    rw [hrcpt]
    exact h
  | rcpt hat _ _ hroom _ hrcpt =>
    rw [hrcpt, List.length_append]
    refine ⟨hroom, List.forall_mem_append.mpr ⟨h.2, List.forall_mem_singleton.mpr ?_⟩⟩
    exact ⟨_, hat.1⟩
  | mail _ _ hrcpt | cleared _ _ _ hrcpt | secured _ _ _ hrcpt =>
    rw [hrcpt]
    exact ⟨Nat.zero_le 100, nofun⟩

/-- This is so whatever the peer sends, and however often it begins a message. -/
theorem recipients_admitted (l : Listener) (hostname : Bytes) (input : List Input)
    (handshakes : List (List Input)) (n : Nat) :
    (handleConn l n (.accept hostname input handshakes)).Admitted l := by
  have hstart : (Session.accept hostname input handshakes).Admitted l := ⟨Nat.zero_le 100, nofun⟩
  exact Function.Iterate.rec (Session.Admitted l) hstart (fun _ h => h.step) n

end BurnerByte.Smtp
