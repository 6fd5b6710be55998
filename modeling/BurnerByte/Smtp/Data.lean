import BurnerByte.Go.Lines
import BurnerByte.Smtp.Streams

/-!
# The data phase

The stream behind a 354 reply is read line by line. In these terms `readData`
has a plain specification: it consumes body lines and adds them, unstuffed, to
the message, until a line that holds only a dot ends the message, or until one
more line would exceed the size limit. The last exit leaves the rest of the
message on the connection, and so does a deadline in the middle of a message.
-/

namespace BurnerByte.Smtp

open Go Outcome

/-- A line that holds only a dot: it ends the message. -/
def DotLine (x : Bytes) : Prop := IsLine lf x ∧ trimRight x crlf = dot

/-- Any other line belongs to the message. -/
def BodyLine (x : Bytes) : Prop := IsLine lf x ∧ trimRight x crlf ≠ dot

/-- The message that body lines add up to. -/
def unstuffed (lines : List Bytes) : Bytes := (lines.map unstuff).flatten

@[simp] theorem unstuffed_nil : unstuffed [] = [] := rfl

@[simp] theorem unstuffed_cons (x : Bytes) (xs : List Bytes) :
    unstuffed (x :: xs) = unstuff x ++ unstuffed xs := by
  simp [unstuffed]

variable {maxSize : Nat} {buf x : Bytes} {lines : List Bytes} {l : Listener} {s : Session}
  {rest : List Input}

theorem readDataStep_body (maxSize : Nat) (buf : Bytes) (h : BodyLine x) (rest : List Input) :
    readDataStep maxSize buf (sent x ++ rest) =
      if maxSize < buf.length + (unstuff x).length then (.done (.error .tooLarge), rest)
      else (.more (buf ++ unstuff x), rest) := by
  simp only [readDataStep, readString_of_isLine h.1, if_neg h.2]

section

variable (hbody : ∀ x ∈ lines, BodyLine x)

include hbody

/-- Body lines that fit are consumed whole. -/
theorem readDataFrom_lines
    (hfit : buf.length + (unstuffed lines).length ≤ maxSize) (rest : List Input) :
    readDataFrom maxSize buf (sent lines.flatten ++ rest) =
      readDataFrom maxSize (buf ++ unstuffed lines) rest := by
  induction lines generalizing buf with
  | nil => simp
  | cons x xs ih =>
    have hx : BodyLine x := hbody x (by simp)
    simp only [unstuffed_cons, List.length_append] at hfit
    have hstep := readDataStep_body maxSize buf hx (sent xs.flatten ++ rest)
    rw [if_neg (by omega)] at hstep
    rw [List.flatten_cons, sent_append, List.append_assoc, readDataFrom_of_more hstep,
      ih (fun y hy => hbody y (by simp [hy]))
        (by simp only [List.length_append]; omega), unstuffed_cons, List.append_assoc]

/-- Body lines that do not fit make the read fail among them. -/
theorem readDataFrom_tooLarge (hbuf : buf.length ≤ maxSize)
    (hover : maxSize < buf.length + (unstuffed lines).length) (rest : List Input) :
    ∃ left, readDataFrom maxSize buf (sent lines.flatten ++ rest) = (.error .tooLarge, left) := by
  induction lines generalizing buf with
  | nil => simp at hover; omega
  | cons x xs ih =>
    have hx : BodyLine x := hbody x (by simp)
    simp only [unstuffed_cons, List.length_append] at hover
    have hstep := readDataStep_body maxSize buf hx (sent xs.flatten ++ rest)
    rw [List.flatten_cons, sent_append, List.append_assoc]
    by_cases hlarge : maxSize < buf.length + (unstuff x).length
    · rw [if_pos hlarge] at hstep
      exact ⟨_, readDataFrom_of_done hstep⟩
    rw [if_neg hlarge] at hstep
    rw [readDataFrom_of_more hstep]
    exact ih (fun y hy => hbody y (by simp [hy])) (by simp only [List.length_append]; omega)
      (by simp only [List.length_append]; omega)

/-- A message that fits is returned, and the read stops right behind its dot line. -/
theorem readData_message {d : Bytes} (hdot : DotLine d)
    (hfit : (unstuffed lines).length ≤ maxSize) (rest : List Input) :
    readData maxSize (sent (lines.flatten ++ d) ++ rest) = (.ok (unstuffed lines), rest) := by
  rw [readData, sent_append, List.append_assoc, readDataFrom_lines hbody (by simpa using hfit)]
  refine readDataFrom_of_done ?_
  simp only [readDataStep, readString_of_isLine hdot.1, hdot.2, if_true, List.nil_append]

/-- Body lines that fit and an unfinished line end in a failed read. -/
theorem readData_unfinished {tail : Bytes}
    (hfit : (unstuffed lines).length ≤ maxSize) (htail : lf ∉ tail) :
    readData maxSize (sent (lines.flatten ++ tail)) = (.error (.read .eof), []) := by
  rw [readData, sent_append, readDataFrom_lines hbody (by simpa using hfit)]
  apply readDataFrom_of_done
  simp only [readDataStep, (readString_unfinished htail []).2]

end

/-! ## Dot stuffing -/

/-- A sender puts a dot in front of every line that starts with one. -/
def stuff (line : Bytes) : Bytes := if hasPrefix line dot then dot ++ line else line

/-- The lines of a message as they are sent, with the dot line behind them. -/
def stuffed (lines : List Bytes) : Bytes := (lines.map stuff).flatten ++ dot ++ crlf

/-- Trimming stops at the front of a line at the latest. -/
theorem trimRight_dot_append (x : Bytes) : trimRight (dot ++ x) crlf = dot ++ trimRight x crlf := by
  unfold trimRight List.rdropWhile
  rw [List.reverse_append, List.dropWhile_append]
  split
  · rename_i hnil
    rw [List.isEmpty_iff.mp hnil]
    rfl
  · exact List.reverse_append

theorem hasPrefix_trimRight (x : Bytes) : hasPrefix (trimRight x crlf) dot = hasPrefix x dot := by
  rw [Bool.eq_iff_iff, hasPrefix_iff, hasPrefix_iff]
  constructor
  · exact fun h => h.trans (List.rdropWhile_prefix _ _)
  · rintro ⟨rest, rfl⟩
    rw [trimRight_dot_append]
    exact List.prefix_append _ _

theorem unstuff_stuff (x : Bytes) : unstuff (stuff x) = x := by
  unfold unstuff stuff
  rw [hasPrefix_trimRight]
  split
  · rw [if_pos (hasPrefix_iff.mpr (List.prefix_append _ _))]
    rfl
  · rfl

theorem bodyLine_stuff (h : IsLine lf x) : BodyLine (stuff x) := by
  unfold stuff
  split
  · rename_i hdot
    obtain ⟨body, hbody, hx⟩ := h
    obtain ⟨rest, rfl⟩ := hasPrefix_iff.mp hdot
    refine ⟨⟨dot ++ body, ?_, by rw [hx, List.append_assoc]⟩, ?_⟩
    · simp only [List.mem_append, not_or]
      exact ⟨by decide, hbody⟩
    · -- Two dots are left in front, so the line is not taken for the dot line.
      rw [trimRight_dot_append, trimRight_dot_append]
      simp [dot, lit]
  · rename_i hdot
    refine ⟨h, fun htrim => hdot ?_⟩
    rw [← hasPrefix_trimRight, htrim]
    decide

/-- A message of lines that end in CRLF is read back from what a sender makes of it, and the read
stops right behind the dot line. -/
theorem readData_stuffed (hlines : ∀ x ∈ lines, crlf <:+ x ∧ lf ∉ x.dropLast)
    (hfit : lines.flatten.length ≤ maxSize) (rest : List Input) :
    readData maxSize (sent (stuffed lines) ++ rest) = (.ok lines.flatten, rest) := by
  have hbody : ∀ y ∈ lines.map stuff, BodyLine y := by
    intro y hy
    obtain ⟨x, hx, rfl⟩ := List.mem_map.mp hy
    obtain ⟨⟨body, rfl⟩, hlf⟩ := hlines x hx
    exact bodyLine_stuff ⟨_, hlf, by simp [crlf, lf]⟩
  have hunstuffed : unstuffed (lines.map stuff) = lines.flatten := by
    rw [unstuffed, List.map_map, show unstuff ∘ stuff = id from funext unstuff_stuff, List.map_id]
  have hdot : DotLine (dot ++ crlf) := ⟨⟨dot ++ [13], by decide, rfl⟩, by decide⟩
  rw [stuffed, List.append_assoc, readData_message hbody hdot (by rwa [hunstuffed]) rest,
    hunstuffed]

/-- Lines of dots and a line that ends in a bare CR, with another command behind the message. -/
theorem dots_read_back :
    readData 20 (sent (lit "..\r\n....\r\na\r\r\n.\r\n") ++ sent (lit "QUIT\r\n")) =
      (.ok (lit ".\r\n...\r\na\r\r\n"), sent (lit "QUIT\r\n")) :=
  @readData_stuffed 20 [lit ".\r\n", lit "...\r\n", lit "a\r\r\n"] (by decide) (by decide) _

/-- Whole lines either all belong to the message, or a first one ends it. -/
theorem body_or_dot (h : ∀ x ∈ lines, IsLine lf x) :
    (∀ x ∈ lines, BodyLine x) ∨
      ∃ front d back, lines = front ++ d :: back ∧ (∀ x ∈ front, BodyLine x) ∧ DotLine d := by
  induction lines with
  | nil => exact .inl (by simp)
  | cons x xs ih =>
    have hx := h x (by simp)
    by_cases hdot : trimRight x crlf = dot
    · exact .inr ⟨[], x, xs, rfl, by simp, hx, hdot⟩
    rcases ih (fun y hy => h y (by simp [hy])) with hall | ⟨front, d, back, rfl, hfront, hd⟩
    · exact .inl (List.forall_mem_cons.mpr ⟨⟨hx, hdot⟩, hall⟩)
    · exact .inr ⟨x :: front, d, back, rfl, List.forall_mem_cons.mpr ⟨⟨hx, hdot⟩, hfront⟩, hd⟩

/-- The stream behind a 354 reply is a message with its dot line, or body lines
and an unfinished line at which the connection ends or a deadline expires. -/
theorem message_cases (input : List Input) :
    ∃ lines : List Bytes, (∀ x ∈ lines, BodyLine x) ∧
      ((∃ d rest, DotLine d ∧ input = sent (lines.flatten ++ d) ++ rest) ∨
        ∃ tail, lf ∉ tail ∧ (input = sent (lines.flatten ++ tail) ∨
          ∃ rest, input = sent (lines.flatten ++ tail) ++ .deadline :: rest)) := by
  obtain ⟨p, after, rfl, hafter⟩ := exists_sent_append input
  have hspec := splitLines_spec lf p
  generalize splitLines lf p = parts at hspec
  obtain ⟨whole, tail⟩ := parts
  obtain ⟨hwhole, htail, rfl⟩ := hspec
  rcases body_or_dot hwhole with hall | ⟨front, d, back, rfl, hfront, hd⟩
  · refine ⟨whole, hall, .inr ⟨tail, htail, ?_⟩⟩
    rcases hafter with rfl | ⟨rest, rfl⟩
    · exact .inl (by simp)
    · exact .inr ⟨rest, rfl⟩
  · exact ⟨front, hfront, .inl ⟨d, sent (back.flatten ++ tail) ++ after, hd, by simp⟩⟩

/-! ## Between the reply and the next command -/

/-- The turn from `s` answers 354 and reads the message from `rest`. -/
def Receives (l : Listener) (s : Session) (rest : List Input) : Prop :=
  s.phase = .command ∧ s.mailFrom ≠ [] ∧ s.rcptTo ≠ [] ∧
    ∃ line, readString lf s.input = (.ok line, rest) ∧
      commandVerb l.caseMapping (trimRight line crlf) = .data

/-- The input `rest` is what follows the message at the front of `stream`. -/
def EndsMessage (stream rest : Bytes) : Prop :=
  ∃ (lines : List Bytes) (d : Bytes), (∀ x ∈ lines, BodyLine x) ∧ DotLine d ∧
    stream = lines.flatten ++ d ++ rest

/-- A command dispatched after a 354 reply starts right behind the message, and
finds no envelope of the message left. -/
def NextCommandIsolated (l : Listener) (s : Session) : Prop :=
  ∀ rest, Receives l s rest →
    ∀ line left, readString lf (step l s).input = (.ok line, left) →
      EndsMessage (bytesOf rest) (bytesOf (step l s).input) ∧
        (step l s).mailFrom = [] ∧ (step l s).rcptTo = []

/-- What the peer must send behind a 354 reply: body lines whose unstuffed bytes
stay within the limit, with no deadline before the dot line. -/
def BodyFits (maxSize : Nat) (input : List Input) : Prop :=
  ∀ (lines : List Bytes) (rest : List Input), (∀ x ∈ lines, BodyLine x) →
    input = sent lines.flatten ++ rest →
      (unstuffed lines).length ≤ maxSize ∧
        ∀ tail left, lf ∉ tail → rest ≠ sent tail ++ .deadline :: left

theorem step_of_receives (h : Receives l s rest) :
    step l s = receive l { s with input := rest, turn := s.turn + 1 } := by
  obtain ⟨hphase, hfrom, hrcpt, line, hread, hverb⟩ := h
  have hblank : trimRight line crlf ≠ [] := by
    intro hnil
    rw [hnil, commandVerb_nil] at hverb
    cases hverb
  have hhandle : handleLine l { s with input := rest, turn := s.turn + 1 } line =
      .ok (receive l { s with input := rest, turn := s.turn + 1 }) := by
    simp only [handleLine, if_neg hblank, parseCommand_eq, ok_bind]
    change dispatch l _ (commandVerb l.caseMapping (trimRight line crlf)) _ = _
    rw [hverb]
    simp only [dispatch, if_neg hfrom, if_neg hrcpt]
    rfl
  simp only [hphase] at hhandle
  simp only [step, hphase, hread, hhandle]

theorem receive_of_message {data : Bytes} (h : readData l.maxSize s.input = (.ok data, rest))
    (hfit : data.length ≤ l.maxSize) :
    (receive l s).input = rest ∧ (receive l s).mailFrom = [] ∧ (receive l s).rcptTo = [] := by
  have hreceived : received l s = some data := by
    simp only [received, h, if_neg (Nat.not_lt.mpr hfit)]
  rw [receive_of_some hreceived, Session.answered, h]
  exact ⟨rfl, rfl, rfl⟩

theorem receive_of_error {e : DataError} (h : readData l.maxSize s.input = (.error e, rest)) :
    (receive l s).input = rest ∧ (receive l s).mailFrom = s.mailFrom := by
  obtain ⟨reply, heq, _⟩ := receive_of_none (l := l) (s := s) (by simp only [received, h])
  rw [heq, Session.answered, h]
  exact ⟨rfl, rfl⟩

/-- One turn: a message that fits is followed by an isolated command. -/
theorem nextCommandIsolated_of_fits (hfits : ∀ rest, Receives l s rest → BodyFits l.maxSize rest) :
    NextCommandIsolated l s := by
  intro rest hreceives line left hnext
  rw [step_of_receives hreceives] at hnext ⊢
  obtain ⟨lines, hbody, hcase⟩ := message_cases rest
  rcases hcase with ⟨d, after, hd, rfl⟩ | ⟨tail, htail, rfl | ⟨after, rfl⟩⟩
  · obtain ⟨hsize, _⟩ := hfits _ hreceives lines (sent d ++ after) hbody (by simp)
    have hread := readData_message hbody hd hsize after
    obtain ⟨hinput, hfrom, hrcpt⟩ := receive_of_message
      (s := { s with input := sent (lines.flatten ++ d) ++ after, turn := s.turn + 1 }) hread hsize
    refine ⟨⟨lines, d, hbody, hd, ?_⟩, hfrom, hrcpt⟩
    rw [hinput, bytesOf_append, bytesOf_sent]
  · -- The connection ended inside the message, so no further line can be read.
    obtain ⟨hsize, _⟩ := hfits _ hreceives lines (sent tail) hbody (by simp)
    have hread := readData_unfinished hbody hsize htail
    obtain ⟨hinput, _⟩ := receive_of_error
      (s := { s with input := sent (lines.flatten ++ tail), turn := s.turn + 1 }) hread
    rw [hinput] at hnext
    simp [readString] at hnext
  · obtain ⟨_, hdeadline⟩ := hfits _ hreceives lines (sent tail ++ .deadline :: after) hbody
      (by simp)
    exact absurd rfl (hdeadline tail after htail)

/-- Unstuffing only removes bytes. -/
theorem unstuffed_length_le (lines : List Bytes) :
    (unstuffed lines).length ≤ lines.flatten.length := by
  induction lines with
  | nil => simp
  | cons x xs ih =>
    have hx : (unstuff x).length ≤ x.length := by
      unfold unstuff
      split
      · simp
      · exact Nat.le_refl _
    simp only [unstuffed_cons, List.flatten_cons, List.length_append]
    omega

/-- Few enough events without a deadline among them stay within the limit. -/
theorem bodyFits_of_length_le {input : List Input} (hlen : input.length ≤ maxSize)
    (hdeadline : .deadline ∉ input) : BodyFits maxSize input := by
  rintro lines rest _ rfl
  constructor
  · have hle := unstuffed_length_le lines
    simp only [sent, List.length_map, List.length_append] at hlen
    omega
  · rintro tail left _ rfl
    simp at hdeadline

/-! ## Whole conversations -/

/-- Every message of a peer that sends fewer bytes than the limit, without a
pause, stays within it. -/
theorem bodyFits_of_receives {hostname stream : Bytes} {n : Nat} (hlen : stream.length ≤ l.maxSize)
    (h : Receives l (handleConn l n (.accept hostname (sent stream) [])) rest) :
    BodyFits l.maxSize rest := by
  obtain ⟨_, _, _, line, hread, _⟩ := h
  obtain ⟨y, hy, hsuffix⟩ := handleConn_streams l n (.accept hostname (sent stream) []) _
    (List.mem_cons_self ..)
  obtain rfl : y = sent stream := List.mem_singleton.mp hy
  have hrest := readString_suffix lf (handleConn l n (.accept hostname (sent stream) [])).input
  rw [hread] at hrest
  have hall := hrest.trans hsuffix
  apply bodyFits_of_length_le
  · refine hall.length_le.trans ?_
    simpa [sent] using hlen
  · intro hmem
    simpa [sent] using hall.mem hmem

/-- In a conversation whose messages all fit, every command dispatched after a
354 reply is isolated from the message. -/
theorem data_isolated (l : Listener) (s : Session)
    (hfits : ∀ n rest, Receives l (handleConn l n s) rest → BodyFits l.maxSize rest) (n : Nat) :
    NextCommandIsolated l (handleConn l n s) :=
  nextCommandIsolated_of_fits (hfits n)

/-- A conversation shorter than the size limit, without pauses, is such a conversation. -/
theorem data_isolated_short :
    NextCommandIsolated (.permissive 100 (by decide))
      (handleConn (.permissive 100 (by decide)) 2
        (.accept (lit "mx.test")
          (sent (lit "MAIL FROM:<a>\r\nRCPT TO:<b>\r\nDATA\r\n..\r\nhi\r\n.\r\nQUIT\r\n")) [])) :=
  data_isolated _ _ (fun _ _ hreceives => bodyFits_of_receives (by decide) hreceives) 2

/-- A conversation with one sender and one recipient set, and `stream` to come. -/
def withEnvelope (turn : Nat) (stream : Bytes) : Session where
  input := sent stream
  handshakes := []
  mailFrom := lit "a"
  rcptTo := [lit "b"]
  replies := [lit "220 mx.test ESMTP BurnerByte", lit "250 2.1.0 OK", lit "250 2.1.5 OK"]
  turn := turn
  phase := .command

/-- A message with two body lines, after its envelope. There is room for three bytes. -/
def twoLines : Session :=
  handleConn (.permissive 3 (by decide)) 2
    (.accept (lit "mx.test")
      (sent (lit "MAIL FROM:<a>\r\nRCPT TO:<b>\r\nDATA\r\nhello\r\nNOOP\r\n.\r\n")) [])

/-- The first body line is refused and the second is read as a command, with the envelope still
set. -/
theorem data_not_isolated : ¬ NextCommandIsolated (.permissive 3 (by decide)) twoLines := by
  have hturns : twoLines = withEnvelope 2 (lit "DATA\r\nhello\r\nNOOP\r\n.\r\n") := by
    decide +kernel
  rw [hturns]
  intro hisolated
  have hreceives : Receives (.permissive 3 (by decide))
      (withEnvelope 2 (lit "DATA\r\nhello\r\nNOOP\r\n.\r\n"))
      (sent (lit "hello\r\nNOOP\r\n.\r\n")) :=
    ⟨rfl, by decide, by decide, lit "DATA\r\n", by decide, by decide⟩
  have hread : readData 3 (sent (lit "hello\r\nNOOP\r\n.\r\n")) =
      (.error .tooLarge, sent (lit "NOOP\r\n.\r\n")) :=
    readDataFrom_of_done (by rfl)
  obtain ⟨hinput, hkept⟩ := receive_of_error (l := .permissive 3 (by decide))
    (s := withEnvelope 3 (lit "hello\r\nNOOP\r\n.\r\n")) hread
  have hstep := step_of_receives hreceives
  change _ = receive _ (withEnvelope 3 (lit "hello\r\nNOOP\r\n.\r\n")) at hstep
  rw [← hstep] at hinput hkept
  obtain ⟨_, hfrom, _⟩ := hisolated _ hreceives (lit "NOOP\r\n") (sent (lit ".\r\n"))
    (by rw [hinput]; decide)
  rw [hkept] at hfrom
  exact absurd hfrom (by decide)

end BurnerByte.Smtp
