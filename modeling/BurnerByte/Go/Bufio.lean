import BurnerByte.Go.Strings

/-!
# Reading lines from a connection

What a peer can make a buffered reader see is a finite list of events: a byte
arrives, or the read deadline expires before the next one does. After the last
event the connection is at its end. A read that meets a deadline fails and
loses the bytes it had gathered, but leaves the connection usable: a later read
continues with the event after the deadline, as `bufio.Reader` does once a new
deadline is set.
-/

namespace Go

/-- What happens next on a connection. -/
inductive Input where
  | byte (b : UInt8)
  | deadline
  deriving DecidableEq

/-- The two ways a read fails. -/
inductive ReadError where
  | eof
  | deadline
  deriving DecidableEq

/-- The events of a peer that sends `s` without a pause. -/
def sent (s : Bytes) : List Input := s.map .byte

/-- The bytes among the events. -/
def bytesOf : List Input → Bytes
  | [] => []
  | .byte b :: t => b :: bytesOf t
  | .deadline :: t => bytesOf t

/-- Go's `bufio.Reader.ReadString(delim)`: the bytes up to and including the first
`delim`, or an error when the events end or a deadline expires before it. The
second component holds the events the call leaves unread. -/
def readString (delim : UInt8) : List Input → Except ReadError Bytes × List Input
  | [] => (.error .eof, [])
  | .deadline :: t => (.error .deadline, t)
  | .byte b :: t =>
    if b = delim then (.ok [b], t)
    else
      match readString delim t with
      | (.ok line, rest) => (.ok (b :: line), rest)
      | (.error e, rest) => (.error e, rest)

/-- The number of bytes a `ReadString` call gathers before it returns. -/
def gathered (delim : UInt8) : List Input → Nat
  | [] => 0
  | .deadline :: _ => 0
  | .byte b :: t => if b = delim then 1 else gathered delim t + 1

@[simp] theorem bytesOf_sent (s : Bytes) : bytesOf (sent s) = s := by
  induction s with
  | nil => rfl
  | cons b t ih => simpa [sent, bytesOf] using ih

@[simp] theorem sent_nil : sent [] = [] := rfl

@[simp] theorem sent_cons (b : UInt8) (s : Bytes) : sent (b :: s) = .byte b :: sent s := rfl

@[simp] theorem sent_append (s t : Bytes) : sent (s ++ t) = sent s ++ sent t :=
  List.map_append

@[simp] theorem bytesOf_append (a b : List Input) :
    bytesOf (a ++ b) = bytesOf a ++ bytesOf b := by
  induction a with
  | nil => rfl
  | cons e t ih => cases e <;> simp [bytesOf, ih]

/-- The three shapes of a call: the events start with one whole line, or they are
an unfinished line, or a deadline cuts an unfinished line. -/
theorem readString_cases (delim : UInt8) (input : List Input) :
    ∃ body, delim ∉ body ∧
      ((∃ rest, input = sent (body ++ [delim]) ++ rest ∧
          readString delim input = (.ok (body ++ [delim]), rest)) ∨
        (input = sent body ∧ readString delim input = (.error .eof, [])) ∨
        ∃ rest, input = sent body ++ .deadline :: rest ∧
          readString delim input = (.error .deadline, rest)) := by
  induction input with
  | nil => exact ⟨[], by simp, .inr (.inl ⟨rfl, rfl⟩)⟩
  | cons e t ih =>
    cases e with
    | deadline => exact ⟨[], by simp, .inr (.inr ⟨t, rfl, rfl⟩)⟩
    | byte b =>
      by_cases hb : b = delim
      · exact ⟨[], by simp, .inl ⟨t, by simp [hb], by simp [readString, hb]⟩⟩
      obtain ⟨body, hbody, hcase⟩ := ih
      have hcons : delim ∉ b :: body := by
        simp only [List.mem_cons, not_or]
        exact ⟨fun heq => hb heq.symm, hbody⟩
      refine ⟨b :: body, hcons, ?_⟩
      rcases hcase with ⟨rest, hinput, hread⟩ | ⟨hinput, hread⟩ | ⟨rest, hinput, hread⟩
      · exact .inl ⟨rest, by simp [hinput], by simp [readString, hb, hread]⟩
      · exact .inr (.inl ⟨by simp [hinput], by simp [readString, hb, hread]⟩)
      · exact .inr (.inr ⟨rest, by simp [hinput], by simp [readString, hb, hread]⟩)

variable {delim : UInt8}

variable {input rest : List Input} {line : Bytes}

/-- A line that was read is the front of the events: bytes other than `delim`,
then `delim` itself. -/
theorem readString_ok (h : readString delim input = (.ok line, rest)) :
    ∃ body, line = body ++ [delim] ∧ delim ∉ body ∧ input = sent line ++ rest := by
  obtain ⟨body, hbody, ⟨rest', hinput, hread⟩ | ⟨_, hread⟩ | ⟨_, _, hread⟩⟩ :=
    readString_cases delim input
  · rw [hread, Prod.mk.injEq, Except.ok.injEq] at h
    obtain ⟨rfl, rfl⟩ := h
    exact ⟨body, rfl, hbody, hinput⟩
  · simp [hread] at h
  · simp [hread] at h

/-- Reading a front that is one line. -/
theorem readString_line {body : Bytes} (h : delim ∉ body) (rest : List Input) :
    readString delim (sent (body ++ [delim]) ++ rest) = (.ok (body ++ [delim]), rest) := by
  induction body with
  | nil => simp [readString]
  | cons b t ih =>
    simp only [List.mem_cons, not_or] at h
    have hb : b ≠ delim := fun heq => h.1 heq.symm
    simp only [List.cons_append, sent_cons, readString, if_neg hb, ih h.2]

/-- A read only takes events from the front. -/
theorem readString_suffix (delim : UInt8) (input : List Input) :
    (readString delim input).2 <:+ input := by
  obtain ⟨body, _, ⟨rest, hinput, hread⟩ | ⟨_, hread⟩ | ⟨rest, hinput, hread⟩⟩ :=
    readString_cases delim input
  · rw [hread, hinput]
    exact List.suffix_append _ _
  · rw [hread]
    exact List.nil_suffix
  · rw [hread, hinput]
    exact (List.suffix_cons _ _).trans (List.suffix_append _ _)

/-- Every successful read makes progress. -/
theorem readString_length_lt (h : readString delim input = (.ok line, rest)) :
    rest.length < input.length := by
  obtain ⟨body, rfl, _, rfl⟩ := readString_ok h
  simp only [sent, List.length_append, List.length_map, List.length_cons]
  omega

end Go
