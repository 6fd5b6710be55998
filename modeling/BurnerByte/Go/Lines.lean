import BurnerByte.Go.Bufio

/-!
# Byte strings as lists of lines

A byte string falls into whole lines, each ended by the delimiter, and an
unfinished line behind them, in exactly one way. `splitLines` computes this
decomposition, so two decompositions of one string are compared as lists.
-/

namespace Go

variable {delim : UInt8}

/-- Bytes other than the delimiter, then the delimiter. -/
def IsLine (delim : UInt8) (x : Bytes) : Prop := ∃ body, delim ∉ body ∧ x = body ++ [delim]

/-- The whole lines of a byte string, and what follows the last of them. -/
def splitLines (delim : UInt8) : Bytes → List Bytes × Bytes
  | [] => ([], [])
  | b :: t =>
    match splitLines delim t with
    | (lines, tail) =>
      if b = delim then ([b] :: lines, tail)
      else
        match lines with
        | [] => ([], b :: tail)
        | line :: more => ((b :: line) :: more, tail)

variable {x : Bytes}

theorem IsLine.ne_nil (h : IsLine delim x) : x ≠ [] := by
  obtain ⟨body, _, rfl⟩ := h
  simp

/-- A line in front is split off first. -/
theorem splitLines_line_append (h : IsLine delim x) (s : Bytes) :
    splitLines delim (x ++ s) = (x :: (splitLines delim s).1, (splitLines delim s).2) := by
  obtain ⟨body, hbody, rfl⟩ := h
  induction body with
  | nil => simp [splitLines]
  | cons b t ih =>
    simp only [List.mem_cons, not_or] at hbody
    have hb : b ≠ delim := fun heq => hbody.1 heq.symm
    simp only [List.cons_append, splitLines, ih hbody.2, if_neg hb]

theorem splitLines_flatten_append {lines : List Bytes} (h : ∀ x ∈ lines, IsLine delim x)
    (s : Bytes) :
    splitLines delim (lines.flatten ++ s) =
      (lines ++ (splitLines delim s).1, (splitLines delim s).2) := by
  induction lines with
  | nil => simp
  | cons x xs ih =>
    rw [List.flatten_cons, List.append_assoc, splitLines_line_append (h x (by simp)),
      ih fun y hy => h y (by simp [hy])]
    simp

/-- The decomposition exists: its parts are lines and an unfinished line, and
they make up the string. -/
theorem splitLines_spec (delim : UInt8) (s : Bytes) :
    (∀ x ∈ (splitLines delim s).1, IsLine delim x) ∧ delim ∉ (splitLines delim s).2 ∧
      (splitLines delim s).1.flatten ++ (splitLines delim s).2 = s := by
  induction s with
  | nil => simp [splitLines]
  | cons b t ih =>
    rcases hsplit : splitLines delim t with ⟨lines, tail⟩
    rw [hsplit] at ih
    obtain ⟨hlines, htail, hconcat⟩ := ih
    by_cases hb : b = delim
    · simp only [splitLines, hsplit, if_pos hb]
      have hfirst : IsLine delim [b] := ⟨[], by simp, by simp [hb]⟩
      exact ⟨List.forall_mem_cons.mpr ⟨hfirst, hlines⟩, htail, by simpa using hconcat⟩
    have hother {s : Bytes} (hs : delim ∉ s) : delim ∉ b :: s := by simp [Ne.symm hb, hs]
    cases lines with
    | nil =>
      simp only [splitLines, hsplit, if_neg hb]
      exact ⟨by simp, hother htail, by simpa using hconcat⟩
    | cons line more =>
      simp only [splitLines, hsplit, if_neg hb]
      obtain ⟨⟨body, hbody, rfl⟩, hmore⟩ := List.forall_mem_cons.mp hlines
      have hfirst : IsLine delim (b :: (body ++ [delim])) := ⟨b :: body, hother hbody, rfl⟩
      exact ⟨List.forall_mem_cons.mpr ⟨hfirst, hmore⟩, htail, by simpa using hconcat⟩

/-- A string that ends in the delimiter is made of whole lines. -/
theorem exists_lines_of_suffix {s : Bytes} (h : [delim] <:+ s) :
    ∃ lines : List Bytes, (∀ x ∈ lines, IsLine delim x) ∧ s = lines.flatten := by
  obtain ⟨hlines, htail, hconcat⟩ := splitLines_spec delim s
  refine ⟨(splitLines delim s).1, hlines, ?_⟩
  -- An unfinished tail would put another byte at the end.
  rcases List.eq_nil_or_concat (splitLines delim s).2 with hnil | ⟨front, last, hlast⟩
  · rw [hnil, List.append_nil] at hconcat
    exact hconcat.symm
  obtain ⟨pre, rfl⟩ := h
  rw [hlast] at hconcat
  have hend : last = delim := by
    have := congrArg List.getLast? hconcat
    simpa using this
  exact absurd (by rw [hlast]; simp [hend]) htail

/-- Events are bytes up to the first deadline, if there is one. -/
theorem exists_sent_append (input : List Input) :
    ∃ p after, input = sent p ++ after ∧ (after = [] ∨ ∃ rest, after = .deadline :: rest) := by
  induction input with
  | nil => exact ⟨[], [], rfl, .inl rfl⟩
  | cons e t ih =>
    cases e with
    | deadline => exact ⟨[], .deadline :: t, rfl, .inr ⟨t, rfl⟩⟩
    | byte b =>
      obtain ⟨p, after, hinput, hafter⟩ := ih
      exact ⟨b :: p, after, by simp [hinput], hafter⟩

theorem readString_of_isLine (h : IsLine delim x) (rest : List Input) :
    readString delim (sent x ++ rest) = (.ok x, rest) := by
  obtain ⟨body, hbody, rfl⟩ := h
  exact readString_line hbody rest

/-- An unfinished line fails with whatever follows it. -/
theorem readString_unfinished {p : Bytes} (h : delim ∉ p) (after : List Input) :
    readString delim (sent p ++ .deadline :: after) = (.error .deadline, after) ∧
      readString delim (sent p) = (.error .eof, []) := by
  induction p with
  | nil => exact ⟨rfl, rfl⟩
  | cons b t ih =>
    simp only [List.mem_cons, not_or] at h
    have hb : b ≠ delim := fun heq => h.1 heq.symm
    obtain ⟨hdeadline, heof⟩ := ih h.2
    simp [readString, hb, hdeadline, heof]

/-! ## Reads -/

/-- What one read from a connection brings. -/
inductive Read where
  | bytes (chunk : Bytes)
  | deadline

def Read.events : Read → List Input
  | .bytes chunk => sent chunk
  | .deadline => [.deadline]

/-- Go's `bufio.Reader`: the bytes it holds, and the reads to come. -/
structure Reader where
  buffered : Bytes
  reads : List Read

/-- What is still to come out of the reader. -/
def Reader.events (r : Reader) : List Input := sent r.buffered ++ r.reads.flatMap Read.events

/-- The first line in the buffer, or else what comes of reading on. -/
def Reader.lineOr (delim : UInt8) (r : Reader) (next : Except ReadError Bytes × Reader) :
    Except ReadError Bytes × Reader :=
  match (splitLines delim r.buffered).1 with
  | [] => next
  | line :: _ => (.ok line, ⟨r.buffered.drop line.length, r.reads⟩)

/-- `ReadString` reads on until the buffer holds a line. -/
def Reader.readString (delim : UInt8) (buffered : Bytes) :
    List Read → Except ReadError Bytes × Reader
  | [] => lineOr delim ⟨buffered, []⟩ (.error .eof, ⟨[], []⟩)
  | .deadline :: reads =>
    lineOr delim ⟨buffered, .deadline :: reads⟩ (.error .deadline, ⟨[], reads⟩)
  | .bytes chunk :: reads =>
    lineOr delim ⟨buffered, .bytes chunk :: reads⟩ (readString delim (buffered ++ chunk) reads)

theorem Reader.lineOr_events {r : Reader} {next : Except ReadError Bytes × Reader}
    (h : delim ∉ r.buffered → Go.readString delim r.events = (next.1, next.2.events)) :
    Go.readString delim r.events = ((lineOr delim r next).1, (lineOr delim r next).2.events) := by
  obtain ⟨hlines, htail, hconcat⟩ := splitLines_spec delim r.buffered
  unfold lineOr
  cases hsplit : (splitLines delim r.buffered).1 with
  | nil =>
    rw [hsplit, List.flatten_nil, List.nil_append] at hconcat
    exact h (hconcat ▸ htail)
  | cons line more =>
    rw [hsplit, List.flatten_cons, List.append_assoc] at hconcat
    rw [hsplit] at hlines
    simp only [events]
    rw [← hconcat, sent_append, List.append_assoc, readString_of_isLine (hlines line (by simp))]
    simp

/-- Where the reads are cut makes no difference to the lines. -/
theorem Reader.readString_events (delim : UInt8) (buffered : Bytes) (reads : List Read) :
    Go.readString delim (events ⟨buffered, reads⟩) =
      ((readString delim buffered reads).1, (readString delim buffered reads).2.events) := by
  induction reads generalizing buffered with
  | nil =>
    refine lineOr_events fun hno => ?_
    simpa [events] using (readString_unfinished hno []).2
  | cons read reads ih =>
    cases read with
    | deadline =>
      refine lineOr_events fun hno => ?_
      simpa [events, Read.events] using (readString_unfinished hno _).1
    | bytes chunk =>
      refine lineOr_events fun _ => ?_
      rw [← ih]
      simp [events, Read.events]

end Go
