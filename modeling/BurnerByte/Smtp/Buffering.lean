import BurnerByte.Smtp.Data

/-!
# How much a conversation buffers

`ReadString` gathers a line whole, on the command path and in the data phase, and
the size of a message is compared with the limit only after a line is complete.
So what the server holds for a peer is bounded by the limit and the peer's own
lines: it has a bound exactly when the lines have one.
-/

namespace BurnerByte.Smtp

open Go

/-- The states of the `readData` loop: what it has collected, and what is unread. -/
inductive DataLoop (maxSize : Nat) (input : List Input) : Bytes → List Input → Prop where
  | start : DataLoop maxSize input [] input
  | next {buf buf' : Bytes} {unread rest : List Input} :
    DataLoop maxSize input buf unread → readDataStep maxSize buf unread = (.more buf', rest) →
      DataLoop maxSize input buf' rest

/-- The numbers of bytes held at the points of one turn: a line is being gathered,
behind the body collected so far if the turn receives a message. -/
inductive Buffered (l : Listener) (s : Session) : Nat → Prop where
  | command {k : Nat} : s.phase = .command → k ≤ gathered lf s.input → Buffered l s k
  | data {rest unread : List Input} {buf : Bytes} {k : Nat} :
    Receives l s rest → DataLoop l.maxSize rest buf unread → k ≤ gathered lf unread →
      Buffered l s (buf.length + k)

/-- The lines that the turn from `s` reads, as far as it gets, are at most `c` long. -/
def LinesWithin (l : Listener) (c : Nat) (s : Session) : Prop :=
  (s.phase = .command → gathered lf s.input ≤ c) ∧
    ∀ rest, Receives l s rest → ∀ (lines : List Bytes) (unread : List Input),
      (∀ x ∈ lines, BodyLine x) → rest = sent lines.flatten ++ unread →
        (unstuffed lines).length ≤ l.maxSize → gathered lf unread ≤ c

variable {maxSize c : Nat} {l : Listener} {s : Session}

theorem readDataStep_more {buf buf' : Bytes} {input rest : List Input}
    (h : readDataStep maxSize buf input = (.more buf', rest)) :
    ∃ x, BodyLine x ∧ input = sent x ++ rest ∧ buf' = buf ++ unstuff x ∧
      buf'.length ≤ maxSize := by
  rcases hread : readString lf input with ⟨result, after⟩
  cases result with
  | error e => simp [readDataStep, hread] at h
  | ok x =>
    obtain ⟨body, hx, hbody, hinput⟩ := readString_ok hread
    simp only [readDataStep, hread] at h
    split at h
    · simp at h
    split at h
    · simp at h
    rename_i hdot hfit
    obtain ⟨rfl, rfl⟩ := h
    refine ⟨x, ⟨⟨body, hbody, hx⟩, hdot⟩, hinput, rfl, ?_⟩
    rw [List.length_append]
    omega

/-- The loop is always behind some body lines, and holds them unstuffed. -/
theorem DataLoop.lines {input unread : List Input} {buf : Bytes}
    (h : DataLoop maxSize input buf unread) :
    ∃ lines : List Bytes, (∀ x ∈ lines, BodyLine x) ∧ input = sent lines.flatten ++ unread ∧
      buf = unstuffed lines ∧ buf.length ≤ maxSize := by
  induction h with
  | start => exact ⟨[], by simp, by simp, rfl, Nat.zero_le _⟩
  | next _ hstep ih =>
    obtain ⟨lines, hbody, hinput, hbuf, _⟩ := ih
    obtain ⟨x, hx, hunread, hbuf', hfit⟩ := readDataStep_more hstep
    refine ⟨lines ++ [x], ?_, ?_, ?_, hfit⟩
    · intro y hy
      rcases List.mem_append.mp hy with hy | hy
      · exact hbody y hy
      · exact List.mem_singleton.mp hy ▸ hx
    · rw [hinput, hunread]
      simp
    · rw [hbuf', hbuf]
      simp [unstuffed]

/-- The loop reaches every position behind body lines that fit. -/
theorem dataLoop_of_lines {lines : List Bytes} {unread : List Input}
    (hbody : ∀ x ∈ lines, BodyLine x) (hfit : (unstuffed lines).length ≤ maxSize) :
    DataLoop maxSize (sent lines.flatten ++ unread) (unstuffed lines) unread := by
  induction lines using List.reverseRecOn generalizing unread with
  | nil => exact .start
  | append_singleton lines x ih =>
    have hx : BodyLine x := hbody x (by simp)
    have hsplit : unstuffed (lines ++ [x]) = unstuffed lines ++ unstuff x := by
      simp [unstuffed]
    rw [hsplit, List.length_append] at hfit
    have hprev : DataLoop maxSize (sent lines.flatten ++ (sent x ++ unread)) (unstuffed lines)
        (sent x ++ unread) := ih (fun y hy => hbody y (by simp [hy])) (by omega)
    have hstep := readDataStep_body maxSize (unstuffed lines) hx unread
    rw [if_neg (by omega)] at hstep
    have hnext := hprev.next hstep
    rw [hsplit]
    simpa using hnext

/-- One turn: lines within `c` keep the buffer within the limit and `c`. -/
theorem buffered_le {m : Nat} (hlines : LinesWithin l c s) (h : Buffered l s m) :
    m ≤ l.maxSize + c := by
  cases h with
  | command hphase hk =>
    have hc := hlines.1 hphase
    omega
  | data hreceives hloop hk =>
    obtain ⟨lines, hbody, hrest, rfl, hfit⟩ := hloop.lines
    have hc := hlines.2 _ hreceives lines _ hbody hrest hfit
    omega

/-- One turn: a bound on the buffer bounds the lines. -/
theorem linesWithin_of_buffered_le (h : ∀ m, Buffered l s m → m ≤ c) : LinesWithin l c s := by
  constructor
  · intro hphase
    exact h _ (.command hphase (Nat.le_refl _))
  · rintro _ hreceives lines unread hbody rfl hfit
    have hm := h _ (.data hreceives (dataLoop_of_lines hbody hfit) (Nat.le_refl _))
    omega

/-- For any class of peers, some constant bounds what is buffered beyond the size
limit at every point of every conversation if and only if some constant bounds
the lines that these conversations read. -/
theorem buffered_bounded_iff (l : Listener) (peers : Set Session) :
    (∃ c, ∀ s ∈ peers, ∀ n m, Buffered l (handleConn l n s) m → m ≤ l.maxSize + c) ↔
      ∃ c, ∀ s ∈ peers, ∀ n, LinesWithin l c (handleConn l n s) := by
  constructor
  · rintro ⟨c, hc⟩
    exact ⟨l.maxSize + c, fun s hs n => linesWithin_of_buffered_le (hc s hs n)⟩
  · rintro ⟨c, hc⟩
    exact ⟨c, fun s hs n m hm => buffered_le (hc s hs n) hm⟩

theorem gathered_unfinished (b : UInt8) (hb : b ≠ lf) (n : Nat) :
    gathered lf (sent (List.replicate n b)) = n := by
  induction n with
  | zero => rfl
  | succ n ih =>
    simp only [List.replicate_succ, sent_cons, gathered, if_neg hb]
    rw [ih]

/-- Over all peers there is no such constant: a command line without a line feed is
gathered as long as it comes. -/
theorem buffered_unbounded :
    ¬ ∃ c, ∀ input n m,
      Buffered (.permissive 100 (by decide))
        (handleConn (.permissive 100 (by decide)) n (.accept (lit "mx.test") input [])) m →
      m ≤ 100 + c := by
  rintro ⟨c, hc⟩
  have hlong := gathered_unfinished 65 (by decide) (100 + c + 1)
  have hm := hc (sent (List.replicate (100 + c + 1) 65)) 0 (100 + c + 1)
    (.command rfl (Nat.le_of_eq hlong.symm))
  omega

end BurnerByte.Smtp
