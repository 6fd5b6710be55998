import BurnerByte.Smtp.Listener

/-!
# Command lines and run-time panics

Every slice of the command path but one is in bounds for every byte string a
peer can send. The exception is the first slice of `extractMailParam`, whose
offset was computed in the upper-cased argument: upper-casing can lengthen the
text before the marker, and then the offset may lie past the argument's end.
-/

namespace BurnerByte.Smtp

open Go Outcome

/-- The text before the first space of a command line. -/
def commandWord (line : Bytes) : Bytes :=
  match index line (lit " ") with
  | none => line
  | some i => line.take i

/-- The text after the first space of a command line. -/
def commandArg (line : Bytes) : Bytes :=
  match index line (lit " ") with
  | none => []
  | some i => line.drop (i + 1)

def commandVerb (m : CaseMapping) (line : Bytes) : Verb := verbOf (toUpper m (commandWord line))

theorem commandVerb_nil (m : CaseMapping) : commandVerb m [] = .unknown := by
  change verbOf [] = .unknown
  decide

/-- Command splitting never indexes out of range. -/
theorem parseCommand_eq (m : CaseMapping) (line : Bytes) :
    parseCommand m line = .ok (toUpper m (commandWord line), commandArg line) := by
  unfold parseCommand commandWord commandArg splitN2
  cases index line (lit " ") <;> rfl

/-! ## Addresses -/

/-- A search that starts at another byte finds its own byte later. -/
theorem index_pos_of_head_ne {s : Bytes} {b c : UInt8} {i : Nat} (hne : b ≠ c)
    (hhead : [b] <+: s) (h : index s [c] = some i) : 0 < i := by
  rcases Nat.eq_zero_or_pos i with rfl | hpos
  · have hc : [c] <+: s := by simpa using prefix_drop_of_index h
    obtain ⟨t, rfl⟩ := hhead
    simp only [List.singleton_append, List.cons_prefix_cons] at hc
    exact absurd hc.1.symm hne
  · exact hpos

/-- Inside the brackets both bounds are ordered: the closing bracket is searched
from the opening one on. -/
theorem bracket_bounds {arg : Bytes} {start stop : Nat} (hstart : index arg (lit "<") = some start)
    (hstop : index (arg.drop start) (lit ">") = some stop) :
    start + 1 ≤ start + stop ∧ start + stop ≤ arg.length := by
  have hopen := prefix_drop_of_index hstart
  have hpos := index_pos_of_head_ne (b := 60) (c := 62) (by decide) hopen hstop
  have hend := index_add_length_le hstop (by decide)
  have hbegin := index_add_length_le hstart (by decide)
  rw [List.length_drop] at hend
  have hone : (lit "<").length = 1 := rfl
  omega

theorem bareAddress_ok (arg : Bytes) : ∃ addr, bareAddress arg = .ok addr := by
  unfold bareAddress
  cases hidx : indexByte arg 32 with
  | none => exact ⟨trimSpace arg, rfl⟩
  | some idx =>
    have hle := index_add_length_le hidx (by decide)
    have hslice := slice_eq_ok (Nat.zero_le idx) (show idx ≤ arg.length by omega)
    exact ⟨trimSpace ((arg.take idx).drop 0), by simp only [hslice, Except.map]⟩

/-- The address of any parameter text is found without a panic. -/
theorem addressOf_ok (arg : Bytes) : ∃ addr, addressOf arg = .ok addr := by
  unfold addressOf
  cases hstart : index arg (lit "<") with
  | none => exact bareAddress_ok arg
  | some start =>
    have hle := index_add_length_le hstart (by decide)
    have hslice := sliceFrom_eq_ok (show start ≤ arg.length by omega)
    simp only [hslice, ok_bind]
    cases hstop : index (arg.drop start) (lit ">") with
    | none => exact bareAddress_ok arg
    | some stop =>
      obtain ⟨hlow, hhigh⟩ := bracket_bounds hstart hstop
      exact ⟨trimSpace ((arg.take (start + stop)).drop (start + 1)), by
        simp only [slice_eq_ok hlow hhigh, Except.map]⟩

/-- If the upper-cased argument holds the marker at all, then already its first
`arg.length` bytes do. Upper-casing that does not lengthen the argument gives this. -/
def MarkerInReach (m : CaseMapping) (arg marker : Bytes) : Prop :=
  marker <:+: toUpper m arg → marker <:+: (toUpper m arg).take arg.length

theorem afterMarker_ok_iff (m : CaseMapping) (arg marker : Bytes) :
    (∃ rest, afterMarker m arg marker = .ok rest) ↔ MarkerInReach m arg marker := by
  unfold afterMarker MarkerInReach
  cases hidx : index (toUpper m arg) marker with
  | none =>
    have hno := index_eq_none_iff.mp hidx
    exact iff_of_true ⟨arg, rfl⟩ (fun hin => absurd hin hno)
  | some idx =>
    have hin : marker <:+: toUpper m arg := infix_of_prefix_drop (prefix_drop_of_index hidx)
    rw [imp_iff_right hin, ← index_add_length_le_iff hidx]
    constructor
    · rintro ⟨rest, hrest⟩
      by_contra hpast
      have hpanic : slice arg (idx + marker.length) arg.length = .error _ :=
        if_neg (by omega)
      simp only [sliceFrom, hpanic, reduceCtorEq] at hrest
    · intro hle
      exact ⟨_, sliceFrom_eq_ok hle⟩

theorem extractMailParam_ok_iff (m : CaseMapping) (arg verb : Bytes) :
    (∃ addr, extractMailParam m arg verb = .ok addr) ↔ MarkerInReach m arg (verb ++ lit ":") := by
  rw [← afterMarker_ok_iff, extractMailParam]
  exact exists_bind_eq_ok_iff fun rest => addressOf_ok (trimSpace rest)

/-! ## The command loop -/

/-- What a command line must satisfy so that its handling slices in bounds: only
`MAIL`, and `RCPT` once a sender is set, look for a marker. -/
def CommandInReach (l : Listener) (s : Session) (line : Bytes) : Prop :=
  let text := trimRight line crlf
  (commandVerb l.caseMapping text = .mail →
    MarkerInReach l.caseMapping (commandArg text) (lit "FROM:")) ∧
  (commandVerb l.caseMapping text = .rcpt → s.mailFrom ≠ [] →
    MarkerInReach l.caseMapping (commandArg text) (lit "TO:"))

theorem dispatch_mail_ok_iff (l : Listener) (s : Session) (arg : Bytes) :
    (∃ s', dispatch l s .mail arg = .ok s') ↔ MarkerInReach l.caseMapping arg (lit "FROM:") := by
  rw [show lit "FROM:" = lit "FROM" ++ lit ":" from rfl, ← extractMailParam_ok_iff, dispatch]
  refine exists_bind_eq_ok_iff fun sender => ?_
  split <;> exact ⟨_, rfl⟩

theorem dispatch_rcpt_ok_iff (l : Listener) (s : Session) (arg : Bytes) :
    (∃ s', dispatch l s .rcpt arg = .ok s') ↔
      (s.mailFrom ≠ [] → MarkerInReach l.caseMapping arg (lit "TO:")) := by
  rw [show lit "TO:" = lit "TO" ++ lit ":" from rfl, ← extractMailParam_ok_iff, dispatch]
  by_cases hfrom : s.mailFrom = []
  · simp only [hfrom, if_true, ne_eq, not_true_eq_false, false_imp_iff, iff_true]
    exact ⟨_, rfl⟩
  simp only [ne_eq, hfrom, if_false, not_false_eq_true, true_imp_iff]
  refine exists_bind_eq_ok_iff fun addr => ?_
  split_ifs <;> exact ⟨_, rfl⟩

/-- The other arms of the switch slice nothing. -/
theorem dispatch_ok {l : Listener} {s : Session} {verb : Verb} (arg : Bytes)
    (hmail : verb ≠ .mail) (hrcpt : verb ≠ .rcpt) : ∃ s', dispatch l s verb arg = .ok s' := by
  cases verb with
  | mail => exact absurd rfl hmail
  | rcpt => exact absurd rfl hrcpt
  | starttls =>
    simp only [dispatch]
    split
    · split <;> exact ⟨_, rfl⟩
    · exact ⟨_, rfl⟩
  | data =>
    simp only [dispatch]
    split_ifs <;> exact ⟨_, rfl⟩
  | _ => exact ⟨_, rfl⟩

/-- A command line is handled without a panic exactly when the marker it is
searched for lies in reach. -/
theorem handleLine_ok_iff (l : Listener) (s : Session) (line : Bytes) :
    (∃ s', handleLine l s line = .ok s') ↔ CommandInReach l s line := by
  unfold handleLine CommandInReach
  by_cases hblank : trimRight line crlf = []
  · simp only [hblank, if_true]
    refine iff_of_true ⟨s, rfl⟩ ⟨fun h => ?_, fun h => ?_⟩ <;>
      exact absurd (h.symm.trans (commandVerb_nil _)) (by decide)
  simp only [if_neg hblank, parseCommand_eq, ok_bind]
  change (∃ s', dispatch l s (commandVerb l.caseMapping (trimRight line crlf)) _ = .ok s') ↔ _
  by_cases hmail : commandVerb l.caseMapping (trimRight line crlf) = .mail
  · rw [hmail, dispatch_mail_ok_iff]
    simp
  by_cases hrcpt : commandVerb l.caseMapping (trimRight line crlf) = .rcpt
  · rw [hrcpt, dispatch_rcpt_ok_iff]
    simp
  · exact iff_of_true (dispatch_ok _ hmail hrcpt)
      ⟨fun h => absurd h hmail, fun h => absurd h hrcpt⟩

/-- Two stray bytes in front of the marker end the process: the marker is found
at offset 6 of the upper-cased argument, which has 7 bytes before upper-casing. -/
theorem handleLine_crashes :
    (step (.permissive 100 (by decide))
      (.accept (lit "mx.test") (sent (lit "MAIL " ++ [0xFF, 0xFF] ++ lit "FROM:\r\n")) [])).phase =
        .crashed (.sliceBounds 11 7 7) := by
  decide +kernel

end BurnerByte.Smtp
