import BurnerByte.Smtp.Data

/-!
# Where a message ends

The 354 reply announces that the message ends with CRLF, a dot and CRLF, and a
peer or relay that keeps to this ends it at the first such place. `readData`
ends it at the first line that trims to a dot, whatever mix of CR and LF stands
around the dot. The two agree on a stream exactly when the first dot line is
delimited as announced.
-/

namespace BurnerByte.Smtp

open Go

/-- The bytes `readData` consumes from the stream up to the end of the message,
or `none` when it fails. -/
def messageEnd (maxSize : Nat) (data : Bytes) : Option Nat :=
  match readData maxSize (sent data) with
  | (.ok _, rest) => some (data.length - rest.length)
  | (.error _, _) => none

def dotCrlf : Bytes := dot ++ crlf

/-- The end of the message by the terminator that the 354 reply announces: the
first CRLF, dot, CRLF, or an initial dot and CRLF. -/
def announcedEnd (data : Bytes) : Option Nat :=
  if hasPrefix data dotCrlf then some 3
  else (index data (crlf ++ dotCrlf)).map (· + 5)

/-- An announced terminator of `data` ends after `k` bytes. -/
def AnnouncedAt (data : Bytes) (k : Nat) : Prop :=
  ∃ front back, data = front ++ dotCrlf ++ back ∧ (front = [] ∨ crlf <:+ front) ∧
    k = front.length + 3

variable {data d : Bytes} {k maxSize : Nat} {lines : List Bytes}

/-- The search `announcedEnd` finds an announced terminator, and none ends earlier. -/
theorem announcedEnd_eq_some (h : announcedEnd data = some k) : AnnouncedAt data k := by
  unfold announcedEnd at h
  split at h
  · rename_i hinitial
    obtain ⟨back, hback⟩ := hasPrefix_iff.mp hinitial
    exact ⟨[], back, by simp [hback], .inl rfl, by simpa using h.symm⟩
  obtain ⟨i, hi, rfl⟩ := Option.map_eq_some_iff.mp h
  have hle := index_add_length_le hi (by decide)
  have hlen : (crlf ++ dotCrlf).length = 5 := rfl
  obtain ⟨back, hback⟩ := prefix_drop_of_index hi
  refine ⟨data.take i ++ crlf, back, ?_, .inr (List.suffix_append _ _), ?_⟩
  · conv_lhs => rw [← List.take_append_drop i data, ← hback]
    simp only [List.append_assoc]
  · have hcrlf : crlf.length = 2 := rfl
    rw [List.length_append, List.length_take, hcrlf]
    omega

theorem announcedEnd_le (h : AnnouncedAt data k) : ∃ j ≤ k, announcedEnd data = some j := by
  obtain ⟨front, back, hdata, hfront, rfl⟩ := h
  unfold announcedEnd
  split
  · exact ⟨3, by omega, rfl⟩
  rename_i hinitial
  rcases hfront with rfl | ⟨head, rfl⟩
  · exact absurd (hasPrefix_iff.mpr ⟨back, by simpa using hdata.symm⟩) hinitial
  have hocc : crlf ++ dotCrlf <+: data.drop head.length := by
    refine ⟨back, ?_⟩
    simp [hdata]
  obtain ⟨i, hi, hindex⟩ := index_le_of_prefix_drop hocc
  have hcrlf : crlf.length = 2 := rfl
  refine ⟨i + 5, ?_, by rw [hindex, Option.map_some]⟩
  rw [List.length_append, hcrlf]
  omega

theorem announcedEnd_eq_none_iff : announcedEnd data = none ↔ ∀ k, ¬ AnnouncedAt data k := by
  constructor
  · intro hnone k hk
    obtain ⟨j, _, hj⟩ := announcedEnd_le hk
    rw [hnone] at hj
    cases hj
  · intro hno
    by_contra hsome
    obtain ⟨k, hk⟩ := Option.ne_none_iff_exists'.mp hsome
    exact hno k (announcedEnd_eq_some hk)

/-! ## Announced terminators among the lines -/

theorem dotLine_dotCrlf : DotLine dotCrlf := ⟨⟨[46, 13], by decide, rfl⟩, by decide⟩

theorem DotLine.not_bodyLine {x : Bytes} (h : DotLine x) : ¬ BodyLine x :=
  fun hbody => hbody.2 h.2

/-- What stands before an announced terminator are whole lines. -/
theorem lines_of_front {front : Bytes} (h : front = [] ∨ crlf <:+ front) :
    ∃ lines : List Bytes, (∀ x ∈ lines, IsLine lf x) ∧ front = lines.flatten := by
  rcases h with rfl | hsuffix
  · exact ⟨[], by simp, rfl⟩
  have hlf : [lf] <:+ crlf := ⟨[13], rfl⟩
  exact exists_lines_of_suffix (hlf.trans hsuffix)

/-- A decomposition into body lines, a dot line and a rest is read off the lines
of the stream. -/
theorem splitLines_of_lines (hlines : ∀ x ∈ lines, IsLine lf x) (hd : IsLine lf d) (rest : Bytes) :
    (splitLines lf (lines.flatten ++ d ++ rest)).1 = lines ++ d :: (splitLines lf rest).1 := by
  rw [List.append_assoc, splitLines_flatten_append hlines, splitLines_line_append hd]

/-- Two ways to point at an element of one list: the same place, or the second
place lies behind the first. -/
theorem eq_or_behind_of_append_cons {α : Type} {l₁ l₂ x y : List α} {a b : α}
    (h : l₁ ++ a :: x = l₂ ++ b :: y) (hb : b ∉ l₁) :
    (l₁ = l₂ ∧ a = b) ∨ ∃ mid, l₂ = l₁ ++ a :: mid := by
  rcases List.append_eq_append_iff.mp h with ⟨mid, hmid, hrest⟩ | ⟨mid, hmid, hrest⟩
  · cases mid with
    | nil =>
      simp only [List.append_nil, List.nil_append, List.cons.injEq] at hmid hrest
      exact .inl ⟨hmid.symm, hrest.1⟩
    | cons c mid =>
      simp only [List.cons_append, List.cons.injEq] at hrest
      exact .inr ⟨mid, by rw [hmid, hrest.1]⟩
  · cases mid with
    | nil =>
      simp only [List.append_nil, List.nil_append, List.cons.injEq] at hmid hrest
      exact .inl ⟨hmid, hrest.1.symm⟩
    | cons c mid =>
      simp only [List.cons_append, List.cons.injEq] at hrest
      exact absurd (by simp [hmid, hrest.1]) hb

/-- An announced terminator is a dot line, so it is the first one or stands behind it. -/
theorem announcedAt_of_lines {rest : Bytes} (hbody : ∀ x ∈ lines, BodyLine x) (hd : DotLine d)
    (h : AnnouncedAt (lines.flatten ++ d ++ rest) k) :
    (k = lines.flatten.length + d.length ∧ d = dotCrlf ∧
        (lines = [] ∨ crlf <:+ lines.flatten)) ∨
      lines.flatten.length + d.length < k := by
  obtain ⟨front, back, hdata, hfront, rfl⟩ := h
  obtain ⟨whole, hwhole, rfl⟩ := lines_of_front hfront
  have hsplit : lines ++ d :: (splitLines lf rest).1 =
      whole ++ dotCrlf :: (splitLines lf back).1 := by
    rw [← splitLines_of_lines (fun x hx => (hbody x hx).1) hd.1, hdata,
      splitLines_of_lines hwhole dotLine_dotCrlf.1]
  have hno : dotCrlf ∉ lines := fun hmem => dotLine_dotCrlf.not_bodyLine (hbody _ hmem)
  rcases eq_or_behind_of_append_cons hsplit hno with ⟨rfl, rfl⟩ | ⟨mid, rfl⟩
  · refine .inl ⟨rfl, rfl, hfront.imp_left fun hnil => ?_⟩
    exact List.eq_nil_iff_forall_not_mem.mpr fun x hx =>
      (hwhole x hx).ne_nil (List.flatten_eq_nil_iff.mp hnil x hx)
  right
  simp only [List.flatten_append, List.flatten_cons, List.length_append]
  omega

/-! ## Agreement -/

/-- The first dot line, if there is one, is delimited as announced and ends a
message within the size limit; or no announced terminator occurs at all. -/
def TerminatorAgrees (maxSize : Nat) (data : Bytes) : Prop :=
  ∀ (lines : List Bytes) (d rest : Bytes), (∀ x ∈ lines, BodyLine x) → DotLine d →
    data = lines.flatten ++ d ++ rest →
      if (unstuffed lines).length ≤ maxSize then
        d = dotCrlf ∧ (lines = [] ∨ crlf <:+ lines.flatten)
      else ¬ dotCrlf <+: data ∧ ¬ crlf ++ dotCrlf <:+: data

section

variable (hbody : ∀ x ∈ lines, BodyLine x)

include hbody

theorem messageEnd_of_fits (hd : DotLine d)
    (hfit : (unstuffed lines).length ≤ maxSize) (rest : Bytes) :
    messageEnd maxSize (lines.flatten ++ d ++ rest) = some (lines.flatten.length + d.length) := by
  have hread := readData_message hbody hd hfit (sent rest)
  rw [← sent_append] at hread
  simp only [messageEnd, hread]
  simp only [sent, List.length_append, List.length_map]
  congr 1
  omega

theorem messageEnd_of_tooLarge (hover : maxSize < (unstuffed lines).length) (rest : Bytes) :
    messageEnd maxSize (lines.flatten ++ rest) = none := by
  obtain ⟨left, hread⟩ : ∃ left, readDataFrom maxSize [] (sent lines.flatten ++ sent rest) =
      (.error .tooLarge, left) :=
    readDataFrom_tooLarge hbody (Nat.zero_le maxSize) (by simpa using hover) (sent rest)
  rw [← sent_append] at hread
  simp only [messageEnd, readData, hread]

/-- Without a dot line the read fails: at the end of the stream, or before. -/
theorem messageEnd_of_unfinished {tail : Bytes}
    (htail : lf ∉ tail) : messageEnd maxSize (lines.flatten ++ tail) = none := by
  by_cases hfit : (unstuffed lines).length ≤ maxSize
  · simp only [messageEnd, readData_unfinished hbody hfit htail]
  · exact messageEnd_of_tooLarge hbody (by omega) tail

/-- Without a dot line there is no announced terminator either. -/
theorem not_announcedAt_of_unfinished {tail : Bytes}
    (htail : lf ∉ tail) : ¬ AnnouncedAt (lines.flatten ++ tail) k := by
  rintro ⟨front, back, hdata, hfront, _⟩
  obtain ⟨whole, hwhole, rfl⟩ := lines_of_front hfront
  have hno : (splitLines lf tail).1 = [] := by
    obtain ⟨hlines, _, hconcat⟩ := splitLines_spec lf tail
    apply List.eq_nil_iff_forall_not_mem.mpr
    intro x hx
    apply htail
    obtain ⟨body, _, rfl⟩ := hlines x hx
    rw [← hconcat]
    exact List.mem_append_left _ (List.mem_flatten.mpr ⟨_, hx, by simp⟩)
  have hsplit : lines = whole ++ dotCrlf :: (splitLines lf back).1 := by
    rw [← splitLines_of_lines hwhole dotLine_dotCrlf.1, ← hdata,
      splitLines_flatten_append (fun x hx => (hbody x hx).1), hno, List.append_nil]
  exact dotLine_dotCrlf.not_bodyLine (hbody dotCrlf (by simp [hsplit]))

end

theorem not_announced_iff :
    (∀ k, ¬ AnnouncedAt data k) ↔ ¬ dotCrlf <+: data ∧ ¬ crlf ++ dotCrlf <:+: data := by
  rw [← announcedEnd_eq_none_iff, announcedEnd]
  by_cases hinitial : dotCrlf <+: data
  · simp [hasPrefix_iff.mpr hinitial, hinitial]
  rw [if_neg (by rwa [hasPrefix_iff]), Option.map_eq_none_iff, index_eq_none_iff]
  exact ⟨fun hno => ⟨hinitial, hno⟩, fun hno => hno.2⟩

/-- The reader `readData` ends the message at the announced terminator, and nowhere else,
exactly on the streams whose first dot line is delimited as announced. -/
theorem messageEnd_eq_announcedEnd_iff (maxSize : Nat) (data : Bytes) :
    messageEnd maxSize data = announcedEnd data ↔ TerminatorAgrees maxSize data := by
  constructor
  · rintro hends lines d rest hbody hd rfl
    split
    · rename_i hfit
      rw [messageEnd_of_fits hbody hd hfit] at hends
      rcases announcedAt_of_lines hbody hd (announcedEnd_eq_some hends.symm) with
        ⟨_, hdot, hfront⟩ | hlt
      · exact ⟨hdot, hfront⟩
      · exact absurd hlt (Nat.lt_irrefl _)
    rw [List.append_assoc, messageEnd_of_tooLarge hbody (by omega), ← List.append_assoc] at hends
    exact not_announced_iff.mp (announcedEnd_eq_none_iff.mp hends.symm)
  · intro hagrees
    obtain ⟨lines, hbody, hcase⟩ := message_cases (sent data)
    rcases hcase with ⟨d, rest, hd, hdata⟩ | ⟨tail, htail, hdata | ⟨rest, hdata⟩⟩
    · have hbytes : data = lines.flatten ++ d ++ bytesOf rest := by
        simpa using congrArg bytesOf hdata
      have hthis := hagrees lines d _ hbody hd hbytes
      subst hbytes
      split at hthis
      · rename_i hfit
        obtain ⟨rfl, hfront⟩ := hthis
        -- The first dot line is announced, and no announced terminator ends earlier.
        have hat : AnnouncedAt (lines.flatten ++ dotCrlf ++ bytesOf rest)
            (lines.flatten.length + 3) :=
          ⟨lines.flatten, _, rfl, hfront.imp_left fun hnil => by simp [hnil], rfl⟩
        obtain ⟨j, hj, hend⟩ := announcedEnd_le hat
        rw [messageEnd_of_fits hbody hd hfit, hend]
        rcases announcedAt_of_lines hbody hd (announcedEnd_eq_some hend) with ⟨heq, _⟩ | hlt
        · rw [heq]
        have hthree : dotCrlf.length = 3 := rfl
        omega
      · rw [announcedEnd_eq_none_iff.mpr (not_announced_iff.mpr hthis), List.append_assoc,
          messageEnd_of_tooLarge hbody (by omega)]
    · have hbytes : data = lines.flatten ++ tail := by simpa using congrArg bytesOf hdata
      rw [hbytes, messageEnd_of_unfinished hbody htail]
      exact (announcedEnd_eq_none_iff.mpr fun k =>
        not_announcedAt_of_unfinished hbody htail).symm
    · have hmem : Input.deadline ∈ sent data := by simp [hdata]
      simp [sent] at hmem

/-- A dot between bare line feeds ends the message after 4 bytes for the server,
while the announced terminator ends after 10. -/
theorem messageEnd_ne_announcedEnd :
    messageEnd 100 (lit "a\n.\nb\r\n.\r\n") ≠ announcedEnd (lit "a\n.\nb\r\n.\r\n") := by
  have hbody : ∀ x ∈ [lit "a\n"], BodyLine x := by
    intro x hx
    obtain rfl := List.mem_singleton.mp hx
    exact ⟨⟨lit "a", by decide, rfl⟩, by decide⟩
  have hdot : DotLine (lit ".\n") := ⟨⟨dot, by decide, rfl⟩, by decide⟩
  have hdata : lit "a\n.\nb\r\n.\r\n" =
      [lit "a\n"].flatten ++ lit ".\n" ++ lit "b\r\n.\r\n" := by decide +kernel
  have hannounced : announcedEnd (lit "a\n.\nb\r\n.\r\n") = some 10 := by decide +kernel
  rw [hannounced, hdata, messageEnd_of_fits hbody hdot (by decide)]
  decide

end BurnerByte.Smtp
