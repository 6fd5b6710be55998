import BurnerByte.Go.IPText

/-!
# Hosts with ports

`net.SplitHostPort` and `net.JoinHostPort`. A host with colons stands in brackets. A port that
was split off holds neither a colon nor a bracket, so joining it to the text of an address and
splitting again gives both back.
-/

namespace Go

def openBracket : UInt8 := 91
def closeBracket : UInt8 := 93

/-- The result of a split, unless `front` holds a `[` or `back` a `]`. -/
def checkBrackets (front back : Bytes) (parts : Bytes × Bytes) : Except String (Bytes × Bytes) :=
  if openBracket ∈ front then .error "unexpected '[' in address"
  else if closeBracket ∈ back then .error "unexpected ']' in address"
  else .ok parts

/-- Go's `net.SplitHostPort`. -/
def splitHostPort (s : Bytes) : Except String (Bytes × Bytes) :=
  if colon ∉ s then .error "missing port in address"
  else if s.head? = some openBracket then
    match s.tail.dropWhile (· ≠ closeBracket) with
    | [] => .error "missing ']' in address"
    | [_] => .error "missing port in address"
    | _ :: b :: port =>
      if b ≠ colon then .error "missing port in address"
      else if colon ∈ port then .error "too many colons in address"
      else checkBrackets s.tail (b :: port) (s.tail.takeWhile (· ≠ closeBracket), port)
  else
    -- the part before the last colon has no other one
    let port := (s.dropWhile (· ≠ colon)).tail
    if colon ∈ port then .error "too many colons in address"
    else checkBrackets s s (s.takeWhile (· ≠ colon), port)

/-- Go's `net.JoinHostPort`. -/
def joinHostPort (host port : Bytes) : Bytes :=
  if colon ∈ host then openBracket :: (host ++ closeBracket :: colon :: port)
  else host ++ colon :: port

/-- What a split-off port does not hold. -/
structure IsPort (port : Bytes) : Prop where
  no_colon : colon ∉ port
  no_open : openBracket ∉ port
  no_close : closeBracket ∉ port

variable {front back port : Bytes}

theorem checkBrackets_eq_ok {parts parts' : Bytes × Bytes}
    (h : checkBrackets front back parts = .ok parts') :
    openBracket ∉ front ∧ closeBracket ∉ back ∧ parts = parts' := by
  unfold checkBrackets at h
  split at h
  · cases h
  split at h
  · cases h
  rename_i hopen hclose
  exact ⟨hopen, hclose, Except.ok.inj h⟩

theorem isPort_of_splitHostPort {s host : Bytes} (h : splitHostPort s = .ok (host, port)) :
    IsPort port := by
  unfold splitHostPort at h
  split at h
  · cases h
  split at h
  · split at h
    · cases h
    · cases h
    rename_i bracket b back hback
    split at h
    · cases h
    split at h
    · cases h
    rename_i hcolon
    obtain ⟨hopen, hclose, heq⟩ := checkBrackets_eq_ok h
    obtain rfl : back = port := congrArg Prod.snd heq
    have hsuffix : back <:+ s.tail := by
      have hdrop := List.dropWhile_suffix (l := s.tail) fun c => decide (c ≠ closeBracket)
      rw [hback] at hdrop
      exact List.IsSuffix.trans ⟨[bracket, b], rfl⟩ hdrop
    exact ⟨hcolon, fun hmem => hopen (hsuffix.subset hmem),
      fun hmem => hclose (List.mem_cons_of_mem b hmem)⟩
  · dsimp only at h
    split at h
    · cases h
    rename_i hcolon
    obtain ⟨hopen, hclose, heq⟩ := checkBrackets_eq_ok h
    obtain rfl : (s.dropWhile (· ≠ colon)).tail = port := congrArg Prod.snd heq
    have hsuffix : (s.dropWhile (· ≠ colon)).tail <:+ s :=
      (List.tail_suffix _).trans (List.dropWhile_suffix _)
    exact ⟨hcolon, fun hmem => hopen (hsuffix.subset hmem),
      fun hmem => hclose (hsuffix.subset hmem)⟩

theorem span_ne_append {b : UInt8} (h : b ∉ front) :
    (front ++ b :: back).takeWhile (· ≠ b) = front ∧
      (front ++ b :: back).dropWhile (· ≠ b) = b :: back := by
  have hne : ∀ c ∈ front, decide (c ≠ b) = true := by
    intro c hc
    exact decide_eq_true fun heq => h (heq ▸ hc)
  rw [List.takeWhile_append_of_pos hne, List.dropWhile_append_of_pos hne]
  simp

theorem splitHostPort_joinHostPort {host : Bytes} (hport : IsPort port) (hopen : openBracket ∉ host)
    (hclose : closeBracket ∉ host) : splitHostPort (joinHostPort host port) = .ok (host, port) := by
  have hcheck : ∀ front back parts, openBracket ∉ front → closeBracket ∉ back →
      checkBrackets front back parts = .ok parts := by
    intro front back parts hfront hback
    rw [checkBrackets, if_neg hfront, if_neg hback]
  unfold joinHostPort
  split
  · have hmem : ¬ colon ∉ openBracket :: (host ++ closeBracket :: colon :: port) := by simp
    have hfront : openBracket ∉ host ++ closeBracket :: colon :: port := by
      simp [hopen, hport.no_open, show openBracket ≠ closeBracket by decide,
        show openBracket ≠ colon by decide]
    have hback : closeBracket ∉ colon :: port := by
      simp [hport.no_close, show closeBracket ≠ colon by decide]
    rw [splitHostPort, if_neg hmem, if_pos List.head?_cons, List.tail_cons,
      (span_ne_append hclose).2]
    simp only [(span_ne_append hclose).1, ne_eq, not_true_eq_false, if_false, hport.no_colon]
    exact hcheck _ _ _ hfront hback
  · rename_i hcolon
    have hmem : ¬ colon ∉ host ++ colon :: port := by simp
    have hfront : openBracket ∉ host ++ colon :: port := by
      simp [hopen, hport.no_open, show openBracket ≠ colon by decide]
    have hback : closeBracket ∉ host ++ colon :: port := by
      simp [hclose, hport.no_close, show closeBracket ≠ colon by decide]
    have hhead : (host ++ colon :: port).head? ≠ some openBracket :=
      fun h => hfront (List.mem_of_head? h)
    rw [splitHostPort, if_neg hmem, if_neg hhead, (span_ne_append hcolon).2,
      (span_ne_append hcolon).1, List.tail_cons]
    simp only [hport.no_colon, if_false]
    exact hcheck _ _ _ hfront hback

theorem bracket_ne_digitByte {d : Nat} (h : d < 16) :
    openBracket ≠ digitByte d ∧ closeBracket ≠ digitByte d := by
  revert d
  decide

/-- An address is written with dots, colons and digits. -/
theorem mem_string {ip : IP} {b : UInt8} (hb : b ∈ ip.string) :
    b = dot ∨ b = colon ∨ ∃ d < 16, b = digitByte d := by
  unfold IP.string at hb
  split at hb
  · exact (mem_ipv4Text hb).imp_right .inr
  · exact .inr (mem_ipv6Text hb)

/-- An address is written without brackets. -/
theorem brackets_not_mem_string (ip : IP) : openBracket ∉ ip.string ∧ closeBracket ∉ ip.string := by
  constructor <;> intro h <;> rcases mem_string h with hdot | hcolon | ⟨d, hd, hdigit⟩
  · exact absurd hdot (by decide)
  · exact absurd hcolon (by decide)
  · exact (bracket_ne_digitByte hd).1 hdigit
  · exact absurd hdot (by decide)
  · exact absurd hcolon (by decide)
  · exact (bracket_ne_digitByte hd).2 hdigit

example : splitHostPort (lit "[::1]:8080") = .ok (lit "::1", lit "8080") := by decide +kernel

end Go
