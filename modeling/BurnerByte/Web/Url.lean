import Mathlib.Data.List.DropRight

/-!
# References in a web page

How a browser resolves a reference that begins with a slash against the address of an `http` or
`https` page, by the rules of the WHATWG URL standard. White space at the ends is cut off, tabs and
newlines are removed wherever they stand, and a backslash is as good as a slash. Two slashes lead to
an authority with a host of its own; otherwise the host is that of the page.

A text is a sequence of UTF-16 code units. Only the origin of the result is computed: no path,
query or fragment makes the parser fail. The parser of hosts is a parameter.
-/

namespace Url

/-- A JavaScript string. -/
abbrev Text := List UInt16

/-- An ASCII literal. -/
def text (s : String) : Text := s.toList.map fun c => c.toNat.toUInt16

inductive Scheme where
  | http
  | https
  deriving DecidableEq

def Scheme.defaultPort : Scheme → Nat
  | http => 80
  | https => 443

/-- The origin of a URL. The host is in its serialized form. -/
structure Origin where
  scheme : Scheme
  host : Text
  port : Option Nat
  deriving DecidableEq

/-- A page's address, as far as its origin goes. The default port is not written. -/
structure Page extends Origin where
  port_ok : ∀ p ∈ port, p < 65536 ∧ p ≠ scheme.defaultPort

theorem no_port_ok (scheme : Scheme) :
    ∀ p ∈ (none : Option Nat), p < 65536 ∧ p ≠ scheme.defaultPort :=
  fun p hp => absurd hp (Option.not_mem_none p)

def isSlash (c : UInt16) : Bool := c = 47 || c = 92

def isC0ControlOrSpace (c : UInt16) : Bool := c ≤ 32

def isTabOrNewline (c : UInt16) : Bool := c = 9 || c = 10 || c = 13

/-- What ends an authority: a slash, `?` or `#`. -/
def isTerminator (c : UInt16) : Bool := isSlash c || c = 63 || c = 35

/-- The input that the states read. -/
def clean (input : Text) : Text :=
  ((input.dropWhile isC0ControlOrSpace).rdropWhile isC0ControlOrSpace).filter
    fun c => !isTabOrNewline c

/-! ## The states of the parser -/

section

variable (parseHost : Text → Option Text)

/-- The port. The scheme's default port is none. -/
def portState (scheme : Scheme) (input : Text) : Option (Option Nat) :=
  if input.all fun c => 48 ≤ c && c ≤ 57 then
    let port := input.foldl (fun n c => n * 10 + (c.toNat - 48)) 0
    if input = [] ∨ port = scheme.defaultPort then some none
    else if port < 65536 then some (some port)
    else none
  else none

/-- The text up to a colon outside brackets, and what follows it. -/
def hostState (insideBrackets : Bool) : Text → Text × Text
  | [] => ([], [])
  | c :: input =>
    if c = 58 ∧ insideBrackets = false then ([], input)
    else
      let inside := if c = 91 then true else if c = 93 then false else insideBrackets
      let (host, port) := hostState inside input
      (c :: host, port)

/-- The host is what follows the last `@`, and must not be empty. -/
def authorityState (scheme : Scheme) (input : Text) : Option Origin :=
  let authority := input.takeWhile fun c => !isTerminator c
  let (host, port) := hostState false (authority.rtakeWhile (· ≠ 64))
  if host = [] then none
  else
    match parseHost host, portState scheme port with
    | some host, some port => some ⟨scheme, host, port⟩
    | _, _ => none

def specialAuthorityIgnoreSlashesState (scheme : Scheme) (input : Text) : Option Origin :=
  authorityState parseHost scheme (input.dropWhile isSlash)

def relativeSlashState (page : Page) : Text → Option Origin
  | [] => some page.toOrigin
  | c :: input =>
    if isSlash c then specialAuthorityIgnoreSlashesState parseHost page.scheme input
    else some page.toOrigin

/-- The origin of a reference that begins with a slash. Other references, which may begin with a
scheme, are not treated. -/
def resolve (page : Page) (reference : Text) : Option Origin :=
  match clean reference with
  | [] => none
  | c :: input => if isSlash c then relativeSlashState parseHost page input else none

end

/-! ## What decides the origin -/

/-- With tabs and newlines removed, a slash comes first. -/
def beginsWithSlash (input : Text) : Bool :=
  (input.filter fun c => !isTabOrNewline c).head?.any isSlash

variable {c : UInt16}

theorem not_space_of_isSlash (h : isSlash c = true) :
    isC0ControlOrSpace c = false ∧ isTabOrNewline c = false := by
  simp only [isSlash, Bool.or_eq_true, decide_eq_true_eq] at h
  rcases h with rfl | rfl <;> decide

/-- White space at the end hides no slash. -/
theorem beginsWithSlash_rdropWhile (input : Text) :
    beginsWithSlash (input.rdropWhile isC0ControlOrSpace) = beginsWithSlash input := by
  have hspace : ∀ c ∈ input.rtakeWhile isC0ControlOrSpace, isSlash c = false := by
    intro c hc
    rw [Bool.eq_false_iff]
    intro hslash
    have hdropped := List.mem_rtakeWhile_imp hc
    rw [(not_space_of_isSlash hslash).1] at hdropped
    cases hdropped
  conv_rhs => rw [← @List.rdropWhile_append_rtakeWhile _ isC0ControlOrSpace input]
  unfold beginsWithSlash
  rw [List.filter_append, List.head?_append]
  cases (input.rdropWhile isC0ControlOrSpace).filter (fun c => !isTabOrNewline c) with
  | cons c rest => rfl
  | nil =>
    -- nothing is left in front: what follows is white space, not a slash
    cases hhead :
        ((input.rtakeWhile isC0ControlOrSpace).filter fun c => !isTabOrNewline c).head? with
    | none => rfl
    | some c => exact (hspace c (List.mem_of_mem_filter (List.mem_of_head? hhead))).symm

theorem rdropWhile_cons {p : UInt16 → Bool} (hc : p c = false) (input : Text) :
    (c :: input).rdropWhile p = c :: input.rdropWhile p := by
  induction input using List.reverseRecOn with
  | nil => rw [List.rdropWhile_singleton, if_neg (Bool.eq_false_iff.mp hc), List.rdropWhile_nil]
  | append_singleton front d ih =>
    rw [← List.cons_append, List.rdropWhile_concat, List.rdropWhile_concat]
    split
    · exact ih
    · rfl

theorem clean_slash (hc : isSlash c = true) (input : Text) :
    clean (c :: input) =
      c :: (input.rdropWhile isC0ControlOrSpace).filter fun c => !isTabOrNewline c := by
  obtain ⟨hspace, htab⟩ := not_space_of_isSlash hc
  rw [clean, List.dropWhile_cons_of_neg (Bool.eq_false_iff.mp hspace), rdropWhile_cons hspace,
    List.filter_cons_of_pos (by rw [htab]; rfl)]

/-- A reference that begins with one slash keeps the page's origin. One that begins with two takes
the page's scheme only. -/
theorem resolve_slash (parseHost : Text → Option Text) (page : Page) (hc : isSlash c = true)
    (input : Text) :
    resolve parseHost page (c :: input) =
      if beginsWithSlash input then
        specialAuthorityIgnoreSlashesState parseHost page.scheme
          ((input.rdropWhile isC0ControlOrSpace).filter fun c => !isTabOrNewline c).tail
      else some page.toOrigin := by
  rw [resolve, clean_slash hc, ← beginsWithSlash_rdropWhile input, beginsWithSlash]
  simp only [if_pos hc]
  cases (input.rdropWhile isC0ControlOrSpace).filter fun c => !isTabOrNewline c <;> rfl

example : resolve some ⟨⟨.https, text "app.test", none⟩, no_port_ok _⟩ (text "/\t/evil.test:443/x")
    = some ⟨.https, text "evil.test", none⟩ := by
  decide +kernel

end Url
