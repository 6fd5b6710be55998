import BurnerByte.Go.IPText

/-!
# Addresses with Go's `net/mail`

`mail.ParseAddress` reads one address of RFC 5322. It accepts far more than a bare
`local@domain`: a display name with the address in angle brackets, comments, quoted
local parts, domain literals and a group with one member. What it returns is the
address alone, without any of these. The text is a list of runes; whoever calls it
has decoded the text from JSON, which is always valid UTF-8. Error texts are left
out, since no caller looks at them.

Each `consume` function returns what it has read and the rest of the text.
-/

namespace Go.Mail

/-- The text that is still to be read. -/
abbrev Text := List Char

/-! ## Runes -/

/-- Visible characters, and everything outside ASCII. -/
def isVchar (c : Char) : Bool := (33 ≤ c.toNat && c.toNat ≤ 126) || 128 ≤ c.toNat

def isWSP (c : Char) : Bool := c = ' ' || c = '\t'

/-- The characters that never stand in an atom. -/
def specials : List Char := ['(', ')', '<', '>', '[', ']', ':', ';', '@', '\\', ',', '"']

/-- Characters of a dot-atom. -/
def isAtext (c : Char) : Bool := c = '.' || (!specials.contains c && isVchar c)

def isQtext (c : Char) : Bool := c ≠ '\\' && c ≠ '"' && isVchar c

def isDtext (c : Char) : Bool := c ≠ '[' && c ≠ ']' && c ≠ '\\' && isVchar c

def isDigit (c : Char) : Bool := '0' ≤ c && c ≤ '9'

def isHex (c : Char) : Bool := isDigit c || ('a' ≤ c && c ≤ 'f') || ('A' ≤ c && c ≤ 'F')

/-! ## Encoded words -/

def isBase64Digit (c : Char) : Bool :=
  isDigit c || ('a' ≤ c && c ≤ 'z') || ('A' ≤ c && c ≤ 'Z') || c = '+' || c = '/'

/-- Padded text that `base64.StdEncoding` decodes. -/
def isBase64 : Text → Bool
  | [] => true
  | [a, b, '=', '='] => isBase64Digit a && isBase64Digit b
  | [a, b, c, '='] => isBase64Digit a && isBase64Digit b && isBase64Digit c
  | a :: b :: c :: d :: t =>
    isBase64Digit a && isBase64Digit b && isBase64Digit c && isBase64Digit d && isBase64 t
  | _ => false

/-- Text that `mime` decodes from the Q encoding. -/
def isQEncoded : Text → Bool
  | [] => true
  | '=' :: a :: b :: t => isHex a && isHex b && isQEncoded t
  | '=' :: _ => false
  | c :: t =>
    ((32 ≤ c.toNat && c.toNat ≤ 126) || c = '\n' || c = '\r' || c = '\t') && isQEncoded t

def decodable (encoding : Char) (text : Text) : Bool :=
  if encoding = 'B' || encoding = 'b' then isBase64 (text.filter fun c => c ≠ '\r' && c ≠ '\n')
  else if encoding = 'Q' || encoding = 'q' then isQEncoded text
  else false

/-- The test `strings.EqualFold` against one of the charsets that `mime` knows; of
their letters, only `s` has a folding outside ASCII. -/
def knownCharset (charset : Text) : Bool :=
  let folded := charset.map fun c => if c = 'ſ' then 's' else c.toLower
  folded = "utf-8".toList || folded = "iso-8859-1".toList || folded = "us-ascii".toList

/-- Whether `decodeRFC2047Word` reports an error: the word is a well-formed encoded word
in a charset that `mime` does not know. -/
def unknownCharset (word : Text) : Bool :=
  match word.splitOn '?' with
  | [['='], charset, [encoding], text, ['=']] =>
    !charset.isEmpty && decodable encoding text && !knownCharset charset
  | _ => false

/-! ## Spaces and comments -/

def skipSpace (s : Text) : Text := s.dropWhile isWSP

/-- The text of a comment whose opening parenthesis is read already, at a depth. -/
def consumeComment : Nat → Text → Option (Text × Text)
  | 0, s => some ([], s)
  | _ + 1, [] => none
  | depth + 1, '\\' :: c :: t =>
    (consumeComment (depth + 1) t).map fun r => (c :: r.1, r.2)
  | depth + 1, '(' :: t => (consumeComment (depth + 2) t).map fun r => ('(' :: r.1, r.2)
  | depth + 1, ')' :: t =>
    (consumeComment depth t).map fun r => (if depth = 0 then r.1 else ')' :: r.1, r.2)
  | depth + 1, c :: t => (consumeComment (depth + 1) t).map fun r => (c :: r.1, r.2)

/-- Skip spaces and comments. The first argument bounds the comments. -/
def skipComments : Nat → Text → Option Text
  | 0, s => some (skipSpace s)
  | rounds + 1, s =>
    match skipSpace s with
    | '(' :: t =>
      match consumeComment 1 t with
      | none => none
      | some (_, rest) => skipComments rounds rest
    | t => some t

/-- Skip spaces and comments, of which there are fewer than characters. -/
def skipCFWS (s : Text) : Option Text := skipComments s.length s

/-! ## Words -/

/-- The rest of a quoted string behind its opening quote; the flag is set behind a
backslash. -/
def consumeQuoted : Bool → Text → Option (Text × Text)
  | _, [] => none
  | true, c :: t =>
    if isVchar c || isWSP c then (consumeQuoted false t).map fun r => (c :: r.1, r.2) else none
  | false, c :: t =>
    if isQtext c || isWSP c then (consumeQuoted false t).map fun r => (c :: r.1, r.2)
    else if c = '"' then some ([], t)
    else if c = '\\' then consumeQuoted true t
    else none

/-- A nonempty run of atom characters and dots. -/
def consumeAtom (s : Text) : Option (Text × Text) :=
  let atom := s.takeWhile isAtext
  if atom.isEmpty then none else some (atom, s.dropWhile isAtext)

def hasDoubleDot : Text → Bool
  | '.' :: '.' :: _ => true
  | _ :: t => hasDoubleDot t
  | [] => false

/-- An atom with no dot at its ends and no two dots in a row. -/
def consumeDotAtom (s : Text) : Option (Text × Text) :=
  match consumeAtom s with
  | none => none
  | some (atom, rest) =>
    if atom.head? = some '.' || hasDoubleDot atom || atom.getLast? = some '.' then none
    else some (atom, rest)

/-- The words of a display name. An error after the first word ends the phrase. -/
def consumePhrase : Nat → Bool → Text → Option Text
  | 0, _, s => some s
  | rounds + 1, found, s =>
    match if found then skipCFWS s else some s with
    | none => none
    | some s =>
      match skipSpace s with
      | [] => some []
      | '"' :: t =>
        match consumeQuoted false t with
        | none => if found then some ('"' :: t) else none
        | some (_, rest) => consumePhrase rounds true rest
      | s =>
        match consumeAtom s with
        | none => if found then some s else none
        | some (word, rest) =>
          if unknownCharset word then if found then some rest else none
          else consumePhrase rounds true rest

/-! ## Addresses -/

def consumeLocalPart (s : Text) : Option (Text × Text) :=
  match s with
  | '"' :: t =>
    match consumeQuoted false t with
    | some (c :: localPart, rest) => some (c :: localPart, rest)
    | _ => none
  | _ => consumeDotAtom s

def consumeDomainLiteral (s : Text) : Option (Text × Text) :=
  let dtext := s.takeWhile isDtext
  match s.dropWhile isDtext with
  | ']' :: rest =>
    if (parseIP (lit (String.ofList dtext))).isSome then some ('[' :: dtext ++ [']'], rest)
    else none
  | _ => none

def consumeDomain (s : Text) : Option (Text × Text) :=
  match s with
  | '[' :: t => consumeDomainLiteral t
  | _ => consumeDotAtom s

/-- The address, with its local part unquoted. Spaces may stand before either part. -/
def consumeAddrSpec (s : Text) : Option (Text × Text) :=
  match consumeLocalPart (skipSpace s) with
  | some (localPart, '@' :: t) =>
    (consumeDomain (skipSpace t)).map fun r => (localPart ++ '@' :: r.1, r.2)
  | _ => none

/-- A comment behind a bare address, which is taken for its display name. -/
def consumeDisplayNameComment (s : Text) : Option Text :=
  match consumeComment 1 s with
  | none => none
  | some (comment, rest) =>
    if (comment.splitOnP isWSP).any unknownCharset then none else some rest

/-- An address, with the display name and the angle brackets it may have. The argument
`group` reads what follows a display name and a colon. -/
def parseAddressWith (group : Text → Option (List Text × Text)) (s : Text) :
    Option (List Text × Text) :=
  match skipSpace s with
  | [] => none
  | s =>
    match consumeAddrSpec s with
    | some (spec, rest) =>
      match skipSpace rest with
      | '(' :: t => (consumeDisplayNameComment t).map fun rest => ([spec], rest)
      | rest => some ([spec], rest)
    | none =>
      match if s.head? = some '<' then some s else consumePhrase (s.length + 1) false s with
      | none => none
      | some s =>
        match skipSpace s with
        | ':' :: t => group t
        | '<' :: t =>
          match consumeAddrSpec t with
          | some (spec, '>' :: rest) => some ([spec], rest)
          | _ => none
        | _ => none

/-- The members of a group, which are no groups themselves. -/
def consumeGroupMembers : Nat → Text → Option (List Text × Text)
  | 0, _ => none
  | rounds + 1, s =>
    match parseAddressWith (fun _ => none) (skipSpace s) with
    | none => none
    | some (addrs, rest) =>
      match skipCFWS rest with
      | some (';' :: t) => (skipCFWS t).map fun rest => (addrs, rest)
      | some (',' :: t) =>
        (consumeGroupMembers rounds t).map fun r => (addrs ++ r.1, r.2)
      | _ => none

def consumeGroupList (s : Text) : Option (List Text × Text) :=
  match skipSpace s with
  | ';' :: t => (skipCFWS t).map fun rest => ([], rest)
  | t => consumeGroupMembers (t.length + 1) t

/-- Go's `mail.ParseAddress`: the address that the text denotes, if it is one. -/
def parseAddress (s : String) : Option String :=
  match parseAddressWith consumeGroupList s.toList with
  | some ([addr], rest) => if skipCFWS rest = some [] then some (String.ofList addr) else none
  | _ => none

end Go.Mail
