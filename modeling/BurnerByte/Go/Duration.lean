import Mathlib.Algebra.Group.Nat.Defs

/-!
# Durations

Go's `time.ParseDuration`. A duration is counted in nanoseconds. Its text is a sequence of decimal
numbers with a unit each, such as `300ms` or `2h45m`, perhaps after a sign. What cannot be read, or
does not fit into 64 bits, is refused. The fraction of a number is cut off below a nanosecond.
-/

namespace Go

def millisecond : Int := 1000000

def second : Int := 1000 * millisecond

def minute : Int := 60 * second

def hour : Int := 60 * minute

def unitMap : List (String × Nat) :=
  [("ns", 1), ("us", 1000), ("µs", 1000), ("μs", 1000), ("ms", 1000000), ("s", 1000000000),
    ("m", 60000000000), ("h", 3600000000000)]

def digitOf (c : Char) : Nat := c.toNat - '0'.toNat

/-- Go's `leadingInt`: the number and the rest, if the number fits. -/
def leadingInt (s : List Char) : Option (Nat × List Char) :=
  let x := (s.takeWhile Char.isDigit).foldl (fun x c => x * 10 + digitOf c) 0
  if 2 ^ 63 < x then none else some (x, s.dropWhile Char.isDigit)

structure Fraction where
  x : Nat
  scale : Nat
  overflow : Bool

/-- One turn of the loop of Go's `leadingFraction`. -/
def Fraction.digit (f : Fraction) (c : Char) : Fraction :=
  if f.overflow then f
  else if (2 ^ 63 - 1) / 10 < f.x then { f with overflow := true }
  else
    let y := f.x * 10 + digitOf c
    if 2 ^ 63 < y then { f with overflow := true } else { f with x := y, scale := f.scale * 10 }

/-- Go's `leadingFraction`: digits that do not fit are left out. -/
def leadingFraction (s : List Char) : Nat × Nat × List Char :=
  let f := (s.takeWhile Char.isDigit).foldl Fraction.digit ⟨0, 1, false⟩
  (f.x, f.scale, s.dropWhile Char.isDigit)

def startsNumber (c : Char) : Bool := c == '.' || c.isDigit

/-- The part of a number behind the period. -/
def fractionPart : List Char → Nat × Nat × Bool × List Char
  | '.' :: s =>
    let (f, scale, rest) := leadingFraction s
    (f, scale, s.length ≠ rest.length, rest)
  | s => (0, 1, false, s)

/-- One number with its unit, and the rest. -/
def parsePart (s : List Char) : Option (Nat × List Char) := do
  let (v, s₁) ← leadingInt s
  let (f, scale, post, s₂) := fractionPart s₁
  if s.length = s₁.length ∧ post = false then none
  else
    let unit ← unitMap.lookup (String.ofList (s₂.takeWhile fun c => !startsNumber c))
    if 2 ^ 63 / unit < v then none
    else
      let v := v * unit + f * unit / scale
      if 2 ^ 63 < v then none else some (v, s₂.dropWhile fun c => !startsNumber c)

/-- The loop over the parts. Each of them is at least one character long. -/
def parseParts : Nat → List Char → Nat → Option Nat
  | _, [], d => some d
  | 0, _ :: _, _ => none
  | fuel + 1, c :: s, d =>
    if !startsNumber c then none
    else
      match parsePart (c :: s) with
      | none => none
      | some (v, rest) => if 2 ^ 63 < d + v then none else parseParts fuel rest (d + v)

def splitSign : List Char → Bool × List Char
  | '-' :: s => (true, s)
  | '+' :: s => (false, s)
  | s => (false, s)

def parseDuration (text : String) : Option Int :=
  let (neg, s) := splitSign text.toList
  if s = ['0'] then some 0
  else if s = [] then none
  else
    match parseParts s.length s 0 with
    | none => none
    | some d =>
      if neg then some (-(d : Int)) else if 2 ^ 63 - 1 < d then none else some (d : Int)

theorem parseDuration_empty : parseDuration "" = none := by decide

example : parseDuration "1h2.5m" = some (62 * minute + 30 * second) := by decide +kernel

example : parseDuration "0s" = some 0 ∧ parseDuration "-1.5h" = some (-90 * minute) ∧
    parseDuration "5" = none ∧ parseDuration ".s" = none := by decide +kernel

end Go
