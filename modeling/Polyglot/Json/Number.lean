import Polyglot.Json.Lexeme

/-!
# Numbers

A number is written as a decimal. Whole numbers of 64 bits are kept as they are; every other number
is rounded to a floating-point number, and one that is too large for that is refused.

The rounding takes as many of the digits as fit into 64 bits for a whole number, and scales it by a
power of ten. It so rounds once for the whole number and once for each step of the scaling.
-/

namespace Polyglot.Json

open Polyglot.Text (Glyph)

/-- A decimal as it is written. Digits are given by their values. -/
structure Numeral where
  negative : Bool
  whole : List Nat
  /-- The digits after the point, if there is a point. -/
  fraction : Option (List Nat)
  /-- The sign of the exponent and its digits, if there is an exponent. -/
  exponent : Option (Bool × List Nat)
deriving DecidableEq, Inhabited

/-- What a document can hold as a number. -/
inductive Number where
  | int (n : Int)
  | real (x : Float)
deriving Inhabited

/-! ## Reading -/

def isDigit : Glyph → Bool
  | .char c => c.isDigit
  | .stray _ => false

def digitValue : Glyph → Nat
  | .char c => c.toNat - 0x30
  | .stray _ => 0

/-- The digits at the front and what comes after them. -/
def digits (input : Input) : List Nat × Input :=
  ((input.takeWhile isDigit).map digitValue, input.dropWhile isDigit)

/-- One digit or more. -/
def someDigits : Reader (List Nat) := fun input =>
  match digits input with
  | ([], []) => .error .truncated
  | ([], _ :: _) => .error .malformed
  | (ds, rest) => .ok (ds, rest)

/-- The digits before the point. A leading zero stands alone. -/
def wholePart : Reader (List Nat) := fun input => do
  match ← someDigits input with
  | (0 :: _ :: _, _) => .error .malformed
  | found => .ok found

def fractionPart : Reader (Option (List Nat))
  | .char '.' :: rest => do
    let (ds, rest) ← someDigits rest
    .ok (some ds, rest)
  | input => .ok (none, input)

/-- The digits of an exponent after its sign, if it has a sign. -/
def signedDigits : Reader (Bool × List Nat) := fun input => do
  let (negative, input) := match input with
    | .char '-' :: rest => (true, rest)
    | .char '+' :: rest => (false, rest)
    | _ => (false, input)
  let (ds, rest) ← someDigits input
  .ok ((negative, ds), rest)

def exponentPart : Reader (Option (Bool × List Nat))
  | .char 'e' :: rest | .char 'E' :: rest => do
    let (exponent, rest) ← signedDigits rest
    .ok (some exponent, rest)
  | input => .ok (none, input)

/-- The number starts with a minus sign or a digit. -/
def startsNumber : Glyph → Bool
  | .char c => c == '-' || c.isDigit
  | .stray _ => false

def numeral : Reader Numeral := fun input => do
  let (negative, input) := match input with
    | .char '-' :: rest => (true, rest)
    | _ => (false, input)
  let (whole, rest) ← wholePart input
  let (fraction, rest) ← fractionPart rest
  let (exponent, rest) ← exponentPart rest
  .ok (⟨negative, whole, fraction, exponent⟩, rest)

/-! ## Values -/

/-- The number that a list of digits stands for. -/
def ofDigits (ds : List Nat) : Nat := ds.foldl (10 * · + ·) 0

/-- The largest whole number of 64 bits. -/
def maxSignificand : Nat := UInt64.size - 1

/-- Digits that have been taken into a significand, and how often it has to be multiplied by ten. A
significand that is full takes no more digits. -/
structure Scaled where
  significand : Nat := 0
  exponent : Int := 0
  full : Bool := false
deriving DecidableEq, Inhabited

/-- Takes a digit, which changes the exponent by `taken`, or drops it, which changes the exponent by
`dropped`. -/
def Scaled.push (taken dropped : Int) (s : Scaled) (d : Nat) : Scaled :=
  let next := 10 * s.significand + d
  if s.full || maxSignificand < next then { s with exponent := s.exponent + dropped, full := true }
  else { s with significand := next, exponent := s.exponent + taken }

/-- The digits of a numeral without its exponent. The first digit after the point has another chance
to be taken if digits before the point have been dropped. -/
def Numeral.scaled (n : Numeral) : Scaled :=
  let whole := n.whole.foldl (Scaled.push 0 1) {}
  (n.fraction.getD []).foldl (Scaled.push (-1) 0) { whole with full := false }

/-- The floating-point number ten to the `k`, for `k` up to 308. -/
def powerOfTen (k : Nat) : Float := .ofScientific 1 false k

/-- The largest power of ten that is a floating-point number. -/
def maxPower : Nat := 308

/-- Divides a number by ten to the `k`, by the largest power as long as `k` is beyond it. -/
def scaleDown (x : Float) (k : Nat) : Float :=
  if k ≤ maxPower then x / powerOfTen k
  else if x == 0 then x
  else scaleDown (x / powerOfTen maxPower) (k - maxPower)
termination_by k
decreasing_by simp only [maxPower] at *; omega

/-- Multiplies a number by ten to the `k`, unless the product is too large. -/
def scaleUp? (x : Float) (k : Nat) : Option Float :=
  if k ≤ maxPower then
    let product := x * powerOfTen k
    if product.isInf then none else some product
  else if x == 0 then some x
  else none

/-- The largest exponent that is worked out. Beyond it a number is zero or too large. -/
def maxExponent : Nat := 0x7fffffff

/-- An exponent of 32 bits, which stays at the ends of its range. -/
def clampExponent (e : Int) : Int := max (-maxExponent - 1) (min e maxExponent)

/-- The floating-point number of a numeral without its sign, unless it is too large. -/
def Numeral.magnitude? (n : Numeral) : Option Float :=
  let s := n.scaled
  let x := s.significand.toUInt64.toFloat
  let scale (e : Int) := if e < 0 then some (scaleDown x e.natAbs) else scaleUp? x e.natAbs
  match n.exponent with
  | none => scale s.exponent
  | some (negative, ds) =>
    let e := ofDigits ds
    if maxExponent < e then if s.significand = 0 || negative then some 0 else none
    else scale (clampExponent (s.exponent + if negative then -(e : Int) else e))

/-- The number that a numeral stands for, unless it is too large. A negative zero is not a whole
number. -/
def Numeral.number? (n : Numeral) : Option Number :=
  let asReal := n.magnitude?.map fun x => Number.real (if n.negative then -x else x)
  match n.fraction, n.exponent with
  | none, none =>
    let value := ofDigits n.whole
    if n.negative then
      if 0 < value && value ≤ 0x8000000000000000 then some (.int (-value)) else asReal
    else if value ≤ maxSignificand then some (.int value)
    else asReal
  | _, _ => asReal

/-- A number, which starts here. -/
def number : Reader Number := fun input => do
  let (n, rest) ← numeral input
  match n.number? with
  | some value => .ok (value, rest)
  | none => .error .malformed

/-- Passes over a number, whatever its size. That it ends too early does not count as an end of the
document here. -/
def skipNumber (input : Input) : Except Fault Input :=
  match numeral input with
  | .ok (_, rest) => .ok rest
  | .error _ => .error .malformed

end Polyglot.Json
