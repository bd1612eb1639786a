/-!
# Settings

What the service is told when it starts, by named variables. A number that is not written properly,
or that is too large for its place, counts as not being set, and a text that is empty does too.
-/

namespace Polyglot

/-! ## Decimal numbers -/

/-- The value of a decimal digit. -/
def decimalDigit? (c : Char) : Option Nat :=
  if '0' ≤ c ∧ c ≤ '9' then some (c.toNat - '0'.toNat) else none

/-- The number, if there is room for it below the limit. -/
def below? (limit n : Nat) : Option Nat := if n < limit then some n else none

/-- The number with one more digit at its end. There has to be room for it when it has been moved by
a place, and again when the digit has been added. -/
def pushDigit? (limit value : Nat) (c : Char) : Option Nat :=
  (decimalDigit? c).bind fun d =>
    (below? limit (10 * value)).bind fun moved => below? limit (moved + d)

/-- The number that one digit or more stand for, if there is room for it. -/
def digitsBelow? (limit : Nat) (cs : List Char) : Option Nat :=
  if cs.isEmpty then none else cs.foldlM (pushDigit? limit) 0

/-- A decimal number below a limit: digits after a plus sign or without one. -/
def decimalBelow? (limit : Nat) (text : String) : Option Nat :=
  match text.toList with
  | '+' :: cs => digitsBelow? limit cs
  | cs => digitsBelow? limit cs

/-! ## The settings -/

structure Settings where
  port : Nat := 9731
  /-- The most bytes that a text may have. -/
  maxInputBytes : Nat := 1048576
  /-- The most texts that one request may hold. -/
  maxBatchItems : Nat := 256
  /-- The most bytes that the body of a request may have. -/
  maxBodyBytes : Nat := 8388608
  /-- The token that requests have to carry, if they have to carry one. -/
  authToken : Option String := none
  /-- The file of an overlay, if there is one. -/
  overlayPath : Option String := none
deriving DecidableEq, Inhabited

namespace Settings

/-- The address at which the service listens. -/
def listenAddress (s : Settings) : String := "127.0.0.1:" ++ toString s.port

/-- The number below a limit that a variable is set to, or the preset one. -/
def numberOr (preset limit : Nat) (given : Option String) : Nat :=
  (given.bind (decimalBelow? limit)).getD preset

/-- The text that a variable is set to, unless it is empty. -/
def textOf? (given : Option String) : Option String := given.filter (· ≠ "")

/-- The settings by the variables that are set. -/
def ofVariables (lookup : String → Option String) : Settings :=
  let preset : Settings := {}
  { port := numberOr preset.port UInt16.size (lookup "CODELANG_PORT")
    maxInputBytes :=
      numberOr preset.maxInputBytes UInt64.size (lookup "CODELANG_MAX_INPUT_BYTES")
    maxBatchItems := numberOr preset.maxBatchItems UInt64.size (lookup "CODELANG_MAX_BATCH")
    maxBodyBytes := numberOr preset.maxBodyBytes UInt64.size (lookup "CODELANG_MAX_BODY_BYTES")
    authToken := textOf? (lookup "CODELANG_AUTH_TOKEN")
    overlayPath := textOf? (lookup "CODELANG_CATALOG") }

end Settings

end Polyglot
