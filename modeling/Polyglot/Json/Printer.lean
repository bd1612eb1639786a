import Polyglot.Decimal.Shortest
import Polyglot.Json.Value

/-!
# Writing values

Values are written without blanks, and the members of an object in the order in which the value has
them. In a string only quotes, backslashes and control characters are escaped.
-/

namespace Polyglot.Json

/-- Numbers are written out in full as long as their first digit stands from the fifth place after
the point to the sixteenth place before it. -/
def Number.layout : Decimal.Layout := ⟨-5, 15⟩

/-- A floating-point number shows that it is one by a point or an exponent. -/
def Number.writeReal (x : Float) : List Char :=
  let size := Decimal.Binary.ofBits x.toBits
  let sign := if x.toBits < 0x8000000000000000 then [] else ['-']
  sign ++ if size.significand = 0 then ['0', '.', '0'] else Number.layout.write size.shortest

def Number.write : Number → List Char
  | int n => (if n < 0 then ['-'] else []) ++ Decimal.digitsOf n.natAbs
  | real x => Number.writeReal x

/-- A hexadecimal digit, in lower case. -/
def hexDigit (n : Nat) : Char := Nat.digitChar n

/-- What stands for a character in a string. -/
def writeChar (c : Char) : List Char :=
  if c = '"' then ['\\', '"']
  else if c = '\\' then ['\\', '\\']
  else if c = '\x08' then ['\\', 'b']
  else if c = '\x0c' then ['\\', 'f']
  else if c = '\n' then ['\\', 'n']
  else if c = '\r' then ['\\', 'r']
  else if c = '\t' then ['\\', 't']
  else if c < ' ' then ['\\', 'u', '0', '0', hexDigit (c.toNat / 16), hexDigit (c.toNat % 16)]
  else [c]

def writeString (s : String) : List Char := '"' :: s.toList.flatMap writeChar ++ ['"']

namespace Value

mutual

def write : Value → List Char
  | null => ['n', 'u', 'l', 'l']
  | bool true => ['t', 'r', 'u', 'e']
  | bool false => ['f', 'a', 'l', 's', 'e']
  | number n => n.write
  | string s => writeString s
  | array [] => ['[', ']']
  | array (v :: vs) => '[' :: (v.write ++ writeItems vs)
  | object [] => ['{', '}']
  | object ((key, v) :: ms) => '{' :: (writeString key ++ ':' :: (v.write ++ writeMembers ms))

/-- The items after the first, with the closing bracket. -/
def writeItems : List Value → List Char
  | [] => [']']
  | v :: vs => ',' :: (v.write ++ writeItems vs)

/-- The members after the first, with the closing bracket. -/
def writeMembers : List (String × Value) → List Char
  | [] => ['}']
  | (key, v) :: ms => ',' :: (writeString key ++ ':' :: (v.write ++ writeMembers ms))

end

/-- The text of a value. -/
def text (v : Value) : String := .ofList v.write

/-- A whole number as a value. -/
def ofNat (n : Nat) : Value := .number (.int n)

/-- A string as a value, or null if there is none. -/
def ofString? : Option String → Value
  | some s => .string s
  | none => .null

end Value

end Polyglot.Json
