import Polyglot.Unicode.Property

/-!
# Quoted text

How an arbitrary text is shown inside a message: between double quotes, with every character that
could not be read on paper spelled out. Quotes and backslashes are escaped, so the end of the text
is never in doubt.
-/

namespace Polyglot.Text

open Polyglot.Unicode

/-- The digits of a code point in lower-case hexadecimal, without padding. -/
def hexDigits (n : Nat) : List Char := Nat.toDigits 16 n

/-- The character can be shown as it is: it leaves a mark of its own and does not join the
character before it. -/
def isShown (c : Char) : Bool :=
  !unprintable.contains c && !Property.graphemeExtend.contains c

/-- The characters that stand for one character of a quoted text. -/
def quotedChar (c : Char) : List Char :=
  match c with
  | '"' => ['\\', '"']
  | '\\' => ['\\', '\\']
  | '\n' => ['\\', 'n']
  | '\r' => ['\\', 'r']
  | '\t' => ['\\', 't']
  | '\x00' => ['\\', '0']
  | c => if isShown c then [c] else ['\\', 'u', '{'] ++ hexDigits c.toNat ++ ['}']

/-- The text between double quotes. -/
def quoted (s : String) : String :=
  String.ofList ('"' :: s.toList.flatMap quotedChar ++ ['"'])

end Polyglot.Text
