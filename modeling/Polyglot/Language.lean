import Polyglot.Text.Utf8
import Polyglot.Unicode.Lowercase

/-!
# Languages

A language has an identifier, a name for display and the file extensions that belong to it.
Extensions are compared in lower case, and only the last one of a file name counts.
-/

namespace Polyglot

structure Language where
  id : String
  name : String
  extensions : List String := []
deriving DecidableEq, Inhabited

/-- The language that is reported when nothing else is known. -/
def textId : String := "text"

/-- The bytes of identifiers: small letters, digits and `_`, `+`, `#`, `-`. -/
def isIdByte (b : UInt8) : Bool :=
  ('a'.toUInt8 ≤ b && b ≤ 'z'.toUInt8) || ('0'.toUInt8 ≤ b && b ≤ '9'.toUInt8) ||
    b == '_'.toUInt8 || b == '+'.toUInt8 || b == '#'.toUInt8 || b == '-'.toUInt8

/-- An identifier is a text of identifier bytes that is not empty. -/
def isLanguageId (id : String) : Bool :=
  let bytes := Text.bytesOf id
  !bytes.isEmpty && bytes.all isIdByte

/-- What follows the last dot, if there is a dot. -/
def afterLastDot (cs : List Char) : Option (List Char) :=
  match cs with
  | [] => none
  | c :: rest => (afterLastDot rest).orElse fun _ => if c = '.' then some rest else none

/-- The extension of a file name in lower case; empty when there is none. -/
def extensionOf (fileName : String) : String :=
  match afterLastDot fileName.toList with
  | none => ""
  | some cs => String.ofList (Unicode.lowercase cs)

/-- An extension as it is registered: without leading dots and in lower case. -/
def normalizeExtension (ext : String) : String :=
  String.ofList (Unicode.lowercase (ext.toList.dropWhile (· == '.')))

end Polyglot
