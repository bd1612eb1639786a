import Mathlib.Data.List.Forall2
import Polyglot.Proofs.Json.Spelling

/-!
# The grammar of documents

What a text has to be so that it is a document, whoever reads it: where blanks may stand, how
numbers and strings are written, and how the parts of arrays and objects follow one another.
`IsJson` holds of the texts of all values, however deep they nest, however large their numbers are
and whatever the escapes in their strings stand for.

The parts between two brackets are split into the first one and what follows it (`Following`), as a
reader meets them.
-/

namespace Polyglot.Json

open Polyglot.Text (Glyph glyphsOf)

/-! ## Blanks -/

/-- Characters that may stand between the parts of a document. -/
def IsBlanks (cs : List Char) : Prop := ∀ c ∈ cs, c = ' ' ∨ c = '\t' ∨ c = '\n' ∨ c = '\r'

theorem isBlanks_nil : IsBlanks [] := nofun

/-! ## Numbers -/

/-- The value of a digit. -/
def valueOf (c : Char) : Nat := c.toNat - 0x30

/-- One digit or more, with their values. -/
structure IsDigits (cs : List Char) (values : List Nat) : Prop where
  ne_nil : cs ≠ []
  isDigit : ∀ c ∈ cs, c.isDigit
  values : cs.map valueOf = values

/-- The digits before the point. A leading zero stands alone. -/
structure IsWhole (cs : List Char) (values : List Nat) : Prop extends IsDigits cs values where
  leading : cs.head? = some '0' → cs = ['0']

/-- A point with digits after it, or nothing. -/
inductive IsFraction : List Char → Option (List Nat) → Prop where
  | absent : IsFraction [] none
  | point {cs : List Char} {values : List Nat} : IsDigits cs values →
      IsFraction ('.' :: cs) (some values)

/-- The sign of an exponent, which is negative after a minus sign. -/
inductive IsSign : List Char → Bool → Prop where
  | absent : IsSign [] false
  | plus : IsSign ['+'] false
  | minus : IsSign ['-'] true

/-- An exponent, or nothing. -/
inductive IsExponent : List Char → Option (Bool × List Nat) → Prop where
  | absent : IsExponent [] none
  | mark {e : Char} {sign cs : List Char} {negative : Bool} {values : List Nat} :
      e = 'e' ∨ e = 'E' → IsSign sign negative → IsDigits cs values →
      IsExponent (e :: (sign ++ cs)) (some (negative, values))

/-- The text of a number. -/
inductive IsNumeral : List Char → Numeral → Prop where
  | intro {negative : Bool} {whole fraction exponent : List Char} {ds : List Nat}
      {ds' : Option (List Nat)} {e : Option (Bool × List Nat)} :
      IsWhole whole ds → IsFraction fraction ds' → IsExponent exponent e →
      IsNumeral ((if negative then ['-'] else []) ++ (whole ++ (fraction ++ exponent)))
        ⟨negative, ds, ds', e⟩

/-! ## Strings -/

/-- What stands between the quotes of a string. Each character is written as it is or by an escape,
and what the escapes stand for is not asked. -/
inductive IsBody : List Char → Prop where
  | nil : IsBody []
  | plain {c : Char} {cs : List Char} : c ≠ '"' → c ≠ '\\' → ¬c < ' ' → IsBody cs → IsBody (c :: cs)
  | short {e : Char} {cs : List Char} : (shortEscape? e).isSome → IsBody cs →
      IsBody ('\\' :: e :: cs)
  | number {digits cs : List Char} {unit : Nat} : IsUnit digits unit → IsBody cs →
      IsBody ('\\' :: 'u' :: (digits ++ cs))

/-- A string that stands for a text. -/
inductive IsString (s : String) : List Char → Prop where
  | intro {body : List Char} : Spelled body s.toList → IsString s ('"' :: (body ++ ['"']))

/-! ## Brackets -/

/-- What follows a part between brackets: other parts, each after a comma, and the closing
bracket. -/
inductive Following (closing : Char) : List (List Char) → List Char → Prop where
  | last {blanks : List Char} : IsBlanks blanks → Following closing [] (blanks ++ [closing])
  | next {before after part text : List Char} {parts : List (List Char)} : IsBlanks before →
      IsBlanks after → Following closing parts text →
      Following closing (part :: parts) (before ++ ',' :: (after ++ (part ++ text)))

/-- Parts between brackets, with commas between them. -/
inductive Bracketed (opening closing : Char) : List (List Char) → List Char → Prop where
  | empty {blanks : List Char} : IsBlanks blanks →
      Bracketed opening closing [] (opening :: (blanks ++ [closing]))
  | filled {blanks part text : List Char} {parts : List (List Char)} : IsBlanks blanks →
      Following closing parts text →
      Bracketed opening closing (part :: parts) (opening :: (blanks ++ (part ++ text)))

/-- A member of an object, of which the key is given by what stands between its quotes. -/
inductive IsMember (key value : List Char) : List Char → Prop where
  | intro {before after : List Char} : IsBlanks before → IsBlanks after →
      IsMember key value ('"' :: (key ++ '"' :: (before ++ ':' :: (after ++ value))))

/-! ## Values -/

/-- The text of a value. -/
inductive IsJson : List Char → Prop where
  | null : IsJson ['n', 'u', 'l', 'l']
  | true : IsJson ['t', 'r', 'u', 'e']
  | false : IsJson ['f', 'a', 'l', 's', 'e']
  | number {text : List Char} {n : Numeral} : IsNumeral text n → IsJson text
  | string {body : List Char} : IsBody body → IsJson ('"' :: (body ++ ['"']))
  | array {parts : List (List Char)} {text : List Char} : (∀ part ∈ parts, IsJson part) →
      Bracketed '[' ']' parts text → IsJson text
  | object {members : List (List Char × List Char)} {parts : List (List Char)} {text : List Char} :
      (∀ m ∈ members, IsBody m.1) → (∀ m ∈ members, IsJson m.2) →
      List.Forall₂ (fun m part => IsMember m.1 m.2 part) members parts →
      Bracketed '{' '}' parts text → IsJson text

/-- An object with members in this order, of which the keys and the texts of the values are
given. -/
def IsObject (members : List (String × List Char)) (text : List Char) : Prop :=
  ∃ parts, List.Forall₂ (fun m part => ∃ key, Spelled key m.1.toList ∧ IsMember key m.2 part)
    members parts ∧ Bracketed '{' '}' parts text

/-- An array of elements, of each of which it is known how it may be written. -/
def IsArray {α : Type} (Writes : α → List Char → Prop) (xs : List α) (text : List Char) : Prop :=
  ∃ parts, List.Forall₂ Writes xs parts ∧ Bracketed '[' ']' parts text

/-- A value, or the word for its absence. -/
inductive IsOptional {α : Type} (Writes : α → List Char → Prop) : Option α → List Char → Prop where
  | absent : IsOptional Writes none ['n', 'u', 'l', 'l']
  | present {x : α} {text : List Char} : Writes x text → IsOptional Writes (some x) text

/-- A text that holds one value and nothing else but blanks. -/
def IsDocument (Writes : List Char → Prop) (text : String) : Prop :=
  ∃ before value after, IsBlanks before ∧ Writes value ∧ IsBlanks after ∧
    text.toList = before ++ (value ++ after)

end Polyglot.Json
