import Polyglot.Unicode.Property

/-!
# Assertions

An assertion accepts no character: it asks what stands on the two sides of a place in the text.
All assertions of the pattern language can be decided from the kind of the neighbours alone, and
there are only six kinds.
-/

namespace Polyglot.Pattern

open Polyglot.Unicode

/-- What stands on one side of a place: the end of the text or a character of some kind. -/
inductive Side where
  | edge
  | lineFeed
  | carriageReturn
  | asciiWord
  | otherWord
  | other
deriving DecidableEq, Inhabited

namespace Side

def ofChar (c : Char) : Side :=
  if c = '\n' then lineFeed
  else if c = '\r' then carriageReturn
  else if c.toNat < 128 then if c.isAlphanum || c = '_' then asciiWord else other
  else if wordSet.contains c then otherWord
  else other

/-- The side that a text shows to what stands before it. -/
def ofHead : List Char → Side
  | [] => edge
  | c :: _ => ofChar c

/-- The kinds, numbered from 0 to 5. -/
def index : Side → Nat
  | edge => 0
  | lineFeed => 1
  | carriageReturn => 2
  | asciiWord => 3
  | otherWord => 4
  | other => 5

/-- The kind with the given number. -/
def ofIndex : Nat → Side
  | 0 => edge
  | 1 => lineFeed
  | 2 => carriageReturn
  | 3 => asciiWord
  | 4 => otherWord
  | _ => other

@[simp] theorem ofIndex_index (s : Side) : ofIndex s.index = s := by cases s <;> rfl

theorem index_lt (s : Side) : s.index < 6 := by cases s <;> decide

/-- A character of a word, either of any script or in ASCII alone. -/
def isWord (unicode : Bool) : Side → Bool
  | asciiWord => true
  | otherWord => unicode
  | _ => false

end Side

/-- The places that a pattern can ask for. The flag of the word assertions tells whether words are
those of any script (`true`) or of ASCII letters, digits and underscores alone. -/
inductive Assertion where
  | textStart
  | textEnd
  | lineStart
  | lineEnd
  | crlfLineStart
  | crlfLineEnd
  | wordBoundary (unicode : Bool)
  | notWordBoundary (unicode : Bool)
  | wordStart (unicode : Bool)
  | wordEnd (unicode : Bool)
  | noWordBefore (unicode : Bool)
  | noWordAfter (unicode : Bool)
deriving DecidableEq, Inhabited

/-- The assertion is true between the two sides. A carriage return with a line feed after it is one
line end, and no line starts or ends inside it. -/
def Assertion.holds (before after : Side) : Assertion → Bool
  | textStart => before == .edge
  | textEnd => after == .edge
  | lineStart => before == .edge || before == .lineFeed
  | lineEnd => after == .edge || after == .lineFeed
  | crlfLineStart =>
    before == .edge || before == .lineFeed || (before == .carriageReturn && after != .lineFeed)
  | crlfLineEnd =>
    after == .edge || after == .carriageReturn || (after == .lineFeed && before != .carriageReturn)
  | wordBoundary u => before.isWord u != after.isWord u
  | notWordBoundary u => before.isWord u == after.isWord u
  | wordStart u => !before.isWord u && after.isWord u
  | wordEnd u => before.isWord u && !after.isWord u
  | noWordBefore u => !before.isWord u
  | noWordAfter u => !after.isWord u

end Polyglot.Pattern
