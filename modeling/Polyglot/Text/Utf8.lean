/-!
# UTF-8

A string of bytes is read from the left as a list of glyphs: the characters that it encodes, and the
bytes that belong to no character. A text is well encoded if it has no stray bytes.

Where every byte string has to give some text, stray bytes are replaced. A broken encoding is
replaced once for each longest part that could have begun a character.
-/

namespace Polyglot.Text

/-- The bytes of a text. -/
def bytesOf (s : String) : List UInt8 := s.toUTF8.data.toList

/-- A piece of a byte string. -/
inductive Glyph where
  | char (c : Char)
  /-- A byte that is no part of an encoded character. -/
  | stray (b : UInt8)
deriving DecidableEq, Inhabited

/-- The number of bytes that a glyph takes. -/
def Glyph.size : Glyph → Nat
  | char c => c.utf8Size
  | stray _ => 1

/-- The glyphs of a text. -/
def glyphsOf (cs : List Char) : List Glyph := cs.map .char

/-- The glyphs from the place `i` on, after those that have been read, which come latest first. -/
def glyphsFrom (bytes : ByteArray) (i : Nat) (read : List Glyph) : List Glyph :=
  if h : i < bytes.size then
    match bytes.utf8DecodeChar? i with
    | some c => glyphsFrom bytes (i + c.utf8Size) (.char c :: read)
    | none => glyphsFrom bytes (i + 1) (.stray bytes[i] :: read)
  else read.reverse
termination_by bytes.size - i
decreasing_by
  · have := c.utf8Size_pos
    omega
  · omega

/-- The glyphs of a byte string. -/
def glyphs (bytes : ByteArray) : List Glyph := glyphsFrom bytes 0 []

/-- The character that a glyph is, unless it is a stray byte. -/
def Glyph.char? : Glyph → Option Char
  | char c => some c
  | stray _ => none

/-- The characters of a text that has no stray bytes. -/
def characters? (gs : List Glyph) : Option (List Char) := gs.mapM Glyph.char?

@[simp] theorem characters?_glyphsOf (cs : List Char) : characters? (glyphsOf cs) = some cs := by
  induction cs with
  | nil => rfl
  | cons c cs ih => simp_all [glyphsOf, characters?, Glyph.char?]

/-! ## Replacing what is broken -/

/-- What a character that has begun still asks for: how many bytes are owed, and the limits of the
next one. -/
structure Owed where
  count : Nat
  low : UInt8 := 0x80
  high : UInt8 := 0xbf
deriving DecidableEq, Inhabited

def Owed.nothing : Owed := { count := 0 }

/-- What a byte at the beginning of a character asks for. Nothing is owed after a byte that begins
no character. -/
def Owed.after (b : UInt8) : Owed :=
  if 0xc2 ≤ b && b ≤ 0xdf then { count := 1 }
  else if b = 0xe0 then { count := 2, low := 0xa0 }
  else if b = 0xed then { count := 2, high := 0x9f }
  else if 0xe1 ≤ b && b ≤ 0xef then { count := 2 }
  else if b = 0xf0 then { count := 3, low := 0x90 }
  else if 0xf1 ≤ b && b ≤ 0xf3 then { count := 3 }
  else if b = 0xf4 then { count := 3, high := 0x8f }
  else nothing

/-- The character that stands for what cannot be read. -/
def replacement : Char := '\ufffd'

/-- The text of a list of glyphs. A stray byte is replaced unless it continues the part that the
byte before it has begun. -/
def repaired : Owed → List Glyph → List Char
  | _, [] => []
  | _, .char c :: rest => c :: repaired .nothing rest
  | owed, .stray b :: rest =>
    if 0 < owed.count && owed.low ≤ b && b ≤ owed.high then
      repaired { count := owed.count - 1 } rest
    else replacement :: repaired (.after b) rest

/-- The text of a byte string, with replacements for what is broken. -/
def lossy (bytes : ByteArray) : List Char := repaired .nothing (glyphs bytes)

@[simp] theorem repaired_glyphsOf (owed : Owed) (cs : List Char) :
    repaired owed (glyphsOf cs) = cs := by
  induction cs generalizing owed with
  | nil => rfl
  | cons c cs ih => exact congrArg (c :: ·) (ih _)

end Polyglot.Text
