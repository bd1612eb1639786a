import Polyglot.Json.Fault
import Polyglot.Text.Hex
import Polyglot.Text.Utf8

/-!
# Lexemes of documents

Blanks, words and strings. A document is read from the left, glyph by glyph, and the fault that
shows first is reported. A string is read as text, which demands that it encodes characters only, or
it is skipped, which does not ask what characters its escapes stand for.
-/

namespace Polyglot.Json

open Polyglot.Text (Glyph hexDigit?)

/-- What is left of a document. -/
abbrev Input := List Glyph

/-- Reads something at the front of a document and gives it with what is left. -/
abbrev Reader (α : Type) := Input → Except Fault (α × Input)

/-! ## Blanks and words -/

def isBlank (g : Glyph) : Bool :=
  g == .char ' ' || g == .char '\t' || g == .char '\n' || g == .char '\r'

def skipBlanks (input : Input) : Input := input.dropWhile isBlank

/-- Passes over a word that has to stand here. -/
def word : List Char → Input → Except Fault Input
  | [], input => .ok input
  | _ :: _, [] => .error .truncated
  | c :: cs, g :: rest => if g = .char c then word cs rest else .error .malformed

/-! ## Escapes -/

def hexValue? : Glyph → Option Nat
  | .char c => hexDigit? c
  | .stray _ => none

/-- The number of bytes that are left. -/
def byteCount (input : Input) : Nat := input.foldl (· + ·.size) 0

/-- Four hexadecimal digits. The document ends too early if it has fewer than four bytes left,
whatever they are. -/
def hex4 : Reader Nat
  | a :: b :: c :: d :: rest =>
    match [a, b, c, d].mapM hexValue? with
    | some digits => .ok (digits.foldl (16 * · + ·) 0, rest)
    | none => .error .malformed
  | input => .error (if byteCount input < 4 then .truncated else .malformed)

/-- The unit is the first half of a character beyond the basic plane. -/
def isLeading (unit : Nat) : Bool := 0xd800 ≤ unit && unit ≤ 0xdbff

/-- The unit is the second half of a character beyond the basic plane. -/
def isTrailing (unit : Nat) : Bool := 0xdc00 ≤ unit && unit ≤ 0xdfff

/-- The character of which the two units are the halves. -/
def joined (leading trailing : Nat) : Char :=
  .ofNat (0x10000 + (leading - 0xd800) * 0x400 + (trailing - 0xdc00))

/-- The second half of a character, which has to follow the first half at once. -/
def trailingUnit : Reader Nat := fun input => do
  let (unit, rest) ← hex4 (← word ['\\', 'u'] input)
  if isTrailing unit then .ok (unit, rest) else .error .malformed

/-- A character by its number, after `\u`. -/
def numbered : Reader Char := fun input => do
  let (unit, rest) ← hex4 input
  if isTrailing unit then .error .malformed
  else if isLeading unit then
    let (trailing, rest) ← trailingUnit rest
    .ok (joined unit trailing, rest)
  else .ok (.ofNat unit, rest)

/-- The character that a letter stands for after a backslash. -/
def shortEscape? (c : Char) : Option Char :=
  match c with
  | '"' => some '"'
  | '\\' => some '\\'
  | '/' => some '/'
  | 'b' => some '\x08'
  | 'f' => some '\x0c'
  | 'n' => some '\n'
  | 'r' => some '\r'
  | 't' => some '\t'
  | _ => none

/-- The character of an escape, after the backslash. -/
def escape : Reader Char
  | [] => .error .truncated
  | .stray _ :: _ => .error .malformed
  | .char c :: rest =>
    if c = 'u' then numbered rest
    else match shortEscape? c with
      | some c => .ok (c, rest)
      | none => .error .malformed

/-- Passes over an escape, after the backslash. -/
def skipEscape : Input → Except Fault Input
  | [] => .error .truncated
  | .stray _ :: _ => .error .malformed
  | .char c :: rest =>
    if c = 'u' then (hex4 rest).map (·.2)
    else if (shortEscape? c).isSome then .ok rest
    else .error .malformed

/-! ### What is left is shorter -/

theorem length_of_word {cs : List Char} {input rest : Input} (h : word cs input = .ok rest) :
    rest.length + cs.length = input.length := by
  induction cs generalizing input with
  | nil => simp_all [word]
  | cons c cs ih =>
    cases input with
    | nil => simp [word] at h
    | cons g input =>
      rw [word] at h
      split at h
      · have := ih h
        simp only [List.length_cons]
        omega
      · cases h

theorem length_of_hex4 {input rest : Input} {n : Nat} (h : hex4 input = .ok (n, rest)) :
    rest.length < input.length := by
  unfold hex4 at h
  split at h
  · split at h
    · cases h
      simp only [List.length_cons]
      omega
    · cases h
  · cases h

theorem length_of_trailingUnit {input rest : Input} {n : Nat}
    (h : trailingUnit input = .ok (n, rest)) : rest.length < input.length := by
  unfold trailingUnit at h
  cases hw : word ['\\', 'u'] input with
  | error e => simp [hw, bind, Except.bind] at h
  | ok after =>
    cases hx : hex4 after with
    | error e => simp [hw, hx, bind, Except.bind] at h
    | ok found =>
      obtain ⟨unit, after'⟩ := found
      have hword := length_of_word hw
      have hhex := length_of_hex4 hx
      simp only [hw, hx, bind, Except.bind] at h
      split at h
      · cases h
        omega
      · cases h

theorem length_of_numbered {input rest : Input} {c : Char} (h : numbered input = .ok (c, rest)) :
    rest.length < input.length := by
  unfold numbered at h
  cases hx : hex4 input with
  | error e => simp [hx, bind, Except.bind] at h
  | ok found =>
    obtain ⟨unit, after⟩ := found
    have hhex := length_of_hex4 hx
    simp only [hx, bind, Except.bind] at h
    split at h
    · cases h
    · split at h
      · cases ht : trailingUnit after with
        | error e => simp [ht] at h
        | ok trailing =>
          obtain ⟨unit', after'⟩ := trailing
          have := length_of_trailingUnit ht
          simp only [ht, Except.ok.injEq, Prod.mk.injEq] at h
          obtain ⟨-, rfl⟩ := h
          omega
      · simp only [Except.ok.injEq, Prod.mk.injEq] at h
        obtain ⟨-, rfl⟩ := h
        exact hhex

theorem length_of_escape {input rest : Input} {c : Char} (h : escape input = .ok (c, rest)) :
    rest.length < input.length := by
  unfold escape at h
  split at h
  · cases h
  · cases h
  · split at h
    · have := length_of_numbered h
      simp only [List.length_cons]
      omega
    · split at h
      · cases h
        simp
      · cases h

theorem length_of_skipEscape {input rest : Input} (h : skipEscape input = .ok rest) :
    rest.length < input.length := by
  unfold skipEscape at h
  split at h
  · cases h
  · cases h
  · next c after =>
    split at h
    · cases hx : hex4 after with
      | error e => simp [hx, Except.map] at h
      | ok found =>
        obtain ⟨unit, after'⟩ := found
        have := length_of_hex4 hx
        simp only [hx, Except.map] at h
        cases h
        simp only [List.length_cons]
        omega
    · split at h
      · cases h
        simp
      · cases h

/-! ## Strings -/

/-- The rest of a string after what has been read, which comes last character first. Nothing has
been read any more once a stray byte has shown; that is a fault at the end of the string. -/
def textFrom (read : Option (List Char)) : Reader (List Char)
  | [] => .error .truncated
  | .stray _ :: rest => textFrom none rest
  | .char c :: rest =>
    if c = '"' then
      match read with
      | some cs => .ok (cs.reverse, rest)
      | none => .error .malformed
    else if c = '\\' then
      match _ : escape rest with
      | .ok (c, rest') => textFrom (read.map (c :: ·)) rest'
      | .error fault => .error fault
    else if c < ' ' then .error .malformed
    else textFrom (read.map (c :: ·)) rest
termination_by input => input.length
decreasing_by
  · simp
  · have := length_of_escape ‹_›
    simp only [List.length_cons]
    omega
  · simp

/-- A string as text, after its opening quote. -/
def text : Reader (List Char) := textFrom (some [])

/-- Passes over a string, after its opening quote. -/
def skipText : Input → Except Fault Input
  | [] => .error .truncated
  | .stray _ :: rest => skipText rest
  | .char c :: rest =>
    if c = '"' then .ok rest
    else if c = '\\' then
      match _ : skipEscape rest with
      | .ok rest' => skipText rest'
      | .error fault => .error fault
    else if c < ' ' then .error .malformed
    else skipText rest
termination_by input => input.length
decreasing_by
  · simp
  · have := length_of_skipEscape ‹_›
    simp only [List.length_cons]
    omega
  · simp

end Polyglot.Json
