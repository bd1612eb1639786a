import Polyglot.Json.Printer

/-!
# Spellings of a text

A character may be spelled in a string in several ways: as it is, by a short escape, by its number,
or by the numbers of its two halves. `Spells` lists them. Whatever the mixture, the string is read
as the text that it spells (`text_of_spelled`), and the one that is written spells its text
(`spelled_flatMap_writeChar`).
-/

namespace Polyglot.Json

open Polyglot.Text (Glyph glyphsOf hexDigit?)

variable {c e : Char} {cs piece body : List Char} {unit : Nat} {input rest : Input}

@[simp] theorem glyphsOf_nil : glyphsOf [] = [] := rfl

@[simp] theorem glyphsOf_cons : glyphsOf (c :: cs) = .char c :: glyphsOf cs := rfl

@[simp] theorem glyphsOf_append (cs ds : List Char) :
    glyphsOf (cs ++ ds) = glyphsOf cs ++ glyphsOf ds :=
  List.map_append

@[simp] theorem length_glyphsOf (cs : List Char) : (glyphsOf cs).length = cs.length :=
  List.length_map _

/-- Four hexadecimal digits, and the number that they stand for. -/
def IsUnit (digits : List Char) (unit : Nat) : Prop :=
  digits.length = 4 ∧ ∃ values, digits.mapM hexDigit? = some values ∧
    values.foldl (16 * · + ·) 0 = unit

/-- The ways to write a character in a string. -/
inductive Spells : List Char → Char → Prop where
  | plain {c : Char} : c ≠ '"' → c ≠ '\\' → ¬c < ' ' → Spells [c] c
  | short {e c : Char} : shortEscape? e = some c → Spells ['\\', e] c
  | number {digits : List Char} {unit : Nat} : IsUnit digits unit → isLeading unit = false →
      isTrailing unit = false → Spells ('\\' :: 'u' :: digits) (.ofNat unit)
  | halves {digits digits' : List Char} {leading trailing : Nat} : IsUnit digits leading →
      isLeading leading → IsUnit digits' trailing → isTrailing trailing →
      Spells ('\\' :: 'u' :: (digits ++ '\\' :: 'u' :: digits')) (joined leading trailing)

/-- The ways to write a text between quotes. -/
inductive Spelled : List Char → List Char → Prop where
  | nil : Spelled [] []
  | cons {piece body cs : List Char} {c : Char} : Spells piece c → Spelled body cs →
      Spelled (piece ++ body) (c :: cs)

/-- A text may be written as it is if no character of it has to be escaped. -/
theorem spelled_self (h : ∀ c ∈ cs, c ≠ '"' ∧ c ≠ '\\' ∧ ¬c < ' ') : Spelled cs cs := by
  induction cs with
  | nil => exact .nil
  | cons c cs ih =>
    obtain ⟨⟨hquote, hbackslash, hspace⟩, hcs⟩ := List.forall_mem_cons.mp h
    exact .cons (.plain hquote hbackslash hspace) (ih hcs)

/-! ## Reading -/

theorem word_glyphsOf (cs : List Char) (rest : Input) :
    word cs (glyphsOf cs ++ rest) = .ok rest := by
  induction cs with
  | nil => rfl
  | cons c cs ih =>
    rw [glyphsOf_cons, List.cons_append, word, if_pos rfl]
    exact ih

/-- Four hexadecimal digits are read as their number. -/
theorem hex4_of_isUnit {digits : List Char} (h : IsUnit digits unit) (rest : Input) :
    hex4 (glyphsOf digits ++ rest) = .ok (unit, rest) := by
  obtain ⟨hlength, values, hvalues, rfl⟩ := h
  match digits, hlength with
  | [a, b, c, d], _ =>
    have : [Glyph.char a, .char b, .char c, .char d].mapM hexValue? = some values := hvalues
    simp only [glyphsOf_cons, glyphsOf_nil, List.cons_append, List.nil_append, hex4, this]

/-! ### Escapes -/

/-- A short escape is read as the character that it stands for. -/
theorem escape_short (h : shortEscape? e = some c) (rest : Input) :
    escape (.char e :: rest) = .ok (c, rest) := by
  have hu : e ≠ 'u' := by
    rintro rfl
    cases h
  simp only [escape, if_neg hu, h]

/-- A numbered escape is read as the character with the number, unless it is half of a pair. -/
theorem escape_number {digits : List Char} (h : IsUnit digits unit) (hl : isLeading unit = false)
    (ht : isTrailing unit = false) (rest : Input) :
    escape (.char 'u' :: (glyphsOf digits ++ rest)) = .ok (.ofNat unit, rest) := by
  rw [escape, if_pos rfl, numbered, hex4_of_isUnit h]
  simp only [bind, Except.bind, hl, ht, Bool.false_eq_true, if_false]

theorem trailingUnit_of_isUnit {digits : List Char} (h : IsUnit digits unit) (ht : isTrailing unit)
    (rest : Input) :
    trailingUnit (.char '\\' :: .char 'u' :: (glyphsOf digits ++ rest)) = .ok (unit, rest) := by
  have hword := word_glyphsOf ['\\', 'u'] (glyphsOf digits ++ rest)
  simp only [glyphsOf_cons, glyphsOf_nil, List.cons_append, List.nil_append] at hword
  rw [trailingUnit, hword]
  simp only [bind, Except.bind, hex4_of_isUnit h, ht, if_true]

theorem isTrailing_of_isLeading (h : isLeading unit) : isTrailing unit = false := by
  simp only [isLeading, isTrailing, Bool.and_eq_true, decide_eq_true_eq, Bool.and_eq_false_iff,
    decide_eq_false_iff_not] at h ⊢
  omega

/-- Two halves in a row are read as the character that they make up. -/
theorem escape_halves {digits digits' : List Char} {leading trailing : Nat}
    (h : IsUnit digits leading) (hl : isLeading leading) (h' : IsUnit digits' trailing)
    (ht : isTrailing trailing) (rest : Input) :
    escape (.char 'u' :: (glyphsOf digits ++
      .char '\\' :: .char 'u' :: (glyphsOf digits' ++ rest))) =
        .ok (joined leading trailing, rest) := by
  rw [escape, if_pos rfl, numbered, hex4_of_isUnit h]
  simp only [bind, Except.bind, isTrailing_of_isLeading hl, hl, Bool.false_eq_true, if_false,
    if_true, trailingUnit_of_isUnit h' ht]

/-! ### Texts -/

theorem textFrom_quote (cs : List Char) (rest : Input) :
    textFrom (some cs) (.char '"' :: rest) = .ok (cs.reverse, rest) := by
  rw [textFrom.eq_def]
  rfl

/-- A character that needs no escape stands for itself. -/
theorem textFrom_plain (hq : c ≠ '"') (hb : c ≠ '\\') (hc : ¬c < ' ') (read : Option (List Char))
    (rest : Input) :
    textFrom read (.char c :: rest) = textFrom (read.map (c :: ·)) rest := by
  rw [textFrom.eq_def]
  simp only [if_neg hq, if_neg hb, if_neg hc]

/-- An escape adds the character that it stands for. -/
theorem textFrom_escape (h : escape input = .ok (c, rest)) (read : Option (List Char)) :
    textFrom read (.char '\\' :: input) = textFrom (read.map (c :: ·)) rest := by
  rw [textFrom.eq_def]
  simp only [if_neg (show '\\' ≠ '"' by decide), if_true]
  split
  · next h' =>
    rw [h] at h'
    cases h'
    rfl
  · next h' =>
    rw [h] at h'
    cases h'

/-- A character is read from all of its spellings. -/
theorem textFrom_of_spells (h : Spells piece c) (read : Option (List Char)) (rest : Input) :
    textFrom read (glyphsOf piece ++ rest) = textFrom (read.map (c :: ·)) rest := by
  cases h with
  | plain hq hb hc => exact textFrom_plain hq hb hc read rest
  | short he => exact textFrom_escape (escape_short he rest) read
  | number h hl ht => exact textFrom_escape (escape_number h hl ht rest) read
  | halves h hl h' ht =>
    have hescape := textFrom_escape (escape_halves h hl h' ht rest) read
    simpa only [glyphsOf_cons, glyphsOf_append, List.cons_append, List.append_assoc] using hescape

/-- A text is read from all of its spellings. -/
theorem textFrom_of_spelled (h : Spelled body cs) (read : List Char) (rest : Input) :
    textFrom (some read) (glyphsOf body ++ .char '"' :: rest) = .ok (read.reverse ++ cs, rest) := by
  induction h generalizing read with
  | nil => rw [glyphsOf_nil, List.nil_append, textFrom_quote, List.append_nil]
  | cons hpiece _ ih =>
    rw [glyphsOf_append, List.append_assoc, textFrom_of_spells hpiece, Option.map_some, ih,
      List.reverse_cons, List.append_assoc, List.singleton_append]

/-- A spelling is read as what it spells, up to the closing quote. -/
theorem text_of_spelled (h : Spelled body cs) (rest : Input) :
    text (glyphsOf body ++ .char '"' :: rest) = .ok (cs, rest) :=
  textFrom_of_spelled h [] rest

/-! ## Writing -/

theorem hexDigit?_hexDigit : ∀ n < 16, hexDigit? (hexDigit n) = some n := by decide

/-- The number of a byte in four digits. -/
theorem isUnit_hexDigits {n : Nat} (h : n < 256) :
    IsUnit ['0', '0', hexDigit (n / 16), hexDigit (n % 16)] n := by
  refine ⟨rfl, [0, 0, n / 16, n % 16], ?_, ?_⟩
  · have hhigh := hexDigit?_hexDigit (n / 16) (by omega)
    have hlow := hexDigit?_hexDigit (n % 16) (by omega)
    have hzero : hexDigit? '0' = some 0 := by decide
    simp only [List.mapM_cons, List.mapM_nil, hzero, hhigh, hlow]
    rfl
  · simp only [List.foldl_cons, List.foldl_nil]
    omega

/-- A control character can be written by its number. -/
theorem spells_control (h : c < ' ') : Spells
    ['\\', 'u', '0', '0', hexDigit (c.toNat / 16), hexDigit (c.toNat % 16)] c := by
  have hc : c.toNat < 32 := UInt32.lt_iff_toNat_lt.mp (Char.lt_def.mp h)
  have hunit := isUnit_hexDigits (n := c.toNat) (by omega)
  have hspells := Spells.number hunit
    (by simp only [isLeading, Bool.and_eq_false_iff, decide_eq_false_iff_not]; omega)
    (by simp only [isTrailing, Bool.and_eq_false_iff, decide_eq_false_iff_not]; omega)
  rwa [Char.ofNat_toNat] at hspells

/-- A character is written in one of its spellings. -/
theorem spells_writeChar (c : Char) : Spells (writeChar c) c := by
  rw [writeChar]
  -- seven characters have short escapes, which stand in the order of the cases
  iterate 7
    split
    · next h =>
      subst h
      exact .short rfl
  split
  · next h => exact spells_control h
  · exact .plain ‹_› ‹_› ‹_›

/-- What is written of a text spells it. -/
theorem spelled_flatMap_writeChar (cs : List Char) : Spelled (cs.flatMap writeChar) cs := by
  induction cs with
  | nil => exact .nil
  | cons c cs ih => exact .cons (spells_writeChar c) ih

end Polyglot.Json
