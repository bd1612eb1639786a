import Polyglot.Proofs.Json.Grammar

/-!
# Numbers are read

A number is read from its text (`numeral_of_isNumeral`), whatever follows it that could not belong
to a number. What is written of a whole number of 64 bits is such a text, and stands for the number
(`isNumeral_write`, `number?_toDigits`).
-/

namespace Polyglot.Json

open Polyglot.Text (Glyph glyphsOf)

variable {n : Nat} {c : Char} {g : Glyph} {cs text : List Char} {values : List Nat}
  {fraction : Option (List Nat)} {exponent : Option (Bool × List Nat)} {numbered : Numeral}
  {rest : Input}

/-- The glyph could belong to a number that has begun. -/
def continuesNumber : Glyph → Bool
  | .char c => c.isDigit || c == '.' || c == 'e' || c == 'E'
  | .stray _ => false

/-- A number ends before this. -/
def EndsNumber (rest : Input) : Prop := ∀ g ∈ rest.head?, continuesNumber g = false

/-- Digits end before this. -/
def EndsDigits (rest : Input) : Prop := ∀ g ∈ rest.head?, isDigit g = false

@[simp] theorem endsNumber_nil : EndsNumber [] := nofun

@[simp] theorem endsNumber_cons : EndsNumber (g :: rest) ↔ continuesNumber g = false := by
  simp [EndsNumber]

@[simp] theorem endsDigits_cons : EndsDigits (g :: rest) ↔ isDigit g = false := by
  simp [EndsDigits]

/-- What ends a number ends a row of digits. -/
theorem EndsNumber.endsDigits (h : EndsNumber rest) : EndsDigits rest := by
  intro g hg
  have := h g hg
  cases g with
  | stray b => rfl
  | char c =>
    simp only [continuesNumber, Bool.or_eq_false_iff] at this
    exact this.1.1.1

/-! ## Digits -/

/-- The digits are read to the last one. -/
theorem digits_glyphsOf (hcs : ∀ c ∈ cs, c.isDigit) (hrest : EndsDigits rest) :
    digits (glyphsOf cs ++ rest) = (cs.map valueOf, rest) := by
  have hall : ∀ g ∈ glyphsOf cs, isDigit g := by
    intro g hg
    obtain ⟨c, hc, rfl⟩ := List.mem_map.mp hg
    exact hcs c hc
  have htake : rest.takeWhile isDigit = [] := by
    cases rest with
    | nil => rfl
    | cons g rest => rw [List.takeWhile_cons_of_neg (by simp [hrest g rfl])]
  have hdrop : rest.dropWhile isDigit = rest := by
    cases rest with
    | nil => rfl
    | cons g rest => rw [List.dropWhile_cons_of_neg (by simp [hrest g rfl])]
  rw [digits, List.takeWhile_append_of_pos hall, List.dropWhile_append_of_pos hall, htake, hdrop,
    List.append_nil]
  simp only [glyphsOf, List.map_map]
  rfl

theorem someDigits_of_isDigits (h : IsDigits cs values) (hrest : EndsDigits rest) :
    someDigits (glyphsOf cs ++ rest) = .ok (values, rest) := by
  obtain ⟨c, cs, rfl⟩ := List.exists_cons_of_ne_nil h.ne_nil
  rw [someDigits, digits_glyphsOf h.isDigit hrest, h.values, ← h.values]
  rfl

theorem eq_zero_of_valueOf (hc : c.isDigit) (h : valueOf c = 0) : c = '0' := by
  simp only [Char.isDigit, Bool.and_eq_true, decide_eq_true_eq] at hc
  have hle : 0x30 ≤ c.toNat := UInt32.le_iff_toNat_le.mp hc.1
  rw [← Char.ofNat_toNat c, show c.toNat = 0x30 by simp only [valueOf] at h; omega]

/-- A leading zero stands alone. -/
theorem IsWhole.eq_nil_of_leading_zero (h : IsWhole cs (0 :: values)) : values = [] := by
  obtain ⟨c, rest, rfl, hc, rfl⟩ := List.map_eq_cons_iff.mp h.values
  have hzero := eq_zero_of_valueOf (h.isDigit c List.mem_cons_self) hc
  have hall := h.leading (by rw [List.head?_cons, hzero])
  cases hall
  rfl

/-- A whole part is read as its digits. It has no zero in front, so a zero ends it. -/
theorem wholePart_of_isWhole (h : IsWhole cs values) (hrest : EndsDigits rest) :
    wholePart (glyphsOf cs ++ rest) = .ok (values, rest) := by
  rw [wholePart, someDigits_of_isDigits h.toIsDigits hrest]
  simp only [bind, Except.bind]
  split
  · next heq =>
    cases heq
    cases h.eq_nil_of_leading_zero
  · rfl

/-! ## Fractions and exponents -/

/-- The digits before a fraction end where the fraction begins, or where the number goes on without
one. -/
theorem endsDigits_fraction (h : IsFraction cs fraction) (hrest : EndsDigits rest) :
    EndsDigits (glyphsOf cs ++ rest) := by
  cases h with
  | absent => exact hrest
  | point _ => simp [isDigit]

/-- After the digits of a number comes neither a digit nor a point, but its exponent or its end. -/
theorem ends_exponent (h : IsExponent cs exponent) (hrest : EndsNumber rest) :
    EndsDigits (glyphsOf cs ++ rest) ∧ ∀ after, glyphsOf cs ++ rest ≠ .char '.' :: after := by
  cases h with
  | absent =>
    refine ⟨hrest.endsDigits, ?_⟩
    rintro after rfl
    cases hrest _ rfl
  | mark he _ _ => rcases he with rfl | rfl <;> simp [isDigit]

/-- A fraction is read as its digits, and where there is none, no point follows. -/
theorem fractionPart_of_isFraction (h : IsFraction cs fraction) (hrest : EndsDigits rest)
    (hpoint : ∀ after, rest ≠ .char '.' :: after) :
    fractionPart (glyphsOf cs ++ rest) = .ok (fraction, rest) := by
  cases h with
  | absent =>
    rw [glyphsOf_nil, List.nil_append]
    unfold fractionPart
    split
    · exact absurd rfl (hpoint _)
    · rfl
  | point hcs =>
    rw [glyphsOf_cons, List.cons_append, fractionPart, someDigits_of_isDigits hcs hrest]
    rfl

theorem signedDigits_of_isSign {sign : List Char} {negative : Bool} (hsign : IsSign sign negative)
    (hcs : IsDigits cs values) (hrest : EndsDigits rest) :
    signedDigits (glyphsOf (sign ++ cs) ++ rest) = .ok ((negative, values), rest) := by
  have hdigits := someDigits_of_isDigits hcs hrest
  cases hsign with
  | plus => simp only [signedDigits, List.cons_append, List.nil_append, glyphsOf_cons, hdigits]; rfl
  | minus => simp only [signedDigits, List.cons_append, List.nil_append, glyphsOf_cons, hdigits]; rfl
  | absent =>
    obtain ⟨c, cs, rfl⟩ := List.exists_cons_of_ne_nil hcs.ne_nil
    have hc := hcs.isDigit c List.mem_cons_self
    rw [List.nil_append]
    rw [glyphsOf_cons, List.cons_append] at hdigits ⊢
    rw [signedDigits]
    · rw [hdigits]
      rfl
    · intro after heq
      cases heq
      cases hc
    · intro after heq
      cases heq
      cases hc

/-- An exponent is read as its sign and its digits. -/
theorem exponentPart_of_isExponent (h : IsExponent cs exponent) (hrest : EndsNumber rest) :
    exponentPart (glyphsOf cs ++ rest) = .ok (exponent, rest) := by
  cases h with
  | absent =>
    rw [glyphsOf_nil, List.nil_append]
    unfold exponentPart
    split
    · cases hrest _ rfl
    · cases hrest _ rfl
    · rfl
  | mark he hsign hcs =>
    have hdigits := signedDigits_of_isSign hsign hcs hrest.endsDigits
    rw [glyphsOf_cons, List.cons_append]
    rcases he with rfl | rfl
    · rw [exponentPart, hdigits]; rfl
    · rw [exponentPart, hdigits]; rfl

/-! ## Numbers -/

/-- **A number is read from its text.** -/
theorem numeral_of_isNumeral (h : IsNumeral text numbered) (hrest : EndsNumber rest) :
    numeral (glyphsOf text ++ rest) = .ok (numbered, rest) := by
  cases h with
  | @intro negative whole fraction exponent ds ds' e hwhole hfraction hexponent =>
    obtain ⟨hdigits, hpoint⟩ := ends_exponent hexponent hrest
    have hw := wholePart_of_isWhole hwhole (endsDigits_fraction hfraction hdigits)
    have hf := fractionPart_of_isFraction hfraction hdigits hpoint
    have he := exponentPart_of_isExponent hexponent hrest
    cases negative with
    | true =>
      simp only [if_true, glyphsOf_append, glyphsOf_cons, List.cons_append, List.nil_append,
        List.append_assoc, numeral, bind, Except.bind, hw, hf, he]
    | false =>
      obtain ⟨c, cs, rfl⟩ := List.exists_cons_of_ne_nil hwhole.ne_nil
      have hc := hwhole.isDigit c List.mem_cons_self
      simp only [Bool.false_eq_true, if_false, glyphsOf_append, List.nil_append,
        List.append_assoc]
      rw [numeral]
      · simp only [bind, Except.bind, hw, hf, he]
      · intro after heq
        cases heq
        cases hc

/-- A number begins with a minus sign or a digit. -/
theorem exists_cons_of_isNumeral (h : IsNumeral text numbered) :
    ∃ c cs, text = c :: cs ∧ startsNumber (.char c) := by
  cases h with
  | @intro negative whole fraction exponent ds ds' e hwhole hfraction hexponent =>
    cases negative with
    | true => exact ⟨_, _, rfl, rfl⟩
    | false =>
      obtain ⟨c, cs, rfl⟩ := List.exists_cons_of_ne_nil hwhole.ne_nil
      exact ⟨c, _, rfl, by simp only [startsNumber, hwhole.isDigit c List.mem_cons_self,
        Bool.or_true]⟩

/-! ## Whole numbers -/

/-- The digits of a whole number stand for it. -/
theorem ofDigits_toDigits (n : Nat) : ofDigits ((Nat.toDigits 10 n).map valueOf) = n := by
  rw [ofDigits, List.foldl_map]
  exact Nat.ofDigitChars_toDigits (by decide) (by decide)

/-- Only zero begins with a zero. -/
theorem eq_zero_of_head_toDigits (h : (Nat.toDigits 10 n).head? = some '0') : n = 0 := by
  induction n using Nat.strongRecOn with
  | ind n ih =>
    rw [Nat.toDigits_eq_if (by decide)] at h
    split at h
    · exact Nat.digitChar_eq_zero.mp (Option.some.inj h)
    · next hge =>
      rw [List.head?_append, Option.or_of_isSome
        (List.isSome_head?.mpr Nat.toDigits_ne_nil)] at h
      have := ih (n / 10) (by omega) h
      omega

/-- The digits of a whole number are a whole part. -/
theorem isWhole_toDigits (n : Nat) :
    IsWhole (Nat.toDigits 10 n) ((Nat.toDigits 10 n).map valueOf) where
  ne_nil := Nat.toDigits_ne_nil
  isDigit _ := Nat.isDigit_of_mem_toDigits (by decide) (by decide)
  values := rfl
  leading h := by
    rw [eq_zero_of_head_toDigits h]
    rfl

/-- The decimal of a whole number is the text of a number. -/
theorem isNumeral_write (i : Int) : IsNumeral (Number.int i).write
    ⟨decide (i < 0), (Nat.toDigits 10 i.natAbs).map valueOf, none, none⟩ := by
  have h : IsNumeral ((if decide (i < 0) then ['-'] else []) ++ _) _ :=
    .intro (isWhole_toDigits i.natAbs) .absent .absent
  simpa only [decide_eq_true_eq, List.append_nil, Number.write, Decimal.digitsOf] using h

/-- A whole number of 64 bits, with a sign or without one, is what its digits stand for. -/
theorem number?_toDigits {i : Int} (hlow : -0x8000000000000000 ≤ i)
    (hhigh : i < 0x10000000000000000) :
    Numeral.number? ⟨decide (i < 0), (Nat.toDigits 10 i.natAbs).map valueOf, none, none⟩ =
      some (.int i) := by
  by_cases hi : i < 0
  · have hrange : 0 < i.natAbs ∧ i.natAbs ≤ 0x8000000000000000 := by omega
    simp only [Numeral.number?, ofDigits_toDigits, hi, decide_true, if_true, hrange.1, hrange.2,
      Bool.and_self]
    rw [Int.ofNat_natAbs_of_nonpos (by omega), Int.neg_neg]
  · have hle : i.natAbs ≤ maxSignificand := by
      simp only [maxSignificand, UInt64.size]
      omega
    simp only [Numeral.number?, ofDigits_toDigits, hi, decide_false, Bool.false_eq_true, if_false,
      if_pos hle]
    rw [Int.natAbs_of_nonneg (by omega)]

/-- A numeral is read as the number that it stands for. -/
theorem number_of_isNumeral {value : Number} (h : IsNumeral text numbered)
    (hvalue : numbered.number? = some value) (hrest : EndsNumber rest) :
    number (glyphsOf text ++ rest) = .ok (value, rest) := by
  rw [number, numeral_of_isNumeral h hrest]
  simp only [bind, Except.bind, hvalue]

/-- A numeral is passed over whole. -/
theorem skipNumber_of_isNumeral (h : IsNumeral text numbered) (hrest : EndsNumber rest) :
    skipNumber (glyphsOf text ++ rest) = .ok rest := by
  rw [skipNumber, numeral_of_isNumeral h hrest]

end Polyglot.Json
