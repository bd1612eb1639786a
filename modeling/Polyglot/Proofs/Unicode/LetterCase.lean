import Polyglot.Proofs.Text.LetterCase
import Polyglot.Proofs.Unicode.Lowercase
import Polyglot.Proofs.Unicode.Tables

/-!
# Lower case of texts that differ in the case of letters

Texts that are the same up to the case of ASCII letters have the same lower-case form
(`lowercase_congr`). That takes more than the forms of single characters: a capital sigma looks at
its neighbours, and whether it ends a word must not depend on the case of a letter beside it. It
asks of a neighbour whether it is a cased character and whether it is ignorable, and a letter of
ASCII is the first and not the second, in either case.
-/

namespace Polyglot.Unicode

variable {c d : Char} {cs ds before before' : List Char}

/-! ## Single characters -/

/-- A letter of ASCII has the same lower-case form in either case. -/
theorem lowercaseForm_congr (h : c.toLower = d.toLower) : lowercaseForm c = lowercaseForm d :=
  Text.eq_of_toLower_eq (by decide +kernel) h

theorem eq_sigma_congr (h : c.toLower = d.toLower) : c = 'Σ' ↔ d = 'Σ' := by
  have hsame : decide (c = 'Σ') = decide (d = 'Σ') :=
    Text.eq_of_toLower_eq (f := fun c => decide (c = 'Σ')) (by decide +kernel) h
  rwa [decide_eq_decide] at hsame

/-- The first row of a table settles ASCII if it goes beyond. If it does not tell the ASCII letters
of either case, then no part of the table does. -/
theorem contains_ofTable_congr {row : List Char} {lines : List String}
    (hbeyond : ∃ b ∈ (CharSet.ofRow row).blocks, 128 ≤ b.first)
    (hrow : ∀ n < 128, (CharSet.ofRow row).contains (Char.ofNat n) =
      (CharSet.ofRow row).contains (Char.ofNat n).toLower) (h : c.toLower = d.toLower) :
    (CharSet.ofTable (String.ofList row :: lines)).contains c =
      (CharSet.ofTable (String.ofList row :: lines)).contains d := by
  obtain ⟨b, hb, hfirst⟩ := hbeyond
  have hsettled {c : Char} (hc : Text.IsAscii c) :
      (CharSet.ofTable (String.ofList row :: lines)).contains c = (CharSet.ofRow row).contains c :=
    CharSet.contains_ofTable_cons_of_lt ⟨b, hb, Nat.lt_of_lt_of_le hc hfirst⟩
  have hascii : ∀ n < 128, Text.IsAscii (Char.ofNat n) := by decide
  refine Text.eq_of_toLower_eq (fun n hn => ?_) h
  rw [hsettled (hascii n hn), hsettled (Text.isAscii_toLower (hascii n hn)), hrow n hn]

/-- A letter of ASCII is a cased character in either case. -/
theorem contains_cased_congr (h : c.toLower = d.toLower) :
    Property.cased.contains c = Property.cased.contains d :=
  contains_ofTable_congr (by decide +kernel) (by decide +kernel) h

/-- A character of ASCII is ignorable or not in either case. -/
theorem contains_caseIgnorable_congr (h : c.toLower = d.toLower) :
    Property.caseIgnorable.contains c = Property.caseIgnorable.contains d :=
  contains_ofTable_congr (by decide +kernel) (by decide +kernel) h

/-! ## Texts -/

theorem reachesCased_cons (c : Char) (cs : List Char) : reachesCased (c :: cs) =
    if Property.caseIgnorable.contains c then reachesCased cs else Property.cased.contains c := by
  rw [reachesCased, List.dropWhile_cons]
  by_cases h : Property.caseIgnorable.contains c
  · rw [if_pos h, if_pos h, reachesCased]
  · rw [if_neg h, if_neg h]

/-- Whether a cased character is reached does not depend on the case of any letter. -/
theorem reachesCased_congr (h : SameLetters cs ds) : reachesCased cs = reachesCased ds := by
  induction h with
  | nil => rfl
  | cons hcd _ ih =>
    rw [reachesCased_cons, reachesCased_cons, contains_caseIgnorable_congr hcd,
      contains_cased_congr hcd, ih]

theorem lowercaseAt_congr (hbefore : SameLetters before before') (hcd : c.toLower = d.toLower)
    (hafter : SameLetters cs ds) : lowercaseAt before c cs = lowercaseAt before' d ds := by
  simp only [lowercaseAt, eq_sigma_congr hcd, lowercaseForm_congr hcd, reachesCased_congr hbefore,
    reachesCased_congr hafter]

/-- The lower-case form of a text does not depend on the case of any letter in it or before it. -/
theorem lowercaseFrom_congr (hbefore : SameLetters before before') (h : SameLetters cs ds) :
    lowercaseFrom before cs = lowercaseFrom before' ds := by
  induction h generalizing before before' with
  | nil => rfl
  | cons hcd hrest ih =>
    rw [lowercaseFrom, lowercaseFrom, lowercaseAt_congr hbefore hcd hrest, ih (.cons hcd hbefore)]

/-- **Lower case does not see the case of ASCII letters**, whatever other characters stand between
them. -/
theorem lowercase_congr (h : SameLetters cs ds) : lowercase cs = lowercase ds :=
  lowercaseFrom_congr .nil h

end Polyglot.Unicode
