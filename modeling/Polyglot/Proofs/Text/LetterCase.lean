import Mathlib.Data.List.Forall2
import Polyglot.Proofs.Text.Bytes

/-!
# Texts that differ in the case of letters

Two texts are the same up to the case of ASCII letters if their characters agree one by one after
these letters have been made small (`SameLetters`). What is the same for a letter of ASCII in either
case is the same for all characters that agree in this way (`Text.eq_of_toLower_eq`), so it takes a
check of 128 characters.
-/

namespace Polyglot

/-- The texts are the same up to the case of ASCII letters. -/
abbrev SameLetters (text text' : List Char) : Prop :=
  List.Forall₂ (fun c d => c.toLower = d.toLower) text text'

namespace Text

variable {c d : Char}

/-- Only ASCII letters have another case here. -/
theorem toLower_of_not_isAscii (h : ¬IsAscii c) : c.toLower = c := by
  have hlarge : ¬(c.val ≥ 'A'.val ∧ c.val ≤ 'Z'.val) := by
    intro hcapital
    exact h (isAscii_of_isUpper (decide_eq_true hcapital))
  exact dif_neg hlarge

/-- A relation between the ASCII letters of either case is one between each character and its small
form. -/
theorem rel_toLower {r : Char → Char → Prop} (hrefl : ∀ c, r c c)
    (h : ∀ n < 128, r (Char.ofNat n) (Char.ofNat n).toLower) (c : Char) : r c c.toLower := by
  by_cases hc : IsAscii c
  · exact forall_ascii (p := fun c => r c c.toLower) h hc
  · rw [toLower_of_not_isAscii hc]
    exact hrefl c

/-- What does not tell the ASCII letters of either case does not tell characters that differ in
case. -/
theorem eq_of_toLower_eq {β : Type} {f : Char → β}
    (hf : ∀ n < 128, f (Char.ofNat n) = f (Char.ofNat n).toLower) (h : c.toLower = d.toLower) :
    f c = f d := by
  have hlower := rel_toLower (r := fun c d => f c = f d) (fun _ => rfl) hf
  calc f c
    _ = f c.toLower := hlower c
    _ = f d.toLower := by rw [h]
    _ = f d := (hlower d).symm

end Text

end Polyglot
