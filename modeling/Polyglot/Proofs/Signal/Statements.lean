import Mathlib.Algebra.BigOperators.Ring.List
import Mathlib.Algebra.Order.BigOperators.Group.List
import Mathlib.Algebra.Order.Ring.Nat
import Polyglot.Proofs.Pattern.Extent
import Polyglot.Proofs.Pattern.Separator
import Polyglot.Proofs.Signal.Builtin
import Polyglot.Proofs.Standings

/-!
# Signals that look at one statement at a time

Many of the built-in signals accept no semicolon and do not ask for the ends of a line or of the
text. What such a signal counts in a text is what it counts in the pieces between the semicolons
(`Detector.standard_counts_by_statement`).

The points of the pieces add up too. They could only pass the largest number of points in a text of
`2 ^ 63` characters or more, as the weight of each of these signals is less than twice the length of
its shortest match.
-/

namespace Polyglot

/-! ## The points of pieces -/

/-- A sum may be capped piece by piece before it is capped as a whole. -/
theorem capped_sum_map_capped {α : Type} (f : α → Nat) (l : List α) :
    capped (l.map fun a => capped (f a)).sum = capped (l.map f).sum := by
  induction l with
  | nil => rfl
  | cons a rest ih =>
    rw [List.map_cons, List.map_cons, List.sum_cons, List.sum_cons, capped_capped_add,
      ← capped_add_capped, ih, capped_add_capped]

namespace Signal

variable {s : Signal} {text : List Char} {pieces : List (List Char)}

/-- The points of the pieces before they are capped. -/
theorem sum_map_count_mul (h : s.count text = (pieces.map s.count).sum) :
    (pieces.map fun p => s.count p * s.weight.toNat).sum = s.count text * s.weight.toNat := by
  rw [List.sum_map_mul_right, h]

theorem score_eq_capped_sum (h : s.count text = (pieces.map s.count).sum) :
    s.score text = capped (pieces.map s.score).sum := by
  rw [score, ← sum_map_count_mul h, ← capped_sum_map_capped]
  rfl

/-- The points of the pieces add up, as long as there are no more than the most. -/
theorem score_eq_sum (h : s.count text = (pieces.map s.count).sum)
    (hmost : s.count text * s.weight.toNat ≤ maxPoints) :
    s.score text = (pieces.map s.score).sum := by
  rw [score_eq_capped_sum h]
  refine capped_of_le (Nat.le_trans ?_ hmost)
  rw [← sum_map_count_mul h]
  exact List.sum_le_sum fun p _ => Nat.min_le_left ..

end Signal

/-! ## Semicolons -/

/-- The places of the built-in signals that look at one statement at a time. -/
def statementSignals : List Nat :=
  [0, 3, 5, 6, 10, 11, 12, 13, 14, 15, 17, 18, 19, 20, 21, 24, 25]

/-- No match goes over a semicolon, and a match gives less than two points for each of its
characters. -/
structure IsStatement (weight : UInt32) (r : Pattern.Regex) : Prop where
  avoids : r.avoids ';'
  weight_lt : weight.toNat < 2 * r.minLength

instance (weight : UInt32) (r : Pattern.Regex) : Decidable (IsStatement weight r) :=
  decidable_of_iff (r.avoids ';' ∧ weight.toNat < 2 * r.minLength)
    ⟨fun ⟨h, h'⟩ => ⟨h, h'⟩, fun ⟨h, h'⟩ => ⟨h, h'⟩⟩

/-- The listed signals look for statements. -/
theorem isStatement_of_mem : ∀ i ∈ statementSignals,
    ∃ (_ : i < builtinSpecs.length) (_ : i < builtinRegexes.length),
      IsStatement builtinSpecs[i].weight builtinRegexes[i] := by
  decide +kernel

namespace SignalSpec

variable {spec : SignalSpec} {r : Pattern.Regex} (h : IsStatement spec.weight r)
include h

theorem count_append_semicolon (a b : List Char) :
    (spec.signalOf r).count (a ++ ';' :: b) =
      (spec.signalOf r).count a + (spec.signalOf r).count b :=
  Pattern.Automaton.count_append_cons h.avoids a b

/-- Matches within statements are those of the pieces between semicolons. -/
theorem count_splitOn_semicolon (text : List Char) :
    (spec.signalOf r).count text = ((text.splitOn ';').map (spec.signalOf r).count).sum :=
  Pattern.Automaton.count_eq_sum_splitOn h.avoids text

/-- A text of a length that can be stored gives fewer points than the most. -/
theorem points_le_maxPoints {text : List Char} (hlength : text.length < 2 ^ 63) :
    (spec.signalOf r).count text * spec.weight.toNat ≤ maxPoints := by
  have hcount : (spec.signalOf r).count text * r.minLength ≤ text.length :=
    Pattern.Automaton.count_mul_minLength_le r text
  calc
    (spec.signalOf r).count text * spec.weight.toNat
    _ ≤ (spec.signalOf r).count text * (2 * r.minLength) :=
      Nat.mul_le_mul_left _ (Nat.le_of_lt h.weight_lt)
    _ = 2 * ((spec.signalOf r).count text * r.minLength) := Nat.mul_left_comm ..
    _ ≤ 2 * text.length := Nat.mul_le_mul_left 2 hcount
    _ ≤ maxPoints := by
      simp only [maxPoints, UInt64.size]
      omega

end SignalSpec

namespace Detector

/-- **Statements are counted one by one.** Each of the built-in signals at `statementSignals`
matches two texts with a semicolon between them as often as it matches both together. Its matches
and its points for a text are the sums of those for the pieces between the semicolons. The points
stay at the largest number there is, which no text of fewer than `2 ^ 63` characters comes to. -/
theorem standard_counts_by_statement {i : Nat} (hi : i ∈ statementSignals) :
    standard? = .ok standard ∧ ∃ s, standard.signals[i]? = some s ∧
      (∀ a b : String, s.count (a ++ ";" ++ b).toList = s.count a.toList + s.count b.toList) ∧
      ∀ code : String, let pieces := code.toList.splitOn ';'
        s.count code.toList = (pieces.map s.count).sum ∧
        s.score code.toList = capped (pieces.map s.score).sum ∧
        (code.length < 2 ^ 63 → s.score code.toList = (pieces.map s.score).sum) := by
  obtain ⟨hspec, hregex, hstatement⟩ := isStatement_of_mem i hi
  rw [standard_eq]
  refine ⟨standard?_eq, _, getElem?_builtinSignals hspec hregex, fun a b => ?_, fun code => ?_⟩
  · have htext : (a ++ ";" ++ b).toList = a.toList ++ ';' :: b.toList := by simp
    rw [htext, SignalSpec.count_append_semicolon hstatement]
  · have hcount := SignalSpec.count_splitOn_semicolon hstatement code.toList
    refine ⟨hcount, Signal.score_eq_capped_sum hcount, fun hlength => ?_⟩
    exact Signal.score_eq_sum hcount (SignalSpec.points_le_maxPoints hstatement hlength)

/-- Two assignments are found one by one. -/
theorem standard_counts_by_statement_assignments :
    20 ∈ statementSignals ∧ "$a = 1;$b = 2".length < 2 ^ 63 ∧
      ∃ s, standard.signals[20]? = some s ∧ s.count "$a = 1;$b = 2".toList = 2 ∧
        s.count "$a = 1;$b = 2".toList = s.count "$a = 1".toList + s.count "$b = 2".toList ∧
        s.score "$a = 1;$b = 2".toList =
          (("$a = 1;$b = 2".toList.splitOn ';').map s.score).sum := by
  have h20 : 20 ∈ statementSignals := by decide
  have hlength : "$a = 1;$b = 2".length < 2 ^ 63 := by decide
  have hsignal : standard.signals[20]? = some (builtinSpecs[20].signalOf builtinRegexes[20]) := by
    rw [standard_eq]
    exact getElem?_builtinSignals (by decide) (by decide)
  have hcount : (builtinSpecs[20].signalOf builtinRegexes[20]).count "$a = 1;$b = 2".toList = 2 := by
    decide +kernel
  obtain ⟨-, s, hs, happend, hpieces⟩ := standard_counts_by_statement h20
  obtain rfl := Option.some.inj (hsignal.symm.trans hs)
  exact ⟨h20, hlength, _, hs, hcount, happend "$a = 1" "$b = 2", (hpieces _).2.2 hlength⟩

end Detector

end Polyglot
