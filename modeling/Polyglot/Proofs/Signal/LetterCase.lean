import Polyglot.Proofs.Classification.Growth
import Polyglot.Proofs.Pattern.Likeness
import Polyglot.Proofs.Signal.Parts
import Polyglot.Proofs.Text.LetterCase

/-!
# Letter case and the signals for SQL

The two signals for SQL do not look at the case of letters: none of their sets tells a letter of
ASCII from the same letter in the other case. So two texts that differ in nothing else have as many
matches of each, wherever the keywords stand and whatever is named like one
(`Detector.standard_ignores_case_in_sql`).
-/

namespace Polyglot

open Pattern (Automaton Regex)
open Text (IsAscii)

variable {c d : Char} {text text' : List Char} {r : Regex}

namespace Pattern

/-- An expression that confuses the ASCII letters of either case confuses all that differ in
case. -/
theorem Regex.confuses_of_toLower_eq
    (hr : ∀ n < 128, r.Confuses (Char.ofNat n) (Char.ofNat n).toLower)
    (h : c.toLower = d.toLower) : r.Confuses c d := by
  have hlower := Text.rel_toLower (r := fun a b => r.Confuses a b) r.confuses_refl hr
  exact (hlower c).trans (h ▸ (hlower d).symm)

end Pattern

/-- The places of the built-in signals for SQL. -/
def sqlSignals : List Nat := [18, 19]

/-- The two signals do not tell the letters of ASCII by their case. -/
theorem confuses_of_mem_sqlSignals : ∀ i ∈ sqlSignals, ∀ (h : i < builtinRegexes.length),
    ∀ n < 128, builtinRegexes[i].Confuses (Char.ofNat n) (Char.ofNat n).toLower := by
  decide +kernel

/-- No other signal is for the query language. -/
theorem mem_sqlSignals_of_language : ∀ (i : Nat) (h : i < builtinSpecs.length),
    builtinSpecs[i].language = "sql" → i ∈ sqlSignals := by
  decide +kernel

theorem count_eq_of_sameLetters {i : Nat} (hi : i ∈ sqlSignals) {s : Signal}
    (hs : builtinSignals[i]? = some s) (h : SameLetters text text') :
    s.count text = s.count text' := by
  obtain ⟨spec, r, hr, rfl⟩ := exists_of_getElem?_builtinSignals hs
  obtain ⟨hlt, rfl⟩ := List.getElem?_eq_some_iff.mp hr
  refine Automaton.count_eq_of_confused (h.imp fun c d hcd => ?_)
  exact Regex.confuses_of_toLower_eq (confuses_of_mem_sqlSignals i hi hlt) hcd

/-- SQL has its points from its two signals alone. -/
theorem total_sql_congr (h : SameLetters text text') :
    total builtinSignals text "sql" = total builtinSignals text' "sql" := by
  have hcount : ∀ s ∈ builtinSignals, s.language = "sql" → s.count text = s.count text' := by
    intro s hs hlanguage
    obtain ⟨i, hi⟩ := List.getElem?_of_mem hs
    obtain ⟨spec, r, hspec, -, rfl⟩ := List.getElem?_zipWith_eq_some.mp hi
    obtain ⟨hlt, rfl⟩ := List.getElem?_eq_some_iff.mp hspec
    exact count_eq_of_sameLetters (mem_sqlSignals_of_language i hlt hlanguage) hi h
  have hevidence : evidence builtinSignals text "sql" = evidence builtinSignals text' "sql" :=
    Nat.le_antisymm (evidence_le fun s hs hl => Nat.le_of_eq (hcount s hs hl))
      (evidence_le fun s hs hl => Nat.le_of_eq (hcount s hs hl).symm)
  rw [total, total, hevidence, bonus_eq_zero (by decide) (by decide),
    bonus_eq_zero (by decide) (by decide)]

namespace Detector

/-- **SQL is found in either case.** In two texts that are the same up to the case of ASCII letters,
each of the two built-in signals for SQL matches equally often, and SQL has the same points. -/
theorem standard_ignores_case_in_sql {code code' : String}
    (h : SameLetters code.toList code'.toList) :
    standard? = .ok standard ∧
    (∀ i ∈ sqlSignals, ∃ s, standard.signals[i]? = some s ∧ s.language = "sql" ∧
      s.count code.toList = s.count code'.toList) ∧
    (standings standard.signals code.toList).points "sql" =
      (standings standard.signals code'.toList).points "sql" := by
  rw [standard_eq]
  refine ⟨standard?_eq, fun i hi => ?_, ?_⟩
  · have hplace : i < builtinSpecs.length ∧ i < builtinRegexes.length := by
      revert i
      decide
    have hs := getElem?_builtinSignals hplace.1 hplace.2
    refine ⟨_, hs, ?_, count_eq_of_sameLetters hi hs h⟩
    have hlanguage : ∀ i ∈ sqlSignals, ∀ (h : i < builtinSpecs.length),
      builtinSpecs[i].language = "sql" := by decide
    exact hlanguage i hi hplace.1
  · rw [points_standings, points_standings]
    exact total_sql_congr h

/-- A column and a table that are named like keywords, in mixed case. -/
theorem standard_ignores_case_in_sql_keywords :
    SameLetters "select from from from".toList "SELECT frOM From FROM".toList ∧
      ∃ s, standard.signals[18]? = some s ∧ s.count "select from from from".toList = 1 ∧
        s.count "select from from from".toList = s.count "SELECT frOM From FROM".toList := by
  have h : SameLetters "select from from from".toList "SELECT frOM From FROM".toList := by decide
  have hsteady : builtinRegexes[18].isSteady := by decide
  have hcount : (builtinSpecs[18].signalOf builtinRegexes[18]).count
      "select from from from".toList = 1 := by
    simp only [Signal.count, SignalSpec.signalOf, Automaton.count_eq_tally hsteady]
    decide +kernel
  have hsignal := getElem?_standard (i := 18) (by decide) (by decide)
  obtain ⟨s, hs, -, hsame⟩ := (standard_ignores_case_in_sql h).2.1 18 (by decide)
  obtain rfl := Option.some.inj (hsignal.symm.trans hs)
  exact ⟨h, _, hs, hcount, hsame⟩

end Detector

end Polyglot
