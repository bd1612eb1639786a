import Mathlib.Algebra.Order.BigOperators.Group.List
import Mathlib.Algebra.Order.Ring.Nat
import Polyglot.Proofs.Classification.Growth
import Polyglot.Proofs.Pattern.Extent
import Polyglot.Proofs.Text.Glyphs
import Polyglot.Settings

/-!
# Points below the cap

The cap on points is out of reach for texts of a usual size. A signal has no more matches than a
text has places (`Pattern.Automaton.count_le_length_add_one`), and its weight is a number of 32
bits, so the number of signals and the length of the text bound everything that can be added up for
a language (`evidence_le_mul`). Where this bound is below the cap, the points in the standings are
the exact sums (`scores_are_exact`), so two languages are only level if nothing but the order can
decide between them.
-/

namespace Polyglot

variable {signals before : List Signal} {code : List Char} {language : String}

/-! ## Everything there is to add up -/

/-- What speaks for a language, without a cap. -/
def uncapped (signals : List Signal) (code : List Char) (language : String) : Nat :=
  evidence signals code language + Component.bonus code language

/-- The most that signals can give to one language. -/
theorem evidence_le_mul (signals : List Signal) (code : List Char) (language : String) :
    evidence signals code language ≤ signals.length * (code.length + 1) * (2 ^ 32 - 1) := by
  have hterm : ∀ n ∈ (signals.filter (·.language = language)).map
      (fun s => s.count code * s.weight.toNat), n ≤ (code.length + 1) * (2 ^ 32 - 1) := by
    intro n hn
    obtain ⟨s, -, rfl⟩ := List.mem_map.mp hn
    have hcount : s.count code ≤ code.length + 1 :=
      Pattern.Automaton.count_le_length_add_one s.automaton code
    exact Nat.mul_le_mul hcount (Nat.le_pred_of_lt s.weight.toNat_lt)
  have hlength : (signals.filter (·.language = language)).length ≤ signals.length :=
    List.length_filter_le ..
  calc evidence signals code language
    _ ≤ (signals.filter (·.language = language)).length * ((code.length + 1) * (2 ^ 32 - 1)) := by
      simpa [evidence] using List.sum_le_card_nsmul _ _ hterm
    _ ≤ signals.length * ((code.length + 1) * (2 ^ 32 - 1)) := Nat.mul_le_mul_right _ hlength
    _ = signals.length * (code.length + 1) * (2 ^ 32 - 1) := (Nat.mul_assoc ..).symm

theorem Component.bonus_le (code : List Char) (language : String) : bonus code language ≤ 10 := by
  rw [bonus]
  cases hover : override? code with
  | none => exact Nat.zero_le _
  | some given =>
    obtain ⟨id, points⟩ := given
    have hpoints : points ≤ 10 := by
      rcases override?_eq_some hover with ⟨-, rfl⟩ | ⟨-, rfl⟩ <;> decide
    dsimp only
    split
    · exact hpoints
    · exact Nat.zero_le _

/-- More signals give no less evidence. -/
theorem evidence_le_of_isPrefix (h : before <+: signals) (code : List Char) (language : String) :
    evidence before code language ≤ evidence signals code language := by
  obtain ⟨after, rfl⟩ := h
  rw [evidence_append]
  exact Nat.le_add_right ..

/-! ## Exact points -/

/-- The cap changes nothing in a classification. -/
structure IsExact (signals : List Signal) (code : List Char) : Prop where
  /-- The points of a signal are its matches, each with its weight. -/
  weighed : ∀ s ∈ signals, s.score code = s.count code * s.weight.toNat
  /-- After any number of signals the points of a language are what these signals give to it. -/
  added : ∀ before, before <+: signals → ∀ entry ∈ before.foldl (Standings.tally code) [],
    entry.2 = evidence before code entry.1
  /-- In the end the points of a language are all that speaks for it. -/
  told : ∀ entry ∈ standings signals code, entry.2 = uncapped signals code entry.1
  /-- Languages are level only if as much speaks for the one as for the other. -/
  level : ∀ entry ∈ standings signals code, ∀ entry' ∈ standings signals code,
    entry.2 = entry'.2 → uncapped signals code entry.1 = uncapped signals code entry'.1

/-- The points in the standings are exact if no language has more than fits below the cap. -/
theorem isExact_of_le (h : ∀ language, uncapped signals code language ≤ maxPoints) :
    IsExact signals code := by
  have hevidence (language : String) : evidence signals code language ≤ maxPoints :=
    Nat.le_trans (Nat.le_add_right ..) (h language)
  have htold : ∀ entry ∈ standings signals code, entry.2 = uncapped signals code entry.1 := by
    intro entry hentry
    have hpoints := Standings.points_of_mem (nodup_languages_standings signals code) hentry
    rw [points_standings] at hpoints
    rw [← hpoints]
    exact capped_of_le (h entry.1)
  refine ⟨fun s hs => ?_, fun before hbefore entry hentry => ?_, htold, ?_⟩
  · exact capped_of_le (Nat.le_trans (count_mul_weight_le_evidence hs code) (hevidence s.language))
  · have hpoints :=
      Standings.points_of_mem (Standings.nodup_languages_foldl_tally code before) hentry
    rw [Standings.points_foldl_tally code before (Nat.zero_le _), Standings.points_nil,
      Nat.zero_add] at hpoints
    have hle : evidence before code entry.1 ≤ maxPoints :=
      Nat.le_trans (evidence_le_of_isPrefix hbefore code entry.1) (hevidence entry.1)
    rw [← hpoints]
    exact capped_of_le hle
  · intro entry hentry entry' hentry' heq
    rw [← htold entry hentry, ← htold entry' hentry', heq]

/-- **Points are exact below a bound.** A signal has one match more than a text has characters, at
most. So if the number of signals, the places of the text and the largest weight make a product that
stays below the cap together with the points for markup, then nothing is capped: each language has
in the standings exactly what speaks for it, and two languages are level only if these sums are
equal. The bound holds for up to 4095 signals and every text that the preset settings let through.
-/
theorem scores_are_exact :
    (∀ (s : Signal) (code : List Char), s.count code ≤ code.length + 1) ∧
    (∀ (signals : List Signal) (code : List Char),
      signals.length * (code.length + 1) * (2 ^ 32 - 1) + 10 < 2 ^ 64 → IsExact signals code) ∧
    ∀ (signals : List Signal) (code : String), signals.length ≤ 4095 →
      code.utf8ByteSize ≤ ({} : Settings).maxInputBytes →
      signals.length * (code.toList.length + 1) * (2 ^ 32 - 1) + 10 < 2 ^ 64 := by
  refine ⟨fun s code => Pattern.Automaton.count_le_length_add_one s.automaton code,
    fun signals code hbound => isExact_of_le fun language => ?_, fun signals code hsignals hsize => ?_⟩
  · have hevidence := evidence_le_mul signals code language
    have hbonus := Component.bonus_le code language
    rw [uncapped]
    simp only [maxPoints, UInt64.size]
    omega
  · have hlength : code.toList.length ≤ 1048576 :=
      Nat.le_trans (Text.length_le_utf8ByteSize code) hsize
    have hproduct : signals.length * (code.toList.length + 1) ≤ 4095 * (1048576 + 1) :=
      Nat.mul_le_mul hsignals (Nat.succ_le_succ hlength)
    omega

/-- Two signals of the largest weight, one of which matches at every place. -/
def heaviestSignals : List Signal := (SignalSpec.compileAll
  [⟨"B*", "go", 0xffffffff, false⟩, ⟨"A", "ruby", 0xffffffff, false⟩]).toOption.getD []

/-- In a text of two characters there are three places, and all of them count. -/
theorem scores_are_exact_heaviest :
    heaviestSignals.length ≤ 4095 ∧ "AA".utf8ByteSize ≤ ({} : Settings).maxInputBytes ∧
      IsExact heaviestSignals "AA".toList ∧
      standings heaviestSignals "AA".toList =
        [("go", 3 * (2 ^ 32 - 1)), ("ruby", 2 * (2 ^ 32 - 1))] := by
  have hsignals : heaviestSignals.length ≤ 4095 := by decide +kernel
  have hsize : "AA".utf8ByteSize ≤ ({} : Settings).maxInputBytes := by decide
  obtain ⟨-, hexact, hbound⟩ := scores_are_exact
  exact ⟨hsignals, hsize, hexact _ _ (hbound _ _ hsignals hsize), by decide +kernel⟩

end Polyglot
