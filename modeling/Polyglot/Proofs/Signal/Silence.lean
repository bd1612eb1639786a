import Polyglot.Proofs.ByteScans
import Polyglot.Proofs.Detection
import Polyglot.Proofs.Signal.Parts

/-!
# The two answers for texts in no language

The standard detector has two names for texts in no language: `Plain Text` is for blank texts, and
`Text` for those that say nothing. Each is given to those texts and to no others
(`Detector.standard_means_what_it_says`), because no built-in signal and no component markup stands
for `text`.

A blank text is not looked at any further, and nothing is missed by this: every match of a built-in
expression takes a character that is not white space (`demands_of_mem_builtinRegexes`), and so does
component markup.
-/

namespace Polyglot

open Pattern (Automaton)
open Unicode (isWhiteSpace whiteSpace)

variable {word text : List Char}

/-! ## Component markup -/

namespace Component

/-- A text that has a word has its characters. -/
theorem subset_of_hasWord (h : hasWord word text) : word ⊆ text := by
  induction text with
  | nil =>
    rw [hasWord, List.isEmpty_iff] at h
    exact h ▸ List.Subset.refl _
  | cons c rest ih =>
    rw [hasWord, Bool.or_eq_true] at h
    rcases h with h | h
    · exact (List.isPrefixOf_iff_prefix.mp h).subset
    · exact List.subset_cons_of_subset c (ih h)

theorem mem_of_hasTag (h : hasTag text) : '<' ∈ text := by
  obtain ⟨before, c, after, rfl, -⟩ := hasTag_iff.mp h
  simp

/-- What shows a component: the letters of a word, or the beginning of a tag. -/
theorem subset_or_mem_of_isComponent (h : isComponent text) :
    "React".toList ⊆ text ∨ '<' ∈ text := by
  rw [isComponent, Bool.or_eq_true, Bool.or_eq_true] at h
  rcases h with (h | h) | h
  · exact .inl (List.Subset.trans (by decide) (subset_of_hasWord h))
  · exact .inl (List.Subset.trans (by decide) (subset_of_hasWord h))
  · exact .inr (mem_of_hasTag h)

/-- Whatever shows a component has a character that is not white space. -/
theorem exists_ink_of_isComponent (h : isComponent text) : ∃ c ∈ text, ¬isWhiteSpace c := by
  rcases subset_or_mem_of_isComponent h with h | h
  · exact ⟨'R', h (by decide), by decide⟩
  · exact ⟨'<', h, by decide⟩

/-- A text that is no component is not decided as one. -/
theorem override?_eq_none (h : ¬isComponent text) : override? text = none := by
  rw [override?, Bool.eq_false_iff.mpr h]
  rfl

/-- A blank text is no component. -/
theorem override?_eq_none_of_blank (h : ∀ c ∈ text, isWhiteSpace c) : override? text = none := by
  refine override?_eq_none fun hcomponent => ?_
  obtain ⟨c, hc, hink⟩ := exists_ink_of_isComponent hcomponent
  exact hink (h c hc)

end Component

/-! ## The built-in signals -/

/-- Every match of a built-in expression takes a character that is not white space. -/
theorem demands_of_mem_builtinRegexes :
    ∀ r ∈ builtinRegexes, r.demands (·.isApart whiteSpace) := by
  decide +kernel

/-- **A blank text says nothing.** -/
theorem isSilent_of_blank (h : ∀ c ∈ text, isWhiteSpace c) : IsSilent builtinSignals text where
  unfired s hs := by
    obtain ⟨spec, -, r, hr, rfl⟩ := exists_of_mem_builtinSignals hs
    refine Automaton.count_eq_zero_of_demands (isSteady_of_mem_builtinRegexes r hr)
      (demands_of_mem_builtinRegexes r hr) fun set hset c hc hin => ?_
    exact Unicode.CharSet.not_contains_of_isApart hset hin (h c hc)
  unmarked := Component.override?_eq_none_of_blank h

/-- Nothing speaks for the language that texts in no language have. -/
theorem not_isCandidate_text : ¬IsCandidate builtinSignals text "text" := by
  rintro (⟨s, hs, hlanguage, -⟩ | ⟨points, hmarked⟩)
  · obtain ⟨spec, hspec, r, -, rfl⟩ := exists_of_mem_builtinSignals hs
    have hother : ∀ spec ∈ builtinSpecs, spec.language ≠ "text" := by decide
    exact hother spec hspec hlanguage
  · rcases Component.override?_eq_some hmarked with ⟨h, -⟩ | ⟨h, -⟩ <;> exact absurd h (by decide)

namespace Detector

/-- What a report that goes by the text alone says about the text. -/
structure MeansWhatItSays (d : Detector) (code : List Char) (found : Detection) : Prop where
  blank : found = ⟨"text", "Plain Text"⟩ ↔ ∀ c ∈ code, isWhiteSpace c
  /-- There is nothing in a blank text that could be missed. -/
  clear : (∀ c ∈ code, isWhiteSpace c) → IsSilent d.signals code
  silent : found = ⟨"text", "Text"⟩ ↔ ¬(∀ c ∈ code, isWhiteSpace c) ∧ IsSilent d.signals code
  told : found = ⟨"text", "Plain Text"⟩ ∨ found = ⟨"text", "Text"⟩ ∨
    found.language ≠ "text" ∧ IsCandidate d.signals code found.language

/-- **The two answers for texts in no language mean what they say.** Without a file name, a text is
`Plain Text` if and only if it is blank, and then no signal and no component markup is in it; it is
`Text` if and only if it is not blank and none is in it either. Every other answer is another
language than `text`, one that a signal fires for or that component markup names. -/
theorem standard_means_what_it_says (code : String) :
    standard? = .ok standard ∧ standard.signals.length = 27 ∧
      standard.MeansWhatItSays code.toList (standard.detect code none) := by
  have hclassified := classified_classify standard.catalog
    (fun s hs => (isOrderly_standard.signals s hs).2) code
  rw [detect_none, classify]
  rw [standard_eq] at hclassified ⊢
  refine ⟨standard?_eq, length_builtinSignals, ?_⟩
  generalize Polyglot.classify _ _ _ = found at hclassified ⊢
  cases hclassified with
  | blank hblank => exact {
      blank := iff_of_true rfl hblank
      clear := isSilent_of_blank
      silent := iff_of_false (by decide) fun h => h.1 hblank
      told := .inl rfl }
  | unmatched hnot hnone => exact {
      blank := iff_of_false (by decide) hnot
      clear := isSilent_of_blank
      silent := iff_of_true rfl ⟨hnot, isSilent_iff.mpr hnone⟩
      told := .inr (.inl rfl) }
  | @won language hnot hwins =>
    have hlanguage : language ≠ "text" := by
      rintro rfl
      exact not_isCandidate_text hwins.candidate
    exact {
      blank := iff_of_false (fun h => hlanguage (congrArg Detection.language h)) hnot
      clear := isSilent_of_blank
      silent := iff_of_false (fun h => hlanguage (congrArg Detection.language h))
        fun h => isSilent_iff.mp h.2 language hwins.candidate
      told := .inr (.inr ⟨hlanguage, hwins.candidate⟩) }

end Detector

end Polyglot
