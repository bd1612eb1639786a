import Polyglot.Proofs.Classification.Growth
import Polyglot.Proofs.Signal.Silence

/-!
# Component tags and component markup

Component markup is looked for twice: by a built-in signal for tags with attributes, and by the test
that gives points to one of two dialects. The two agree. Every match of the signal begins with what
the test calls a tag (`hasTag_of_ways_tags`), so a text on which the signal fires has the points of
the test too, and these points are not lost, whatever other signals there are: nothing with fewer
points is reported (`le_total_classify`).
-/

namespace Polyglot

open Pattern (Automaton Place Regex suffix_of_mem_placesFrom)
open Unicode (CharSet)

variable {text code : List Char} {p : Place} {r : Regex} {language : String} {points : Nat}
  {signals : List Signal}

/-! ## Tags -/

namespace Component

theorem hasTag_of_suffix {rest : List Char} (h : rest <:+ text) (htag : hasTag rest) :
    hasTag text := by
  obtain ⟨ahead, rfl⟩ := h
  obtain ⟨before, c, after, rfl, hc⟩ := hasTag_iff.mp htag
  exact hasTag_iff.mpr ⟨ahead ++ before, c, after, (List.append_assoc ..).symm, hc⟩

/-- A tag is markup, of either dialect. -/
theorem override?_of_hasTag (h : hasTag text) :
    override? text = some ("tsx", 10) ∨ override? text = some ("jsx", 8) := by
  have hcomponent : isComponent text = true := by rw [isComponent, h, Bool.or_true]
  rw [override?, hcomponent]
  cases isTyped text with
  | true => exact .inl rfl
  | false => exact .inr rfl

end Component

theorem isUpper_of_contains {c : Char} (h : (CharSet.range 'A' 'Z').contains c) : c.isUpper := by
  rw [CharSet.contains_range, Bool.and_eq_true, decide_eq_true_eq, decide_eq_true_eq] at h
  exact decide_eq_true ⟨UInt32.le_iff_toNat_le.mpr h.1, UInt32.le_iff_toNat_le.mpr h.2⟩

section

open Pattern.Regex

/-- What a match of the signal for tags begins with. -/
def tagOpening : List Regex := letters "<" ++ oneOf (.range 'A' 'Z')

theorem builtinRegexes_tags : builtinRegexes[4]? = some (series (tagOpening ++
    (many ((CharSet.range 'A' 'Z').union (.range 'a' 'z')) ++ space ++ many (allBut '>') ++
      letters ">"))) := rfl

/-- Where the signal for tags matches, there is a tag. -/
theorem hasTag_of_ways_tags (hr : builtinRegexes[4]? = some r) (h : r.ways p ≠ []) :
    Component.hasTag p.rest := by
  obtain rfl := Option.some.inj (builtinRegexes_tags.symm.trans hr)
  obtain ⟨q, hq⟩ := List.exists_mem_of_ne_nil _ h
  obtain ⟨m, hm, -⟩ := mem_ways_series_append.mp hq
  have htakes : (series tagOpening).Takes _ := takes_append (takes_letters "<") takes_one
  obtain ⟨_, ⟨_, _, rfl, rfl, c, hc, rfl⟩, hrest⟩ := (htakes _ _ _).mp ⟨m.before, hm⟩
  exact Component.hasTag_iff.mpr ⟨[], c, m.rest, hrest, isUpper_of_contains hc⟩

/-- If the signal for tags finds anything, the text has a tag. -/
theorem hasTag_of_count_tags (hr : builtinRegexes[4]? = some r)
    (h : 0 < (Automaton.ofRegex r).count text) : Component.hasTag text := by
  have hsteady : r.isSteady := isSteady_of_mem_builtinRegexes r (List.mem_of_getElem? hr)
  obtain ⟨p, hp, hways⟩ := (Automaton.count_pos_iff hsteady).mp h
  exact Component.hasTag_of_suffix (suffix_of_mem_placesFrom hp) (hasTag_of_ways_tags hr hways)

end

/-! ## Points -/

/-- A bound on evidence and bonus is one on the total, if it is no more than the most points. -/
theorem le_total {n : Nat} (h : n ≤ evidence signals code language + Component.bonus code language)
    (hn : n ≤ maxPoints) : n ≤ total signals code language := Nat.le_min.mpr ⟨h, hn⟩

theorem bonus_of_override? (h : Component.override? code = some (language, points)) :
    Component.bonus code language = points := by
  simp only [Component.bonus, h, if_true]

/-- Markup gives its points under all signals. -/
theorem le_total_of_override? (signals : List Signal)
    (h : Component.override? code = some (language, points)) :
    points ≤ total signals code language := by
  refine le_total ?_ (Component.override?_bounds h).2
  rw [bonus_of_override? h]
  exact Nat.le_add_left ..

/-- Signals without weight are no evidence. -/
theorem evidence_weighty (signals : List Signal) (code : List Char) (language : String) :
    evidence (weighty signals) code language = evidence signals code language := by
  induction signals with
  | nil => rfl
  | cons signal rest ih =>
    rw [evidence_cons, ← ih]
    by_cases h : 0 < signal.weight
    · rw [weighty, List.filter_cons_of_pos (by simpa using h), evidence_cons]
      rfl
    · have hweight : signal.weight = 0 := by simpa [UInt32.pos_iff_ne_zero] using h
      rw [weighty, List.filter_cons_of_neg (by simpa using h), hweight]
      simp [weighty]

/-- Nothing that has fewer points than markup is reported. -/
theorem le_total_classify {code : String} (catalog : Catalog) (signals : List Signal)
    (h : Component.override? code.toList = some (language, points)) :
    points ≤ total signals code.toList (classify catalog signals code).language := by
  have hweights : ∀ s ∈ weighty signals, 0 < s.weight := weight_pos_of_mem_weighty
  have hclassified := classified_classify catalog hweights code
  have hcandidate : IsCandidate (weighty signals) code.toList language := .inr ⟨points, h⟩
  have htotal (l : String) :
      total (weighty signals) code.toList l = total signals code.toList l := by
    rw [total, total, evidence_weighty]
  rw [← classify_weighty]
  generalize classify catalog (weighty signals) code = found at hclassified ⊢
  cases hclassified with
  | blank hblank => cases (Component.override?_eq_none_of_blank hblank).symm.trans h
  | unmatched _ hnone => exact absurd hcandidate (hnone language)
  | @won winner _ hwins =>
    calc points
      _ ≤ total signals code.toList language := le_total_of_override? signals h
      _ ≤ total signals code.toList winner := by
        rw [← htotal, ← htotal]
        exact hwins.most language hcandidate

/-- A language with evidence has fired. -/
theorem isFired_of_evidence_pos (h : 0 < evidence signals code language) :
    IsFired signals code language := by
  induction signals with
  | nil => cases h
  | cons signal rest ih =>
    rw [evidence_cons] at h
    rw [← List.singleton_append, isFired_append, isFired_singleton]
    by_cases hrest : 0 < evidence rest code language
    · exact .inr (ih hrest)
    · left
      split at h
      · next hlanguage =>
        have hpos : 0 < signal.count code * signal.weight.toNat := by omega
        exact ⟨hlanguage, Nat.pos_of_mul_pos_right hpos⟩
      · omega

/-- Markup says nothing for `text`, so what `text` has comes from its signals. -/
theorem fired_of_le_total_text (hpoints : 0 < points) (h : points ≤ total signals code "text") :
    IsFired signals code "text" ∧ points ≤ evidence signals code "text" := by
  have hbonus : Component.bonus code "text" = 0 := bonus_eq_zero (by decide) (by decide) code
  have hevidence : points ≤ evidence signals code "text" := by
    rw [total, hbonus, Nat.add_zero] at h
    exact Nat.le_trans h (Nat.min_le_left ..)
  exact ⟨isFired_of_evidence_pos (Nat.lt_of_lt_of_le hpoints hevidence), hevidence⟩

namespace Detector

/-- **Tags and markup do not disagree.** Where the built-in signal for component tags fires, there
is component markup, so the standings have `jsx` with 13 points or more, or `jsx` with 5 and `tsx`
with 10 or more. And wherever there is markup, with whatever points, the language that is reported
has no fewer points, under all signals and every catalog; if it is `text`, then signals for `text`
fire that give it as many. -/
theorem standard_tags_are_markup :
    (standard? = .ok standard ∧ ∃ s, standard.signals[4]? = some s ∧ s.language = "jsx" ∧
      ∀ code, 0 < s.count code → Component.override? code ≠ none ∧
        (13 ≤ (standings standard.signals code).points "jsx" ∨
          5 ≤ (standings standard.signals code).points "jsx" ∧
            10 ≤ (standings standard.signals code).points "tsx")) ∧
    ∀ (code : String) (language : String) (points : Nat),
      Component.override? code.toList = some (language, points) →
      ∀ (catalog : Catalog) (signals : List Signal),
        points ≤ total signals code.toList (Polyglot.classify catalog signals code).language ∧
        ((Polyglot.classify catalog signals code).language = "text" →
          IsFired signals code.toList "text" ∧ points ≤ evidence signals code.toList "text") := by
  rw [standard_eq]
  have hsignal := getElem?_builtinSignals (i := 4) (by decide) (by decide)
  refine ⟨⟨standard?_eq, _, hsignal, rfl, fun code hcount => ?_⟩,
    fun code language points hover catalog signals => ?_⟩
  · have htag : Component.hasTag code := hasTag_of_count_tags rfl hcount
    have hjsx : 5 ≤ evidence builtinSignals code "jsx" := by
      have hle := count_mul_weight_le_evidence (List.mem_of_getElem? hsignal) code
      exact Nat.le_trans (Nat.le_mul_of_pos_left 5 hcount) hle
    simp only [points_standings]
    rcases Component.override?_of_hasTag htag with hover | hover
    · refine ⟨by simp [hover], .inr ⟨le_total ?_ (by decide), le_total_of_override? _ hover⟩⟩
      exact Nat.le_add_right_of_le hjsx
    · refine ⟨by simp [hover], .inl (le_total ?_ (by decide))⟩
      rw [bonus_of_override? hover]
      exact Nat.add_le_add_right hjsx 8
  · have hle := le_total_classify catalog signals hover
    refine ⟨hle, fun htext => ?_⟩
    rw [htext] at hle
    exact fired_of_le_total_text (Component.override?_bounds hover).1 hle

/-- A signal for `text` that comes level with untyped markup. -/
def attributeSignals : List Signal :=
  (SignalSpec.compileAll [⟨"id=", "text", 8, false⟩]).toOption.getD []

/-- A tag with an attribute is found by the built-in signal and by the test for markup. For another
signal it is `text`, with as many points as markup has. -/
theorem standard_tags_are_markup_level :
    (∃ s, standard.signals[4]? = some s ∧ 0 < s.count "<App id=1>".toList ∧
      Component.override? "<App id=1>".toList ≠ none) ∧
    Component.override? "<App id=1>".toList = some ("jsx", 8) ∧
    (Polyglot.classify .empty attributeSignals "<App id=1>").language = "text" ∧
    IsFired attributeSignals "<App id=1>".toList "text" ∧
    8 ≤ evidence attributeSignals "<App id=1>".toList "text" := by
  have hsteady : builtinRegexes[4].isSteady := by decide
  have hcount : 0 < (builtinSpecs[4].signalOf builtinRegexes[4]).count "<App id=1>".toList := by
    simp only [Signal.count, SignalSpec.signalOf, Automaton.count_eq_tally hsteady]
    decide +kernel
  have hsignal := getElem?_standard (i := 4) (by decide) (by decide)
  have hover : Component.override? "<App id=1>".toList = some ("jsx", 8) := by decide
  have hlanguage : (Polyglot.classify .empty attributeSignals "<App id=1>").language = "text" := by
    have hblank : isBlank "<App id=1>".toList = false := by decide +kernel
    have hleader : (standings attributeSignals "<App id=1>".toList).leader = some ("text", 8) := by
      decide +kernel
    rw [Polyglot.classify, if_neg (Bool.eq_false_iff.mp hblank), hleader]
  obtain ⟨⟨-, s, hs, -, htags⟩, hmarkup⟩ := standard_tags_are_markup
  obtain rfl := Option.some.inj (hsignal.symm.trans hs)
  exact ⟨⟨_, hsignal, hcount, (htags _ hcount).1⟩, hover, hlanguage,
    (hmarkup _ _ _ hover .empty attributeSignals).2 hlanguage⟩

end Detector

end Polyglot
