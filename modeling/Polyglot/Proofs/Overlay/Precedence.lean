import Polyglot.Proofs.Classification
import Polyglot.Proofs.Overlay

/-!
# What an overlay changes

The signals of an overlay come after those of the detector. Where none of them fires, the standings
are the same as before, so the same language is reported. Where some fire, a language that the
detector had no evidence for comes in behind every language that it had evidence for, and has to
have more points than each of them (`Detector.overlay_yields`).
-/

namespace Polyglot

variable {signals more : List Signal} {code : List Char} {language other : String}

/-! ## Signals that come after others -/

/-- A signal that finds nothing gives no points. -/
theorem tally_of_count_eq_zero {signal : Signal} (h : signal.count code = 0) (s : Standings) :
    s.tally code signal = s := by
  refine Standings.tally_of_score_eq_zero ?_ s
  rw [Signal.score, h, Nat.zero_mul]
  rfl

/-- Signals that do not fire leave the standings as they are. -/
theorem standings_append_of_silent (h : ∀ s ∈ more, s.count code = 0) :
    standings (signals ++ more) code = standings signals code := by
  have hfold (s : Standings) : more.foldl (Standings.tally code) s = s := by
    induction more with
    | nil => rfl
    | cons signal rest ih =>
      obtain ⟨hsignal, hrest⟩ := List.forall_mem_cons.mp h
      rw [List.foldl_cons, tally_of_count_eq_zero hsignal, ih hrest]
  simp only [standings, List.foldl_append, hfold]

/-- A winner that no earlier signal fires for has more points than all languages that one does. -/
theorem Wins.lt_of_late (h : Wins (signals ++ more) code language)
    (hlate : ¬IsFired signals code language) (hother : IsFired signals code other) :
    total (signals ++ more) code other < total (signals ++ more) code language := by
  have hcandidate : IsCandidate (signals ++ more) code other :=
    .inl ((isFired_append more).mpr (.inl hother))
  have hne : other ≠ language := by
    rintro rfl
    exact hlate hother
  refine Nat.lt_of_le_of_ne (h.most other hcandidate) fun heq => ?_
  -- if they were level, the earlier signal would decide
  have hbefore := h.first other hcandidate hne heq
  have hrank := rank_lt_length_iff.mpr hother
  have hbehind := length_le_rank_append more hlate
  rw [rank_append_of_fired more hother] at hbefore
  omega

theorem classify_of_blank (catalog : Catalog) (signals : List Signal) {code : String}
    (h : ∀ c ∈ code.toList, Unicode.isWhiteSpace c) :
    classify catalog signals code = ⟨"text", "Plain Text"⟩ := by
  rw [classify, if_pos (isBlank_iff.mpr h)]
  rfl

/-- The language that is reported depends on the standings, and not on the names in a catalog. -/
theorem language_classify_congr (c c' : Catalog) {signals' : List Signal} {code : String}
    (h : standings signals code.toList = standings signals' code.toList) :
    (classify c signals code).language = (classify c' signals' code).language := by
  simp only [classify, h]
  split
  · rfl
  · split <;> rfl

/-! ## Signals that are readied -/

namespace SignalSpec

/-- The signals of an overlay are those of its declarations. -/
theorem mem_readied {signal : Signal} {ss : List SignalSpec} :
    signal ∈ readied ss ↔ ∃ s ∈ ss, s.compile = .ok signal := by
  simp only [readied, List.mem_filterMap]
  refine exists_congr fun s => and_congr_right fun _ => ?_
  cases s.compile <;> simp [Except.toOption]

/-- A signal that is readied is for a valid identifier and has points to give. -/
theorem checked_of_compile {s : SignalSpec} {signal : Signal} (h : s.compile = .ok signal) :
    isLanguageId signal.language ∧ 0 < signal.weight := by
  have hsound := isSound_of_compile h
  have hyields := yields_of_compile h
  exact ⟨hyields.language ▸ hsound.language, hyields.weight ▸ hsound.weight⟩

/-- A signal that comes of a declaration has a weight. -/
theorem weight_pos_of_compile {s : SignalSpec} {signal : Signal} (h : s.compile = .ok signal) :
    0 < signal.weight :=
  (checked_of_compile h).2

end SignalSpec

/-! ## Overlays -/

namespace Detector

/-- The signals after an overlay are those of the detector and then those of the overlay. -/
theorem signals_of_withOverlay {d d' : Detector} {o : Overlay} (h : d.withOverlay o = .ok d') :
    d'.signals = d.signals ++ SignalSpec.readied o.signals := by
  obtain ⟨-, rfl⟩ := withOverlay_eq_ok_iff.mp h
  rfl

/-- **An overlay adds to what is reported and loses ties.** Where no signal of the overlay fires,
the language is the same as before. A language for which no signal of the detector fires is reported
only if it has more points than every language for which one does. A blank text is plain text
whatever the signals match. -/
theorem overlay_yields {d d' : Detector} {o : Overlay} (hw : ∀ s ∈ d.signals, 0 < s.weight)
    (h : d.withOverlay o = .ok d') (code : String) :
    (¬(∀ c ∈ code.toList, Unicode.isWhiteSpace c) →
      ((∀ spec ∈ o.signals, ∀ s, spec.compile = .ok s → s.count code.toList = 0) →
        (d'.classify code).language = (d.classify code).language) ∧
      ∀ language, (d'.classify code).language = language →
        ¬IsFired d.signals code.toList language →
        ∀ other, IsFired d.signals code.toList other →
          total d'.signals code.toList other < total d'.signals code.toList language) ∧
    ((∀ c ∈ code.toList, Unicode.isWhiteSpace c) →
      d.classify code = ⟨"text", "Plain Text"⟩ ∧ d'.classify code = ⟨"text", "Plain Text"⟩) := by
  have hsignals := signals_of_withOverlay h
  refine ⟨fun hblank => ⟨fun hsilent => ?_, ?_⟩, fun hblank => ?_⟩
  · refine language_classify_congr _ _ ?_
    rw [hsignals]
    refine standings_append_of_silent fun s hs => ?_
    obtain ⟨spec, hspec, hcompile⟩ := SignalSpec.mem_readied.mp hs
    exact hsilent spec hspec s hcompile
  · rintro language rfl hlate other hother
    have hweights : ∀ s ∈ d'.signals, 0 < s.weight := by
      rw [hsignals]
      refine List.forall_mem_append.mpr ⟨hw, fun s hs => ?_⟩
      obtain ⟨spec, -, hcompile⟩ := SignalSpec.mem_readied.mp hs
      exact SignalSpec.weight_pos_of_compile hcompile
    have hcandidate : IsCandidate d'.signals code.toList other := by
      rw [hsignals]
      exact .inl ((isFired_append _).mpr (.inl hother))
    have hclassified := classified_classify d'.catalog hweights code
    rw [← Detector.classify] at hclassified
    generalize d'.classify code = found at hclassified hlate ⊢
    cases hclassified with
    | blank hall => exact absurd hall hblank
    | unmatched _ hnone => exact absurd hcandidate (hnone other)
    | won _ hwins =>
      rw [hsignals] at hwins ⊢
      exact hwins.lt_of_late hlate hother
  · exact ⟨classify_of_blank _ _ hblank, classify_of_blank _ _ hblank⟩

/-- A detector for one word. -/
def oneWord : Detector := ⟨.empty, SignalSpec.readied [⟨"Widget", "ruby", 5, false⟩]⟩

/-- An overlay whose signal matches the same word and gives one point more, and which has another
signal that matches white space. -/
def heavierWord : Overlay :=
  ⟨[⟨"erb", "ERB", ["erb"]⟩], [⟨"Widget", "erb", 6, false⟩, ⟨"\\s", "haml", 1, false⟩]⟩

/-- The language of the overlay is reported with six points against five. -/
theorem overlay_yields_heavier : ∃ d', oneWord.withOverlay heavierWord = .ok d' ∧
    (d'.classify "Widget").language = "erb" ∧
    total d'.signals "Widget".toList "ruby" < total d'.signals "Widget".toList "erb" ∧
    d'.classify " " = ⟨"text", "Plain Text"⟩ := by
  have hsound : heavierWord.IsSound := Overlay.defects_eq_nil_iff.mp (by decide +kernel)
  have h := withOverlay_of_isSound oneWord hsound
  have hw : ∀ s ∈ oneWord.signals, 0 < s.weight := by decide +kernel
  have hword : ¬∀ c ∈ "Widget".toList, Unicode.isWhiteSpace c :=
    mt isBlank_iff.mpr (show ¬isBlank "Widget".toList = true by decide +kernel)
  have hblank : ∀ c ∈ " ".toList, Unicode.isWhiteSpace c :=
    isBlank_iff.mp (by decide +kernel)
  have hlanguage : ((oneWord.extend heavierWord).classify "Widget").language = "erb" := by
    have hleader : (standings (oneWord.extend heavierWord).signals "Widget".toList).leader =
        some ("erb", 6) := by decide +kernel
    rw [classify, Polyglot.classify, if_neg (mt isBlank_iff.mp hword), hleader]
  have hfired : IsFired oneWord.signals "Widget".toList "ruby" := by
    simp only [IsFired]
    decide +kernel
  have hlate : ¬IsFired oneWord.signals "Widget".toList "erb" := by
    simp only [IsFired]
    decide +kernel
  have hpoints := ((overlay_yields hw h "Widget").1 hword).2 "erb" hlanguage hlate "ruby" hfired
  exact ⟨_, h, hlanguage, hpoints, ((overlay_yields hw h " ").2 hblank).2⟩

end Detector

end Polyglot
