import Mathlib.Data.List.Forall2
import Polyglot.Detector
import Polyglot.Proofs.Catalog.Reachable

/-!
# Overlays

What is wrong with an overlay can be listed without looking at a detector (`Overlay.defects`). An
overlay without defects is accepted by every detector, and extends it by all that the overlay holds;
any other overlay is refused for the first of its defects (`Detector.withOverlay_eq_error_iff`).

As nothing depends on the detector, two overlays in a row are one overlay that has the languages and
the signals of both, and so is a whole row of overlays of which some are refused
(`Detector.overlays_compose`).
-/

namespace Polyglot

/-! ## What is wrong with an overlay -/

/-- What is wrong with a language, if its identifier is. -/
def Language.defects (l : Language) : List BuildError :=
  if isLanguageId l.id then [] else [.invalidLanguageId l.id]

/-- All that is wrong with a signal: with its language, with its weight, with its pattern. -/
def SignalSpec.defects (s : SignalSpec) : List BuildError :=
  (if isLanguageId s.language then [] else [.invalidLanguageId s.language]) ++
  (if 0 < s.weight then [] else [.zeroWeight s.language]) ++
  match Pattern.compile s.pattern s.caseInsensitive with
  | .ok _ => []
  | .error fault => [.invalidPattern s.language fault]

/-- All that is wrong with an overlay: with its languages in order, then with its signals. -/
def Overlay.defects (o : Overlay) : List BuildError :=
  o.languages.flatMap Language.defects ++ o.signals.flatMap SignalSpec.defects

/-- A signal that can be readied. -/
structure SignalSpec.IsSound (s : SignalSpec) : Prop where
  language : isLanguageId s.language
  weight : 0 < s.weight
  pattern : ∃ m, Pattern.compile s.pattern s.caseInsensitive = .ok m

/-- An overlay with which nothing is wrong. -/
structure Overlay.IsSound (o : Overlay) : Prop where
  languages : ∀ l ∈ o.languages, isLanguageId l.id
  signals : ∀ s ∈ o.signals, s.IsSound

theorem Language.defects_eq_nil_iff {l : Language} : l.defects = [] ↔ isLanguageId l.id := by
  rw [defects]
  split <;> simp_all

/-- The declarations without defects are the sound ones. -/
theorem SignalSpec.defects_eq_nil_iff {s : SignalSpec} : s.defects = [] ↔ s.IsSound := by
  rw [defects, List.append_eq_nil_iff, List.append_eq_nil_iff]
  constructor
  · rintro ⟨⟨hid, hweight⟩, hpattern⟩
    refine ⟨by simpa using hid, UInt32.pos_iff_ne_zero.mpr (by simpa using hweight), ?_⟩
    cases hc : Pattern.compile s.pattern s.caseInsensitive with
    | ok m => exact ⟨m, rfl⟩
    | error fault => simp [hc] at hpattern
  · rintro ⟨hid, hweight, m, hpattern⟩
    simp [hid, hweight, hpattern]

/-- The overlays without defects are the sound ones. -/
theorem Overlay.defects_eq_nil_iff {o : Overlay} : o.defects = [] ↔ o.IsSound := by
  simp only [defects, List.append_eq_nil_iff, List.flatMap_eq_nil_iff,
    Language.defects_eq_nil_iff, SignalSpec.defects_eq_nil_iff]
  exact ⟨fun h => ⟨h.1, h.2⟩, fun h => ⟨h.languages, h.signals⟩⟩

/-! ## Languages in a row -/

namespace Catalog

variable {ls : List Language}

/-- Languages that are all well formed are put in one after the other. -/
theorem insertAll_of_valid (c : Catalog) (h : ∀ l ∈ ls, isLanguageId l.id) :
    c.insertAll ls = .ok (c.replay ls) := by
  induction ls generalizing c with
  | nil => rfl
  | cons l rest ih =>
    obtain ⟨hl, hrest⟩ := List.forall_mem_cons.mp h
    rw [insertAll, insert_of_valid c hl, replay, List.foldl_cons, attempt_of_valid c hl]
    exact ih _ hrest

/-- The first language that is not well formed is reported. -/
theorem insertAll_of_defect (c : Catalog) {e : BuildError}
    (h : (ls.flatMap Language.defects).head? = some e) : c.insertAll ls = .error e := by
  induction ls generalizing c with
  | nil => cases h
  | cons l rest ih =>
    rw [insertAll]
    cases hl : isLanguageId l.id with
    | true =>
      rw [insert_of_valid c hl]
      rw [List.flatMap_cons, Language.defects_eq_nil_iff.mpr hl] at h
      exact ih _ h
    | false =>
      rw [insert_of_invalid c hl]
      simp only [List.flatMap_cons, Language.defects, hl] at h
      obtain rfl := Option.some.inj h
      rfl

end Catalog

/-! ## Signals in a row -/

namespace SignalSpec

variable {s : SignalSpec} {ss : List SignalSpec}

/-- The signal that is readied from a declaration. -/
structure Yields (s : SignalSpec) (signal : Signal) : Prop where
  pattern : signal.pattern = s.pattern
  language : signal.language = s.language
  weight : signal.weight = s.weight
  automaton : Pattern.compile s.pattern s.caseInsensitive = .ok signal.automaton

/-- A sound declaration gives the signal that it declares. -/
theorem compile_of_isSound (h : s.IsSound) :
    ∃ signal, s.compile = .ok signal ∧ s.Yields signal := by
  obtain ⟨m, hm⟩ := h.pattern
  have hweight := UInt32.pos_iff_ne_zero.mp h.weight
  refine ⟨⟨s.pattern, s.language, s.weight, m⟩, ?_, rfl, rfl, rfl, hm⟩
  simp [compile, h.language, hweight, hm]

/-- The first defect of a declaration is reported. -/
theorem compile_of_defect {e : BuildError} (h : s.defects.head? = some e) :
    s.compile = .error e := by
  rw [compile]
  rw [defects] at h
  cases hid : isLanguageId s.language with
  | false => simp_all
  | true =>
    by_cases hweight : s.weight = 0
    · simp_all
    · have hpos := UInt32.pos_iff_ne_zero.mpr hweight
      cases hc : Pattern.compile s.pattern s.caseInsensitive <;> simp_all

theorem isSound_of_compile {signal : Signal} (h : s.compile = .ok signal) : s.IsSound := by
  rw [← defects_eq_nil_iff, ← List.head?_eq_none_iff]
  cases hdefect : s.defects.head? with
  | none => rfl
  | some e =>
    rw [compile_of_defect hdefect] at h
    cases h

/-- A signal that comes of a declaration has its pattern, its language and its weight. -/
theorem yields_of_compile {signal : Signal} (h : s.compile = .ok signal) : s.Yields signal := by
  obtain ⟨signal', hcompile, hyields⟩ := compile_of_isSound (isSound_of_compile h)
  obtain rfl := Except.ok.inj (hcompile.symm.trans h)
  exact hyields

/-- The signals of those declarations that can be readied. -/
def readied (ss : List SignalSpec) : List Signal := ss.filterMap (·.compile.toOption)

theorem readied_cons {signal : Signal} (ss : List SignalSpec) (h : s.compile = .ok signal) :
    readied (s :: ss) = signal :: readied ss := by
  rw [readied, List.filterMap_cons, h]
  rfl

/-- Declarations that are all sound give their signals, in order. -/
theorem compileAll_of_isSound (h : ∀ s ∈ ss, s.IsSound) : compileAll ss = .ok (readied ss) := by
  induction ss with
  | nil => rfl
  | cons s rest ih =>
    obtain ⟨hs, hrest⟩ := List.forall_mem_cons.mp h
    obtain ⟨signal, hsignal, -⟩ := compile_of_isSound hs
    rw [compileAll, ih hrest, hsignal, readied_cons rest hsignal]
    rfl

/-- The first defect of the first declaration that has one is reported. -/
theorem compileAll_of_defect {e : BuildError} (h : (ss.flatMap defects).head? = some e) :
    compileAll ss = .error e := by
  induction ss with
  | nil => cases h
  | cons s rest ih =>
    rw [List.flatMap_cons] at h
    rw [compileAll]
    cases hs : s.defects with
    | nil =>
      obtain ⟨signal, hsignal, -⟩ := compile_of_isSound (defects_eq_nil_iff.mp hs)
      rw [hs, List.nil_append] at h
      rw [hsignal, ih h]
      rfl
    | cons e' more =>
      rw [hs, List.cons_append, List.head?_cons] at h
      rw [compile_of_defect (e := e) (by rw [hs, List.head?_cons, h])]
      rfl

/-- A declaration gives one signal. -/
theorem Yields.unique {signal other : Signal} (h : s.Yields signal) (h' : s.Yields other) :
    signal = other := by
  obtain ⟨_, _, _, _⟩ := signal
  obtain ⟨_, _, _, _⟩ := other
  obtain ⟨rfl, rfl, rfl, hm⟩ := h
  obtain ⟨rfl, rfl, rfl, hm'⟩ := h'
  cases Except.ok.inj (hm.symm.trans hm')
  rfl

/-- From declarations that are in order, each yields one signal, and these are all. -/
theorem forall₂_yields_iff {signals : List Signal} (h : ∀ s ∈ ss, s.IsSound) :
    List.Forall₂ Yields ss signals ↔ signals = readied ss := by
  induction ss generalizing signals with
  | nil => rw [List.forall₂_nil_left_iff]; rfl
  | cons s rest ih =>
    obtain ⟨hs, hrest⟩ := List.forall_mem_cons.mp h
    obtain ⟨signal, hsignal, hyields⟩ := compile_of_isSound hs
    have hreadied := readied_cons rest hsignal
    rw [List.forall₂_cons_left_iff, hreadied]
    constructor
    · rintro ⟨other, more, hother, hmore, rfl⟩
      rw [hother.unique hyields, (ih hrest).mp hmore]
    · rintro rfl
      exact ⟨signal, _, hyields, (ih hrest).mpr rfl, rfl⟩

end SignalSpec

/-! ## Overlays in a row -/

namespace Overlay

variable {o : Overlay}

/-- An overlay with the languages and the signals of one overlay and then those of another. -/
instance : Append Overlay where
  append o₁ o₂ := ⟨o₁.languages ++ o₂.languages, o₁.signals ++ o₂.signals⟩

/-- An overlay with the languages and the signals of several overlays in order. -/
def concat (os : List Overlay) : Overlay :=
  ⟨os.flatMap (·.languages), os.flatMap (·.signals)⟩

theorem concat_cons (o : Overlay) (os : List Overlay) : concat (o :: os) = o ++ concat os := rfl

theorem isSound_append {o₁ o₂ : Overlay} : (o₁ ++ o₂).IsSound ↔ o₁.IsSound ∧ o₂.IsSound := by
  constructor
  · intro h
    obtain ⟨hl₁, hl₂⟩ := List.forall_mem_append.mp h.languages
    obtain ⟨hs₁, hs₂⟩ := List.forall_mem_append.mp h.signals
    exact ⟨⟨hl₁, hs₁⟩, ⟨hl₂, hs₂⟩⟩
  · rintro ⟨h₁, h₂⟩
    exact ⟨List.forall_mem_append.mpr ⟨h₁.languages, h₂.languages⟩,
      List.forall_mem_append.mpr ⟨h₁.signals, h₂.signals⟩⟩

end Overlay

namespace Detector

variable {d : Detector} {o : Overlay}

/-- The detector with all that is in order in an overlay. -/
def extend (d : Detector) (o : Overlay) : Detector :=
  ⟨d.catalog.replay o.languages, d.signals ++ SignalSpec.readied o.signals⟩

theorem extend_nil (d : Detector) : d.extend ⟨[], []⟩ = d := by
  simp [extend, Catalog.replay, SignalSpec.readied]

/-- Extending a detector by one overlay and then by another is extending it by both. -/
theorem extend_append (d : Detector) (o₁ o₂ : Overlay) :
    d.extend (o₁ ++ o₂) = (d.extend o₁).extend o₂ := by
  have hcatalog := d.catalog.replay_append o₁.languages o₂.languages
  have hsignals : SignalSpec.readied (o₁.signals ++ o₂.signals) =
      SignalSpec.readied o₁.signals ++ SignalSpec.readied o₂.signals := List.filterMap_append
  simp only [extend, ← hcatalog, List.append_assoc, ← hsignals]
  rfl

/-- A sound overlay is accepted. -/
theorem withOverlay_of_isSound (d : Detector) (h : o.IsSound) :
    d.withOverlay o = .ok (d.extend o) := by
  rw [withOverlay, Catalog.insertAll_of_valid d.catalog h.languages,
    SignalSpec.compileAll_of_isSound h.signals]
  rfl

/-- The first defect of an overlay is the one that is reported. -/
theorem withOverlay_of_defect (d : Detector) {e : BuildError} (h : o.defects.head? = some e) :
    d.withOverlay o = .error e := by
  rw [withOverlay]
  cases hl : o.languages.flatMap Language.defects with
  | cons e' more =>
    rw [Overlay.defects, hl] at h
    rw [Catalog.insertAll_of_defect (e := e) d.catalog (by rw [hl]; exact h)]
    rfl
  | nil =>
    -- the languages are in order, so the signals are looked at
    rw [Overlay.defects, hl, List.nil_append] at h
    have hvalid : ∀ l ∈ o.languages, isLanguageId l.id := fun l hmem =>
      Language.defects_eq_nil_iff.mp (List.flatMap_eq_nil_iff.mp hl l hmem)
    rw [Catalog.insertAll_of_valid d.catalog hvalid, SignalSpec.compileAll_of_defect h]
    rfl

/-- The overlays that are accepted are the sound ones, and what comes of them is the extended
detector. -/
theorem withOverlay_eq_ok_iff {d' : Detector} :
    d.withOverlay o = .ok d' ↔ o.IsSound ∧ d.extend o = d' := by
  cases h : o.defects with
  | nil =>
    have hsound := Overlay.defects_eq_nil_iff.mp h
    rw [withOverlay_of_isSound d hsound, Except.ok.injEq]
    exact (and_iff_right hsound).symm
  | cons e more =>
    have hsound : ¬o.IsSound := fun hs => by simp [Overlay.defects_eq_nil_iff.mpr hs] at h
    rw [withOverlay_of_defect (e := e) d (by rw [h]; rfl)]
    exact iff_of_false (by simp) fun hs => hsound hs.1

/-- The error is the first defect. -/
theorem withOverlay_eq_error_iff {e : BuildError} :
    d.withOverlay o = .error e ↔ o.defects.head? = some e := by
  refine ⟨fun h => ?_, withOverlay_of_defect d⟩
  cases hd : o.defects.head? with
  | none =>
    have hsound := Overlay.defects_eq_nil_iff.mp (List.head?_eq_none_iff.mp hd)
    rw [withOverlay_of_isSound d hsound] at h
    cases h
  | some e' =>
    rw [withOverlay_of_defect d hd] at h
    cases h
    rfl

/-- **An overlay is judged by itself, and its first defect is reported.** It is accepted if its
identifiers are valid, its weights are positive and its patterns are accepted. The detector then
has the languages inserted in order, and after its own signals one for each signal of the overlay.
Otherwise the error is the first defect: languages come before signals, and in a signal the
identifier comes before the weight and the weight before the pattern. -/
theorem withOverlay_judges (d : Detector) (o : Overlay) :
    ((∃ d', d.withOverlay o = .ok d') ↔ o.IsSound) ∧
    (∀ d', d.withOverlay o = .ok d' ↔ o.IsSound ∧
      d'.catalog = d.catalog.replay o.languages ∧
      ∃ extra, List.Forall₂ SignalSpec.Yields o.signals extra ∧ d'.signals = d.signals ++ extra) ∧
    ∀ e, d.withOverlay o = .error e ↔ o.defects.head? = some e := by
  refine ⟨?_, fun d' => ?_, fun e => withOverlay_eq_error_iff⟩
  · simp only [withOverlay_eq_ok_iff, exists_and_left, exists_eq', and_true]
  · rw [withOverlay_eq_ok_iff]
    refine and_congr_right fun hsound => ?_
    simp only [SignalSpec.forall₂_yields_iff hsound.signals, exists_eq_left]
    constructor
    · rintro rfl
      exact ⟨rfl, rfl⟩
    · rintro ⟨hcatalog, hsignals⟩
      rw [extend, ← hcatalog, ← hsignals]

/-! ### Rows of overlays -/

/-- The detector after an overlay that may be refused. -/
def attempt (d : Detector) (o : Overlay) : Detector := (d.withOverlay o).toOption.getD d

/-- The detector after a row of overlays, each of which may be refused. -/
def attemptAll (d : Detector) (os : List Overlay) : Detector := os.foldl attempt d

/-- The overlays of a row that are accepted when it is their turn. -/
def accepted (d : Detector) : List Overlay → List Overlay
  | [] => []
  | o :: rest =>
    match d.withOverlay o with
    | .ok d' => o :: d'.accepted rest
    | .error _ => d.accepted rest

theorem attempt_eq_of_ok {d' : Detector} (h : d.withOverlay o = .ok d') : d.attempt o = d' := by
  rw [attempt, h]
  rfl

theorem attempt_eq_of_error {e : BuildError} (h : d.withOverlay o = .error e) :
    d.attempt o = d := by
  rw [attempt, h]
  rfl

/-- The overlays that are accepted come to one overlay, which is accepted too. -/
theorem withOverlay_concat_accepted (d : Detector) (os : List Overlay) :
    d.withOverlay (.concat (d.accepted os)) = .ok (d.attemptAll os) := by
  rw [withOverlay_eq_ok_iff]
  induction os generalizing d with
  | nil => exact ⟨⟨nofun, nofun⟩, d.extend_nil⟩
  | cons o rest ih =>
    rw [attemptAll, List.foldl_cons, accepted]
    cases h : d.withOverlay o with
    | error e =>
      rw [attempt_eq_of_error h]
      exact ih d
    | ok d' =>
      obtain ⟨hsound, rfl⟩ := withOverlay_eq_ok_iff.mp h
      obtain ⟨hrest, hextend⟩ := ih (d.extend o)
      rw [attempt_eq_of_ok h, Overlay.concat_cons, Overlay.isSound_append, extend_append]
      exact ⟨⟨hsound, hrest⟩, hextend⟩

/-- **Overlays compose.** Two overlays after one another give a detector exactly if the overlay that
has the languages and the signals of both gives it: the same catalog with its indexes and the same
signals. After a row of overlays, of which those that are refused leave the detector as it was, the
detector is the one that the accepted overlays of the row give as one overlay. -/
theorem overlays_compose (d : Detector) :
    (∀ o₁ o₂ d', (∃ d₁, d.withOverlay o₁ = .ok d₁ ∧ d₁.withOverlay o₂ = .ok d') ↔
      d.withOverlay ⟨o₁.languages ++ o₂.languages, o₁.signals ++ o₂.signals⟩ = .ok d') ∧
    ∀ os, d.withOverlay ⟨(d.accepted os).flatMap (·.languages),
      (d.accepted os).flatMap (·.signals)⟩ = .ok (d.attemptAll os) := by
  refine ⟨fun o₁ o₂ d' => ?_, d.withOverlay_concat_accepted⟩
  change _ ↔ d.withOverlay (o₁ ++ o₂) = _
  simp only [withOverlay_eq_ok_iff, Overlay.isSound_append, extend_append]
  constructor
  · rintro ⟨d₁, ⟨h₁, rfl⟩, h₂, rfl⟩
    exact ⟨⟨h₁, h₂⟩, rfl⟩
  · rintro ⟨⟨h₁, h₂⟩, rfl⟩
    exact ⟨_, ⟨h₁, rfl⟩, h₂, rfl⟩

end Detector

end Polyglot
