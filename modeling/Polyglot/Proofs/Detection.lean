import Polyglot.Proofs.Catalog.History
import Polyglot.Proofs.Overlay.Precedence
import Polyglot.Proofs.Signal.Builtin

/-!
# Everything reported is accounted for

The languages that a detector reports come from three places: from the catalog, from the signals,
and from the words for component markup and for plain text. In every detector that overlays make of
the standard one, the first two have valid identifiers only, and the languages of the third are in
the catalog (`Detector.IsOrderly`). So what is reported is always a language that is listed or that
a signal fires for, and its name is that of the catalog, but for a text that is blank or says
nothing (`Detector.Reachable.detect_accounted`).
-/

namespace Polyglot

variable {signals : List Signal} {code : List Char} {id language : String}

/-! ## Names -/

/-- The name for a language: the one it is listed under, or its identifier if it is not listed. -/
structure Catalog.Shows (c : Catalog) (id name : String) : Prop where
  listed : ∀ l ∈ c.entries, l.id = id → name = l.name
  unlisted : (∀ l ∈ c.entries, l.id ≠ id) → name = id

/-- What is shown for a language is its name in the catalog, or its identifier if it has none
there. -/
theorem Catalog.Coherent.shows_nameOrId {c : Catalog} (hc : c.Coherent) (id : String) :
    c.Shows id (c.nameOrId id) where
  listed l hl hid := by
    rw [nameOrId, hc.displayName_eq_some_iff.mpr ⟨l, hl, hid, rfl⟩, Option.getD_some]
  unlisted h := by
    have hnone : c.displayName id = none := by
      rw [Option.eq_none_iff_forall_ne_some]
      intro name hname
      obtain ⟨l, hl, hid, -⟩ := hc.displayName_eq_some_iff.mp hname
      exact h l hl hid
    rw [nameOrId, hnone, Option.getD_none]

/-! ## Silence -/

/-- No signal fires, and there is no component markup. -/
structure IsSilent (signals : List Signal) (code : List Char) : Prop where
  unfired : ∀ s ∈ signals, s.count code = 0
  unmarked : Component.override? code = none

/-- A text says nothing if it has no candidates. -/
theorem isSilent_iff : IsSilent signals code ↔ ∀ language, ¬IsCandidate signals code language := by
  constructor
  · rintro ⟨hunfired, hunmarked⟩ language (⟨s, hs, -, hpos⟩ | ⟨points, hmarked⟩)
    · exact Nat.ne_of_gt hpos (hunfired s hs)
    · cases hunmarked.symm.trans hmarked
  · refine fun hnone => ⟨fun s hs => ?_, ?_⟩
    · refine Nat.eq_zero_of_not_pos fun hpos => hnone s.language (.inl ⟨s, hs, rfl, hpos⟩)
    · cases h : Component.override? code with
      | none => rfl
      | some marked => exact absurd (.inr ⟨marked.2, h⟩) (hnone marked.1)

/-- Component markup is for a built-in language. -/
theorem Component.exists_of_override? {points : Nat}
    (h : override? code = some (language, points)) :
    ∃ l ∈ builtinLanguages, l.id = language := by
  rcases override?_eq_some h with ⟨rfl, -⟩ | ⟨rfl, -⟩ <;> decide

/-! ## Reachable detectors -/

namespace Detector

variable {d d' : Detector} {o : Overlay} {fileName : Option String}

/-- The detectors that come from the standard one by overlays that are accepted. -/
inductive Reachable : Detector → Prop where
  | standard : Reachable .standard
  | overlay {d d' : Detector} {o : Overlay} : Reachable d → d.withOverlay o = .ok d' → Reachable d'

/-- What overlays keep: the catalog shows a history that begins with the built-in languages, and the
signals are for valid identifiers and have points to give. -/
structure IsOrderly (d : Detector) : Prop where
  history : ∃ later, History.Reflects (History.accepted (builtinLanguages ++ later))
    (History.claims (builtinLanguages ++ later)) d.catalog
  signals : ∀ s ∈ d.signals, isLanguageId s.language ∧ 0 < s.weight

theorem isOrderly_standard : IsOrderly standard := by
  rw [standard_eq]
  refine ⟨⟨[], History.reflects_builtin []⟩, fun s hs => ?_⟩
  obtain ⟨spec, hspec, r, -, rfl⟩ := exists_of_mem_builtinSignals hs
  obtain ⟨hid, hweight⟩ := builtinSpecs_checked spec hspec
  exact ⟨hid, UInt32.pos_iff_ne_zero.mpr hweight⟩

/-- An overlay that is accepted keeps a detector orderly. -/
theorem IsOrderly.withOverlay (hd : d.IsOrderly) (h : d.withOverlay o = .ok d') : d'.IsOrderly := by
  obtain ⟨-, rfl⟩ := withOverlay_eq_ok_iff.mp h
  obtain ⟨later, hlater⟩ := hd.history
  refine ⟨⟨later ++ o.languages, ?_⟩, List.forall_mem_append.mpr ⟨hd.signals, fun s hs => ?_⟩⟩
  · rw [← List.append_assoc]
    exact hlater.replay o.languages
  · obtain ⟨spec, -, hcompile⟩ := SignalSpec.mem_readied.mp hs
    exact SignalSpec.checked_of_compile hcompile

/-- Every detector that can be reached is orderly. -/
theorem Reachable.isOrderly (h : d.Reachable) : d.IsOrderly := by
  induction h with
  | standard => exact isOrderly_standard
  | overlay _ ho ih => exact ih.withOverlay ho

namespace IsOrderly

theorem coherent (hd : d.IsOrderly) : d.catalog.Coherent := by
  obtain ⟨later, hlater⟩ := hd.history
  exact hlater.coherent

theorem isLanguageId_of_mem (hd : d.IsOrderly) {l : Language} (hl : l ∈ d.catalog.entries) :
    isLanguageId l.id := by
  obtain ⟨later, hlater⟩ := hd.history
  exact hlater.isLanguageId_of_mem hl

/-- The built-in languages never leave the catalog. -/
theorem exists_of_builtin (hd : d.IsOrderly) (h : ∃ l ∈ builtinLanguages, l.id = id) :
    ∃ l ∈ d.catalog.entries, l.id = id := by
  obtain ⟨later, hlater⟩ := hd.history
  obtain ⟨l, hl, rfl⟩ := h
  have hvalid : ∀ l ∈ builtinLanguages, isLanguageId l.id := by decide
  have haccepted : l ∈ History.accepted (builtinLanguages ++ later) :=
    List.mem_filter.mpr ⟨List.mem_append_left later hl, hvalid l hl⟩
  exact hlater.exists_id_iff.mpr ⟨l, haccepted, rfl⟩

/-- A candidate is listed, unless it is one because a signal fires for it. -/
theorem listed_or_fired (hd : d.IsOrderly) (h : IsCandidate d.signals code language) :
    (∃ l ∈ d.catalog.entries, l.id = language) ∨ IsFired d.signals code language := by
  rcases h with hfired | ⟨points, hmarked⟩
  · exact .inr hfired
  · exact .inl (hd.exists_of_builtin (Component.exists_of_override? hmarked))

/-- What can be reported has a well-formed identifier: it stands in the catalog or has fired. -/
theorem isLanguageId_of (hd : d.IsOrderly)
    (h : (∃ l ∈ d.catalog.entries, l.id = language) ∨ IsFired d.signals code language) :
    isLanguageId language := by
  rcases h with ⟨l, hl, rfl⟩ | ⟨s, hs, rfl, -⟩
  · exact hd.isLanguageId_of_mem hl
  · exact (hd.signals s hs).1

end IsOrderly

/-! ## What is reported -/

/-- There is a file name, and its extension is listed. -/
def Recognizes (d : Detector) (fileName : Option String) : Prop :=
  ∃ name, fileName = some name ∧ ∃ l ∈ d.catalog.entries, extensionOf name ∈ l.extensions

/-- If the name of the file is recognized, a language of the catalog is reported, whatever the
text is. -/
theorem detect_of_recognizes (hc : d.catalog.Coherent) (h : d.Recognizes fileName) (code : String) :
    ∃ l ∈ d.catalog.entries, d.detect code fileName = ⟨l.id, d.catalog.nameOrId l.id⟩ := by
  obtain ⟨name, rfl, l, hl, hx⟩ := h
  have hresolve : d.resolve name = some l.id :=
    hc.resolve_eq_some_iff.mpr ⟨(hc.isNormal l hl _ hx).ne_empty, l, hl, hx, rfl⟩
  exact ⟨l, hl, detect_of_resolve hresolve code⟩

/-- If the name of the file is not recognized, the text decides. -/
theorem detect_of_not_recognizes (hc : d.catalog.Coherent) (h : ¬d.Recognizes fileName)
    (code : String) : d.detect code fileName = d.classify code := by
  cases fileName with
  | none => exact d.detect_none code
  | some name =>
    refine detect_of_not_resolve ?_ code
    rw [Option.eq_none_iff_forall_ne_some]
    intro id hresolve
    obtain ⟨-, l, hl, hx, -⟩ := hc.resolve_eq_some_iff.mp hresolve
    exact h ⟨name, rfl, l, hl, hx⟩

/-- The report on a text with or without a file name is accounted for. -/
structure Accounts (d : Detector) (code : String) (fileName : Option String) (found : Detection) :
    Prop where
  valid : isLanguageId found.language
  /-- The language is in the catalog, or a signal fires for it. -/
  sourced : (∃ l ∈ d.catalog.entries, l.id = found.language) ∨
    IsFired d.signals code.toList found.language
  /-- The name is that of the catalog if the file name decides or the text says something. -/
  named : d.Recognizes fileName ∨
    ¬(∀ c ∈ code.toList, Unicode.isWhiteSpace c) ∧ ¬IsSilent d.signals code.toList →
      d.catalog.Shows found.language found.name
  blank : ¬d.Recognizes fileName → (∀ c ∈ code.toList, Unicode.isWhiteSpace c) →
    found = ⟨"text", "Plain Text"⟩
  silent : ¬d.Recognizes fileName → ¬(∀ c ∈ code.toList, Unicode.isWhiteSpace c) →
    IsSilent d.signals code.toList → found = ⟨"text", "Text"⟩

theorem IsOrderly.accounts_of_recognizes (hd : d.IsOrderly) (h : d.Recognizes fileName)
    (code : String) : d.Accounts code fileName (d.detect code fileName) := by
  obtain ⟨l, hl, hfound⟩ := detect_of_recognizes hd.coherent h code
  rw [hfound]
  exact {
    valid := hd.isLanguageId_of_mem hl
    sourced := .inl ⟨l, hl, rfl⟩
    named := fun _ => hd.coherent.shows_nameOrId l.id
    blank := fun hnot => absurd h hnot
    silent := fun hnot => absurd h hnot }

theorem IsOrderly.accounts_of_not_recognizes (hd : d.IsOrderly) (h : ¬d.Recognizes fileName)
    (code : String) : d.Accounts code fileName (d.detect code fileName) := by
  have hclassified := classified_classify d.catalog (fun s hs => (hd.signals s hs).2) code
  rw [detect_of_not_recognizes hd.coherent h, classify]
  -- nothing can take `text` out of the catalog, only its name may change
  have htext : ∃ l ∈ d.catalog.entries, l.id = "text" := hd.exists_of_builtin (by decide)
  generalize Polyglot.classify d.catalog d.signals code = found at hclassified ⊢
  cases hclassified with
  | blank hblank => exact {
      valid := by decide
      sourced := .inl htext
      named := fun hwhy => absurd hblank (hwhy.resolve_left h).1
      blank := fun _ _ => rfl
      silent := fun _ hnot => absurd hblank hnot }
  | unmatched hnot hnone => exact {
      valid := by decide
      sourced := .inl htext
      named := fun hwhy => absurd (isSilent_iff.mpr hnone) (hwhy.resolve_left h).2
      blank := fun _ hblank => absurd hblank hnot
      silent := fun _ _ _ => rfl }
  | won hnot hwins =>
    have hsourced := hd.listed_or_fired hwins.candidate
    exact {
      valid := hd.isLanguageId_of hsourced
      sourced := hsourced
      named := fun _ => hd.coherent.shows_nameOrId _
      blank := fun _ hblank => absurd hblank hnot
      silent := fun _ _ hsilent => absurd hwins.candidate (isSilent_iff.mp hsilent _) }

/-- **Everything reported is accounted for.** Whatever overlays a detector has been given, it
reports a valid identifier that its catalog has or that a signal fires for, with the name of the
catalog. A text whose file name does not decide is `Plain Text` if it is blank and `Text` if it says
nothing, whatever the catalog calls `text` by then. -/
theorem Reachable.accounts_detect (h : d.Reachable) (code : String) (fileName : Option String) :
    d.Accounts code fileName (d.detect code fileName) := by
  by_cases hrec : d.Recognizes fileName
  · exact h.isOrderly.accounts_of_recognizes hrec code
  · exact h.isOrderly.accounts_of_not_recognizes hrec code

/-- An overlay that gives `text` another name and an extension. -/
def prose : Overlay := ⟨[⟨"text", "Prose", ["txt"]⟩], []⟩

theorem reflects_prose : History.Reflects (History.accepted (builtinLanguages ++ prose.languages))
    (History.claims (builtinLanguages ++ prose.languages)) (standard.extend prose).catalog := by
  have hcatalog : (standard.extend prose).catalog = Catalog.builtin.replay prose.languages := by
    rw [extend, standard_eq]
  rw [hcatalog]
  exact History.reflects_builtin _

/-- A blank text is `Prose` with the extension, and `Plain Text` without it. -/
theorem accounts_detect_prose : ∃ d, standard.withOverlay prose = .ok d ∧
    d.detect " " (some "notes.txt") = ⟨"text", "Prose"⟩ ∧
    d.Accounts " " (some "notes") (d.detect " " (some "notes")) ∧
    d.detect " " (some "notes") = ⟨"text", "Plain Text"⟩ := by
  have hsound : prose.IsSound := Overlay.defects_eq_nil_iff.mp (by decide +kernel)
  have hoverlay := withOverlay_of_isSound standard hsound
  have hresolve : (standard.extend prose).resolve "notes.txt" = some "text" :=
    reflects_prose.resolve_eq_some_iff.mpr (by decide +kernel)
  have hname : (standard.extend prose).catalog.displayName "text" = some "Prose" := by
    rw [reflects_prose.displayName_eq]
    decide +kernel
  have hnotes : ¬(standard.extend prose).Recognizes (some "notes") := by
    rintro ⟨name, hnotes, l, hl, hx⟩
    obtain rfl := Option.some.inj hnotes
    exact (reflects_prose.coherent.isNormal l hl _ hx).ne_empty (by decide +kernel)
  have hblank : ∀ c ∈ " ".toList, Unicode.isWhiteSpace c := isBlank_iff.mp (by decide +kernel)
  have haccounts := Reachable.accounts_detect (.overlay .standard hoverlay) " " (some "notes")
  refine ⟨_, hoverlay, ?_, haccounts, haccounts.blank hnotes hblank⟩
  rw [detect_of_resolve hresolve, Catalog.nameOrId, hname, Option.getD_some]

end Detector

end Polyglot
