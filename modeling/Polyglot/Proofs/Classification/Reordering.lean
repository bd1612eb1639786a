import Mathlib.Algebra.BigOperators.Group.List.Basic
import Polyglot.Proofs.Classification

/-!
# The order of signals

The standings of a text depend on the order of the signals, but what a language has in them does
not: its points are its total, a sum over signals that is capped once (`points_standings_perm`). So
the order only picks among the languages that nobody is ahead of. Where there is one such language,
every order reports it (`classify_of_isSoleTop`).
-/

namespace Polyglot

variable {signals signals' : List Signal} {language other : String}

/-! ## Languages at the top -/

/-- The language has points, and nobody has more. -/
structure Standings.IsTop (s : Standings) (language : String) : Prop where
  pos : 0 < s.points language
  most : ∀ other, s.points other ≤ s.points language

namespace Standings

variable {s : Standings} {points : Nat}

/-- The leader has more than no points, and nobody has more. -/
theorem isTop_of_leader (hs : s.languages.Nodup) (hpos : ∀ entry ∈ s, 0 < entry.2)
    (h : s.leader = some (language, points)) : s.IsTop language := by
  obtain ⟨hpoints, hmost⟩ := points_le_leader hs h
  obtain ⟨before, after, rfl, -, -⟩ := leader_eq_some h
  have hleader := hpos (language, points) (List.mem_append_right _ (List.mem_cons_self ..))
  exact ⟨hpoints.symm ▸ hleader, fun other => hpoints.symm ▸ hmost other⟩

/-- Points are what a leader needs. -/
theorem leader_ne_none_iff (hs : s.languages.Nodup) (hpos : ∀ entry ∈ s, 0 < entry.2) :
    s.leader ≠ none ↔ ∃ language, 0 < s.points language := by
  constructor
  · intro h
    obtain ⟨⟨language, points⟩, hleader⟩ := Option.ne_none_iff_exists'.mp h
    exact ⟨language, (isTop_of_leader hs hpos hleader).pos⟩
  · rintro ⟨language, hlanguage⟩ hnone
    rw [leader_eq_none_iff.mp hnone, points_nil] at hlanguage
    exact Nat.lt_irrefl _ hlanguage

end Standings

section

variable {code : String}

/-- If some language has points, one of those at the top is reported. -/
theorem exists_isTop_classify (catalog : Catalog)
    (hblank : ¬∀ c ∈ code.toList, Unicode.isWhiteSpace c)
    (h : ∃ language, 0 < (standings signals code.toList).points language) :
    ∃ language, (standings signals code.toList).IsTop language ∧
      classify catalog signals code = ⟨language, catalog.nameOrId language⟩ := by
  have hnodup := nodup_languages_standings signals code.toList
  have hpos := forall_pos_standings signals code.toList
  obtain ⟨⟨language, points⟩, hleader⟩ :=
    Option.ne_none_iff_exists'.mp ((Standings.leader_ne_none_iff hnodup hpos).mpr h)
  refine ⟨language, Standings.isTop_of_leader hnodup hpos hleader, ?_⟩
  simp only [classify, hleader, if_neg (mt isBlank_iff.mp hblank)]

/-- A language that is alone at the top is reported. -/
theorem classify_of_isSoleTop (catalog : Catalog)
    (hblank : ¬∀ c ∈ code.toList, Unicode.isWhiteSpace c)
    (htop : (standings signals code.toList).IsTop language)
    (hsole : ∀ other, (standings signals code.toList).IsTop other → other = language) :
    classify catalog signals code = ⟨language, catalog.nameOrId language⟩ := by
  obtain ⟨reported, hreported, hclassify⟩ :=
    exists_isTop_classify catalog hblank ⟨language, htop.pos⟩
  rw [hclassify, hsole reported hreported]

theorem classify_of_points_eq_zero (catalog : Catalog)
    (hblank : ¬∀ c ∈ code.toList, Unicode.isWhiteSpace c)
    (h : ∀ language, (standings signals code.toList).points language = 0) :
    classify catalog signals code = ⟨textId, unmatchedName⟩ := by
  have hleader : (standings signals code.toList).leader = none := by
    by_contra hsome
    obtain ⟨language, hlanguage⟩ := (Standings.leader_ne_none_iff
      (nodup_languages_standings signals code.toList)
      (forall_pos_standings signals code.toList)).mp hsome
    exact Nat.ne_of_gt hlanguage (h language)
  simp only [classify, hleader, if_neg (mt isBlank_iff.mp hblank)]

end

/-! ## Another order -/

/-- The order of the signals has no part in the evidence. -/
theorem evidence_perm (h : signals.Perm signals') (code : List Char) (language : String) :
    evidence signals code language = evidence signals' code language :=
  ((h.filter _).map _).sum_eq

theorem points_standings_perm (h : signals.Perm signals') (code : List Char) (language : String) :
    (standings signals code).points language = (standings signals' code).points language := by
  rw [points_standings, points_standings, total, total, evidence_perm h]

/-- Which languages are on top does not depend on the order of the signals. -/
theorem isTop_standings_perm (h : signals.Perm signals') {code : List Char}
    (htop : (standings signals code).IsTop language) :
    (standings signals' code).IsTop language where
  pos := points_standings_perm h code language ▸ htop.pos
  most other := by
    rw [← points_standings_perm h, ← points_standings_perm h]
    exact htop.most other

/-- **The order of signals only decides ties.** Whichever way the signals are ordered, each language
has the same points for a text that is not blank. If the most points are those of a single language,
both orders report it. If several have the most points, each order reports one of them, and if
nobody has points, both orders report text. -/
theorem classify_perm (catalog : Catalog) (h : signals.Perm signals') {code : String}
    (hblank : ¬∀ c ∈ code.toList, Unicode.isWhiteSpace c) :
    (∀ language, (standings signals code.toList).points language =
      (standings signals' code.toList).points language) ∧
    (∀ language, (standings signals code.toList).IsTop language →
      (∀ other, (standings signals code.toList).IsTop other → other = language) →
      classify catalog signals code = ⟨language, catalog.nameOrId language⟩ ∧
        classify catalog signals' code = ⟨language, catalog.nameOrId language⟩) ∧
    ((∃ language, 0 < (standings signals code.toList).points language) →
      (∃ language, (standings signals code.toList).IsTop language ∧
        classify catalog signals code = ⟨language, catalog.nameOrId language⟩) ∧
      ∃ language, (standings signals code.toList).IsTop language ∧
        classify catalog signals' code = ⟨language, catalog.nameOrId language⟩) ∧
    ((∀ language, (standings signals code.toList).points language = 0) →
      classify catalog signals code = ⟨textId, unmatchedName⟩ ∧
        classify catalog signals' code = ⟨textId, unmatchedName⟩) := by
  have hpoints := points_standings_perm h code.toList
  refine ⟨hpoints, fun language htop hsole => ⟨?sole, ?sole'⟩,
    fun hsome => ⟨?top, ?top'⟩, fun hnone => ⟨?none, ?none'⟩⟩
  case sole => exact classify_of_isSoleTop catalog hblank htop hsole
  case sole' =>
    refine classify_of_isSoleTop catalog hblank (isTop_standings_perm h htop) fun other hother => ?_
    exact hsole other (isTop_standings_perm h.symm hother)
  case top => exact exists_isTop_classify catalog hblank hsome
  case top' =>
    obtain ⟨language, hlanguage⟩ := hsome
    obtain ⟨reported, hreported, hclassify⟩ :=
      exists_isTop_classify catalog hblank ⟨language, hpoints language ▸ hlanguage⟩
    exact ⟨reported, isTop_standings_perm h.symm hreported, hclassify⟩
  case none => exact classify_of_points_eq_zero catalog hblank hnone
  case none' =>
    refine classify_of_points_eq_zero catalog hblank fun language => ?_
    rw [← hpoints, hnone]

/-- A text with two tags, for which Ruby and component markup are level at ten points. -/
def levelText : String := "<Widget /><Widget />"

/-- The first signal decides between Ruby and component markup. -/
theorem classify_perm_level :
    levelSignals.Perm levelSignals.reverse ∧
      (¬∀ c ∈ levelText.toList, Unicode.isWhiteSpace c) ∧
      (standings levelSignals levelText.toList).leader = some ("ruby", 10) ∧
      (standings levelSignals.reverse levelText.toList).leader = some ("jsx", 10) ∧
      (∀ language, (standings levelSignals levelText.toList).points language =
        (standings levelSignals.reverse levelText.toList).points language) ∧
      ∃ language, (standings levelSignals levelText.toList).IsTop language ∧
        classify .builtin levelSignals.reverse levelText =
          ⟨language, Catalog.builtin.nameOrId language⟩ := by
  have hperm : levelSignals.Perm levelSignals.reverse := (List.reverse_perm _).symm
  have hblank : ¬∀ c ∈ levelText.toList, Unicode.isWhiteSpace c := mt isBlank_iff.mpr (by decide)
  obtain ⟨hruby, hjsx, hsome⟩ :
      (standings levelSignals levelText.toList).leader = some ("ruby", 10) ∧
        (standings levelSignals.reverse levelText.toList).leader = some ("jsx", 10) ∧
        0 < (standings levelSignals levelText.toList).points "ruby" := by decide +kernel
  obtain ⟨hpoints, -, htop, -⟩ := classify_perm .builtin hperm hblank
  exact ⟨hperm, hblank, hruby, hjsx, hpoints, (htop ⟨"ruby", hsome⟩).2⟩

end Polyglot
