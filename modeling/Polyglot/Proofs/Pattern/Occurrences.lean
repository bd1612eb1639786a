import Polyglot.Proofs.Pattern.Trial

/-!
# How many matches there are

An expression has no match in a text if it leads nowhere from any place of it
(`Automaton.count_eq_zero_iff`), as when the text lacks the characters that every match takes
(`Automaton.count_eq_zero_of_demands`). It has one at most if there is never another match at or
behind the end of a match (`Automaton.count_le_one`).
-/

namespace Polyglot.Pattern

variable {r : Regex} {x : Side} {text : List Char} {count resume : Nat} {last : Option Nat}

/-! ## Tallies -/

theorem le_tally (count here resume : Nat) (last : Option Nat) (ends : List (Option Nat)) :
    count ≤ tally count here resume last ends := by
  have := tally_add count 0 here resume last ends
  rw [Nat.zero_add] at this
  omega

/-- Places from which nothing is found do not count, nor do those that a match has passed. -/
theorem tally_of_none (h : ∀ p ∈ placesFrom x text, p.rest.length ≤ resume → r.stop? p = none) :
    tally count text.length resume last ((placesFrom x text).map r.stop?) = count := by
  induction text generalizing x with
  | nil =>
    have hnone := h _ (List.mem_singleton_self _) (Nat.zero_le _)
    rw [placesFrom, List.map_singleton, hnone]
    rfl
  | cons c rest ih =>
    obtain ⟨hhere, hlater⟩ := List.forall_mem_cons.mp h
    rw [placesFrom, List.map_cons]
    cases hstop : r.stop? ⟨x, c :: rest⟩ with
    | none => exact ih hlater
    | some stop =>
      have hpassed : resume < (c :: rest).length := by
        refine Nat.lt_of_not_le fun hle => ?_
        cases hstop.symm.trans (hhere hle)
      rw [tally, if_pos hpassed]
      exact ih hlater

/-- The first match that is found counts. -/
theorem lt_tally (h : ∃ p ∈ placesFrom x text, r.stop? p ≠ none) (hresume : text.length ≤ resume) :
    count < tally count text.length resume none ((placesFrom x text).map r.stop?) := by
  obtain ⟨p, hp, hstop⟩ := h
  induction text generalizing x with
  | nil =>
    obtain rfl := List.mem_singleton.mp hp
    obtain ⟨stop, hstop⟩ := Option.ne_none_iff_exists'.mp hstop
    have hresume : ¬resume < 0 := Nat.not_lt_zero resume
    simp [placesFrom, hstop, tally, hresume]
  | cons c rest ih =>
    rw [placesFrom, List.map_cons]
    cases hhere : r.stop? ⟨x, c :: rest⟩ with
    | none =>
      rcases List.mem_cons.mp hp with rfl | hp
      · exact absurd hhere hstop
      · exact ih (Nat.le_of_succ_le hresume) hp
    | some stop =>
      have hand : ¬(stop = (c :: rest).length ∧ none = some (c :: rest).length) := by simp
      rw [tally, if_neg (Nat.not_lt.mpr hresume), if_neg hand]
      exact le_tally ..

/-- There is no match at or behind the end of a match. -/
def Regex.IsSole (r : Regex) (places : List Place) : Prop :=
  ∀ p ∈ places, ∀ stop, r.stop? p = some stop →
    ∀ q ∈ places, q.rest.length ≤ stop → r.stop? q = none

/-- If there is no match behind another, only one is counted. -/
theorem tally_le_one (h : r.IsSole (placesFrom x text)) (resume : Nat) (last : Option Nat) :
    tally 0 text.length resume last ((placesFrom x text).map r.stop?) ≤ 1 := by
  induction text generalizing x resume last with
  | nil =>
    simp only [placesFrom, List.map_singleton, List.length_nil]
    cases r.stop? ⟨x, []⟩ with
    | none => exact Nat.zero_le _
    | some stop =>
      simp only [tally]
      split
      · exact Nat.zero_le _
      · split <;> decide
  | cons c rest ih =>
    have hrest : r.IsSole (placesFrom (.ofChar c) rest) := fun p hp stop hstop q hq =>
      h p (List.mem_cons_of_mem _ hp) stop hstop q (List.mem_cons_of_mem _ hq)
    rw [placesFrom, List.map_cons]
    cases hstop : r.stop? ⟨x, c :: rest⟩ with
    | none => exact ih hrest resume last
    | some stop =>
      simp only [tally, Nat.zero_add]
      split
      · exact ih hrest resume last
      · split
        · exact ih hrest resume last
        · -- the match counts, and then there is none
          have hnone : ∀ q ∈ placesFrom (.ofChar c) rest, q.rest.length ≤ stop → r.stop? q = none :=
            fun q hq => h _ (List.mem_cons_self ..) stop hstop q (List.mem_cons_of_mem _ hq)
          exact Nat.le_of_eq (tally_of_none hnone)

/-! ## Demanded characters -/

namespace Regex

variable {mark : Unicode.CharSet → Bool} {p : Place}

/-- Every match takes a character from a set with the mark. -/
def demands (mark : Unicode.CharSet → Bool) : Regex → Bool
  | empty | assert _ | opt .. | star .. => false
  | one set => mark set
  | cat a b => a.demands mark || b.demands mark
  | alt a b => a.demands mark && b.demands mark
  | plus _ a => a.demands mark

/-- Without a character that is demanded, there is no way. -/
theorem ways_eq_nil_of_demands (hr : r.demands mark)
    (hclear : ∀ set, mark set → ∀ c ∈ p.rest, ¬set.contains c) : r.ways p = [] := by
  induction r generalizing p with
  | empty | assert | opt | star => cases hr
  | one set =>
    obtain ⟨x, _ | ⟨c, rest⟩⟩ := p
    · rfl
    · rw [ways, if_neg (hclear set hr c (List.mem_cons_self ..))]
  | cat a b iha ihb =>
    rcases Bool.or_eq_true_iff.mp hr with hr | hr
    · rw [ways, iha hr hclear, List.flatMap_nil]
    · rw [ways, List.flatMap_eq_nil_iff]
      intro q hq
      -- what is left after the first part has no such character either
      have hrest : q.rest ⊆ p.rest := (suffix_of_mem_ways hq).subset
      exact ihb hr fun set hset c hc => hclear set hset c (hrest hc)
  | alt a b iha ihb =>
    obtain ⟨ha, hb⟩ := Bool.and_eq_true_iff.mp hr
    rw [ways, iha ha hclear, ihb hb hclear, List.append_nil]
  | plus greedy a ih => rw [ways, ih hr hclear, List.flatMap_nil]

end Regex

/-! ## Counts -/

namespace Automaton

variable (hr : r.isSteady)
include hr

/-- Matches are counted by the ends that the expression has at the places of the text. -/
theorem count_eq_tally (text : List Char) : (ofRegex r).count text =
    tally 0 text.length text.length none ((places text).map r.stop?) := by
  rw [Automaton.count, matchEnds_eq hr]

/-- **There is no match if the expression leads nowhere from any place.** -/
theorem count_eq_zero_iff : (ofRegex r).count text = 0 ↔ ∀ p ∈ places text, r.ways p = [] := by
  rw [count_eq_tally hr]
  constructor
  · intro hzero p hp
    refine Regex.stop?_eq_none_iff.mp (Decidable.byContradiction fun hne => ?_)
    have hpos : 0 < tally 0 text.length text.length none ((places text).map r.stop?) :=
      lt_tally ⟨p, hp, hne⟩ (Nat.le_refl _)
    exact absurd hzero (Nat.ne_of_gt hpos)
  · intro hnone
    exact tally_of_none fun p hp _ => Regex.stop?_eq_none_iff.mpr (hnone p hp)

/-- Something is counted exactly if the expression leads anywhere from some place. -/
theorem count_pos_iff : 0 < (ofRegex r).count text ↔ ∃ p ∈ places text, r.ways p ≠ [] := by
  rw [Nat.pos_iff_ne_zero, ne_eq, count_eq_zero_iff hr]
  simp only [not_forall, exists_prop]

/-- Where a match can only begin at the first place, there is one if the expression leads somewhere
from there. -/
theorem count_cons_pos_iff {c : Char} (h : ∀ p ∈ placesFrom (.ofChar c) text, r.ways p = []) :
    0 < (ofRegex r).count (c :: text) ↔ r.ways ⟨.edge, c :: text⟩ ≠ [] := by
  rw [count_pos_iff hr]
  constructor
  · rintro ⟨p, hp, hways⟩
    rcases List.mem_cons.mp hp with rfl | hp
    · exact hways
    · exact absurd (h p hp) hways
  · exact fun hways => ⟨_, List.mem_cons_self .., hways⟩

/-- There is one match at most if none is at or behind the end of another. -/
theorem count_le_one (h : r.IsSole (places text)) : (ofRegex r).count text ≤ 1 := by
  rw [count_eq_tally hr]
  exact tally_le_one h ..

/-- There is no match in a text that has none of the characters that are demanded. -/
theorem count_eq_zero_of_demands {mark : Unicode.CharSet → Bool} (hmark : r.demands mark)
    (hclear : ∀ set, mark set → ∀ c ∈ text, ¬set.contains c) : (ofRegex r).count text = 0 := by
  rw [count_eq_zero_iff hr]
  intro p hp
  have hrest : p.rest ⊆ text := (suffix_of_mem_placesFrom hp).subset
  exact Regex.ways_eq_nil_of_demands hmark fun set hset c hc => hclear set hset c (hrest hc)

end Automaton

end Polyglot.Pattern
