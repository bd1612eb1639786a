import Mathlib.Data.List.Forall2
import Polyglot.Proofs.Pattern.Occurrences

/-!
# What every match runs through

Whatever ways an expression has, each match takes a character of certain sets, one after the other:
those of the parts that can be neither left out nor exchanged. They are the backbone of the
expression (`Regex.backbone`). There may be anything between two of these characters, so the
backbone says less than the expression, but it says it by a single run over the text: where there
are no such characters in this order, there is no match
(`Automaton.count_eq_zero_of_not_runsThrough`).

A backbone stays in a text when characters are removed that none of its sets has, and so it does
when some of its sets are passed over (`RunsThrough.filter`). A text can be looked at in this way
although parts of it are not known.
-/

namespace Polyglot.Pattern

open Unicode (CharSet)

variable {r : Regex} {p q : Place} {set : CharSet} {sets sets' : List CharSet}
  {text text' : List Char} {c : Char}

/-! ## Runs -/

/-- The text has characters of the sets, one for each and in this order. -/
abbrev RunsThrough (sets : List CharSet) (text : List Char) : Prop :=
  List.SublistForall₂ (fun set c => set.contains c) sets text

/-- A run that takes the first character it can. -/
def findsAll : List CharSet → List Char → Bool
  | [], _ => true
  | _ :: _, [] => false
  | set :: sets, c :: rest =>
    if set.contains c then findsAll sets rest else findsAll (set :: sets) rest

theorem findsAll_nil (text : List Char) : findsAll [] text = true := by
  cases text <;> rfl

theorem RunsThrough.tail (h : RunsThrough (set :: sets) text) : RunsThrough sets text := by
  obtain ⟨taken, htaken, hsub⟩ := List.sublistForall₂_iff.mp h
  cases htaken with
  | @cons _ c _ rest _ hrest =>
    exact List.sublistForall₂_iff.mpr ⟨rest, hrest, (List.sublist_cons_self c rest).trans hsub⟩

/-- The first character that will do is as good as any later one. -/
theorem findsAll_iff : findsAll sets text ↔ RunsThrough sets text := by
  constructor
  · intro h
    induction text generalizing sets with
    | nil =>
      cases sets with
      | nil => exact .nil
      | cons set sets => cases h
    | cons c rest ih =>
      cases sets with
      | nil => exact .nil
      | cons set sets =>
        rw [findsAll] at h
        split at h
        · next hc => exact .cons hc (ih h)
        · exact .cons_right (ih h)
  · intro h
    induction text generalizing sets with
    | nil =>
      cases h
      rfl
    | cons c rest ih =>
      cases sets with
      | nil => exact findsAll_nil _
      | cons set sets =>
        rw [findsAll]
        split
        · cases h with
          | cons _ h => exact ih h
          | cons_right h => exact ih (RunsThrough.tail h)
        · next hc =>
          cases h with
          | cons hc' _ => exact absurd hc' hc
          | cons_right h => exact ih h

instance (sets : List CharSet) (text : List Char) : Decidable (RunsThrough sets text) :=
  decidable_of_iff (findsAll sets text) findsAll_iff

/-- A text has the characters if part of it has them. -/
theorem RunsThrough.mono (h : RunsThrough sets text) (htext : text.Sublist text') :
    RunsThrough sets text' := by
  obtain ⟨taken, htaken, hsub⟩ := List.sublistForall₂_iff.mp h
  exact List.sublistForall₂_iff.mpr ⟨taken, htaken, hsub.trans htext⟩

/-- Where one text has characters of some sets and the next of others, the two together have all of
them. -/
theorem RunsThrough.append (h : RunsThrough sets text) (h' : RunsThrough sets' text') :
    RunsThrough (sets ++ sets') (text ++ text') := by
  induction h with
  | nil => exact h'.mono (List.sublist_append_right _ _)
  | cons hc _ ih => exact .cons hc ih
  | cons_right _ ih => exact .cons_right ih

/-- Some of the sets are found among those characters that matter to them. -/
theorem RunsThrough.filter {mark : CharSet → Bool} {keep : Char → Bool}
    (hmark : ∀ set c, mark set → set.contains c → keep c) (h : RunsThrough sets text) :
    RunsThrough (sets.filter mark) (text.filter keep) := by
  have hskip (c : Char) (rest : List Char) : (rest.filter keep).Sublist ((c :: rest).filter keep) :=
    (List.sublist_cons_self c rest).filter keep
  induction h with
  | nil => exact .nil
  | @cons set c sets rest hc _ ih =>
    by_cases hset : mark set
    · rw [List.filter_cons_of_pos hset, List.filter_cons_of_pos (hmark set c hset hc)]
      exact .cons hc ih
    · rw [List.filter_cons_of_neg hset]
      exact ih.mono (hskip c rest)
  | @cons_right c sets rest _ ih => exact ih.mono (hskip c rest)

/-! ## Backbones -/

/-- The sets of which every match takes a character, in this order. -/
def Regex.backbone : Regex → List CharSet
  | empty | assert _ | alt _ _ | opt _ _ | star _ _ => []
  | one set => [set]
  | cat a b => a.backbone ++ b.backbone
  | plus _ a => a.backbone

/-- What a way takes runs through the backbone. -/
theorem Regex.runsThrough_of_mem_ways (h : q ∈ r.ways p) :
    ∃ taken, p.rest = taken ++ q.rest ∧ RunsThrough r.backbone taken := by
  induction r generalizing p q with
  | empty | assert | alt | opt | star =>
    obtain ⟨taken, htaken⟩ := suffix_of_mem_ways h
    exact ⟨taken, htaken.symm, .nil⟩
  | one set =>
    obtain ⟨c, hc, hrest, -⟩ := mem_ways_one.mp h
    exact ⟨[c], hrest, .cons hc .nil⟩
  | cat a b iha ihb =>
    obtain ⟨m, hm, hq⟩ := List.mem_flatMap.mp h
    obtain ⟨first, hfirst, ha⟩ := iha hm
    obtain ⟨second, hsecond, hb⟩ := ihb hq
    exact ⟨first ++ second, by rw [hfirst, hsecond, List.append_assoc], ha.append hb⟩
  | plus greedy a ih =>
    obtain ⟨m, hm, hq⟩ := List.mem_flatMap.mp h
    obtain ⟨first, hfirst, ha⟩ := ih hm
    -- the turns after the first one may take anything
    obtain ⟨later, hlater⟩ := suffix_of_mem_turns (fun _ _ => suffix_of_mem_ways) hq
    refine ⟨first ++ later, by rw [hfirst, ← hlater, List.append_assoc], ?_⟩
    exact ha.mono (List.sublist_append_left _ _)

/-- Without characters for the backbone there is no match. -/
theorem Regex.ways_eq_nil_of_not_runsThrough (h : ¬RunsThrough r.backbone p.rest) :
    r.ways p = [] := by
  refine List.eq_nil_iff_forall_not_mem.mpr fun q hq => h ?_
  obtain ⟨taken, hrest, hruns⟩ := runsThrough_of_mem_ways hq
  exact hruns.mono (hrest ▸ List.sublist_append_left taken q.rest)

/-- **There is no match in a text that the backbone does not run through.** -/
theorem Automaton.count_eq_zero_of_not_runsThrough (hr : r.isSteady)
    (h : ¬RunsThrough r.backbone text) : (ofRegex r).count text = 0 := by
  rw [count_eq_zero_iff hr]
  intro p hp
  refine Regex.ways_eq_nil_of_not_runsThrough fun hruns => h ?_
  exact hruns.mono (suffix_of_mem_placesFrom hp).sublist

end Polyglot.Pattern
