import Mathlib.Order.Monotone.Basic
import Mathlib.Order.Nat
import Polyglot.Proofs.Pattern.Occurrences

/-!
# Line ends of one character and of two

A line may end with a line feed or with a carriage return and a line feed. Most expressions that
take line feeds as white space take both kinds of line end alike: they match as often when every
line feed has been given a carriage return (`Automaton.count_withReturns`).

The places of the old text are all there in the new one, and there are those between a carriage
return and its line feed. An expression that takes the carriage return has come to such a place, and
what it does there decides (`AtBreak`). It may refuse to go on, and then nothing is found that was
not found before. It may also take the line feed and be where it would be after a single line feed;
a loop over white space does so, as long as what comes after it does not find anything of its own
between the two. Only an expression that could divide them between two of its parts may match more
often.
-/

namespace Polyglot.Pattern

open Unicode (CharSet)

variable {β γ : Type} {r : Regex} {text rest : List Char} {c : Char} {x : Side} {p : Place}

/-! ## Texts with carriage returns -/

/-- The text with a carriage return before each line feed. -/
def withReturns : List Char → List Char
  | [] => []
  | c :: rest => if c = '\n' then '\r' :: '\n' :: withReturns rest else c :: withReturns rest

theorem withReturns_lineFeed (rest : List Char) :
    withReturns ('\n' :: rest) = '\r' :: '\n' :: withReturns rest := rfl

theorem withReturns_cons (h : c ≠ '\n') (rest : List Char) :
    withReturns (c :: rest) = c :: withReturns rest := if_neg h

/-- There is one more character for each line feed. -/
theorem length_withReturns (text : List Char) :
    (withReturns text).length = text.length + text.count '\n' := by
  induction text with
  | nil => rfl
  | cons c rest ih =>
    by_cases h : c = '\n'
    · subst h
      rw [withReturns_lineFeed, List.count_cons_self, List.length_cons, List.length_cons, ih,
        List.length_cons]
      omega
    · rw [withReturns_cons h, List.count_cons_of_ne h, List.length_cons, ih, List.length_cons]
      omega

def Place.withReturns (p : Place) : Place := ⟨p.before, Pattern.withReturns p.rest⟩

/-- The second function finds in texts with carriage returns what the first finds in those
without. -/
def Follows (φ : β → γ) (f : Place → Option β) (f' : Place → Option γ) : Prop :=
  ∀ p : Place, '\r' ∉ p.rest → f' p.withReturns = (f p).map φ

/-! ## Between carriage return and line feed -/

/-- What is found between a carriage return and its line feed. -/
inductive AtBreak where
  /-- Nothing. -/
  | refuses
  /-- What is found after the line feed. -/
  | absorbs
  /-- Something else, maybe. -/
  | splits
deriving DecidableEq

def AtBreak.Holds (f : Place → Option β) : AtBreak → Prop
  | refuses => ∀ rest, f ⟨.carriageReturn, '\n' :: rest⟩ = none
  | absorbs => ∀ rest, f ⟨.carriageReturn, '\n' :: rest⟩ = f ⟨.lineFeed, rest⟩
  | splits => True

/-- What two ways to go on have in common. -/
def AtBreak.meet (b b' : AtBreak) : AtBreak := if b = b' then b else splits

theorem AtBreak.meet_comm (b b' : AtBreak) : b.meet b' = b'.meet b := by
  cases b <;> cases b' <;> rfl

/-- What one character of a set and then something else find between carriage return and line
feed, unless there may be another match. -/
def setAtBreak? (set : CharSet) (next : AtBreak) : Option AtBreak :=
  match set.contains '\r', set.contains '\n' with
  | false, false => some .refuses
  | true, true => if next = .absorbs then some .splits else none
  | true, false => if next = .refuses then some .refuses else none
  | false, true => none

/-- What a loop over the characters of a set and then something else find between the two. -/
def loopAtBreak (set : CharSet) (next : AtBreak) : AtBreak :=
  if next = .splits then .splits
  else if set.contains '\n' then .absorbs
  else if next = .refuses then .refuses
  else .splits

/-- What an expression and then something else find between carriage return and line feed, unless
there may be another match. -/
def Regex.atBreak? (next : AtBreak) : Regex → Option AtBreak
  | empty => some next
  | one set => setAtBreak? set next
  | assert a => if a = .textStart ∨ a = .textEnd then some .refuses else none
  | cat a b => (b.atBreak? next).bind a.atBreak?
  | alt a b => (a.atBreak? next).bind fun m => (b.atBreak? next).map m.meet
  | opt _ a => (a.atBreak? next).map next.meet
  | star true (one set) =>
    let loop := loopAtBreak set next
    (setAtBreak? set loop).map fun _ => loop
  | plus true (one set) => setAtBreak? set (loopAtBreak set next)
  | star _ _ | plus _ _ => none

/-! ## What is found in texts with carriage returns -/

theorem withReturns_eq_nil_iff : withReturns text = [] ↔ text = [] := by
  rw [← List.length_eq_zero_iff, ← List.length_eq_zero_iff, length_withReturns]
  have := List.count_le_length (a := '\n') (l := text)
  omega

/-- If either of two ways is tried first, what both have in common is found. -/
theorem AtBreak.Holds.meet {b b' : AtBreak} {f g h : Place → Option β} (hf : b.Holds f)
    (hg : b'.Holds g) (heq : ∀ p, h p = (f p).or (g p)) : (b.meet b').Holds h := by
  rw [AtBreak.meet]
  split
  · next hsame =>
    subst hsame
    cases b with
    | refuses =>
      intro rest
      rw [heq, hf, hg, Option.none_or]
    | absorbs =>
      intro rest
      rw [heq, heq, hf, hg]
    | splits => trivial
  · trivial

section

variable {φ : β → γ} {f : Place → Option β} {f' : Place → Option γ} {set : CharSet}
  {here next : AtBreak}

/-- One character of a set, if what is found after it is found after it in the other text. -/
theorem via_one_withReturns (hset : setAtBreak? set next = some here) (hnext : next.Holds f')
    (hc : c ≠ '\r') (hlater : f' (Place.withReturns ⟨.ofChar c, rest⟩) = (f ⟨.ofChar c, rest⟩).map φ) :
    (Regex.one set).via f' (Place.withReturns ⟨x, c :: rest⟩) =
      ((Regex.one set).via f ⟨x, c :: rest⟩).map φ := by
  by_cases h : c = '\n'
  · subst h
    rw [Place.withReturns, withReturns_lineFeed, Regex.via_one_cons, Regex.via_one_cons]
    cases hr : set.contains '\r' <;> cases hn : set.contains '\n' <;>
      simp only [setAtBreak?, hr, hn] at hset
    · rfl
    · cases hset
    · -- the carriage return is taken alone, in vain
      split at hset
      · next hrefuses =>
        subst hrefuses
        exact hnext _
      · cases hset
    · split at hset
      · next habsorbs =>
        subst habsorbs
        exact (hnext _).trans hlater
      · cases hset
  · rw [Place.withReturns, withReturns_cons h, Regex.via_one_cons, Regex.via_one_cons]
    split
    · exact hlater
    · rfl

/-- A set finds the same with carriage returns if something is known of it between the two. -/
theorem follows_one (hset : setAtBreak? set next = some here) (hnext : next.Holds f')
    (hf : Follows φ f f') : Follows φ ((Regex.one set).via f) ((Regex.one set).via f') := by
  rintro ⟨x, text⟩ hclean
  cases text with
  | nil => rfl
  | cons c rest =>
    obtain ⟨hc, hrest⟩ := not_or.mp (mt List.mem_cons.mpr hclean)
    exact via_one_withReturns hset hnext (Ne.symm hc) (hf _ hrest)

/-- What a set finds between carriage return and line feed. -/
theorem holds_one (hset : setAtBreak? set next = some here) :
    here.Holds ((Regex.one set).via f') := by
  have hrefuses (hn : set.contains '\n' = false) :
      AtBreak.refuses.Holds ((Regex.one set).via f') := by
    intro rest
    rw [Regex.via_one_cons, hn]
    rfl
  cases hr : set.contains '\r' <;> cases hn : set.contains '\n' <;>
    simp only [setAtBreak?, hr, hn] at hset
  · cases hset
    exact hrefuses hn
  · cases hset
  · split at hset
    · cases hset
      exact hrefuses hn
    · cases hset
  · split at hset
    · cases hset
      trivial
    · cases hset

/-- A loop that has taken a carriage return may take the line feed as well or go on. -/
theorem holds_many (hnext : next.Holds f') :
    (loopAtBreak set next).Holds ((Regex.star true (.one set)).via f') := by
  have hlater (rest : List Char) :
      ((Regex.star true (.one set)).via f' ⟨.lineFeed, rest⟩).or (f' ⟨.lineFeed, rest⟩) =
        (Regex.star true (.one set)).via f' ⟨.lineFeed, rest⟩ := by
    -- leaving the loop is what the loop tries last
    cases rest with
    | nil => rw [Regex.via_many_nil, Option.or_self]
    | cons c rest => rw [Regex.via_many_cons, Option.or_assoc, Option.or_self]
  have hfeed : Side.ofChar '\n' = .lineFeed := rfl
  rw [loopAtBreak]
  split
  · trivial
  · next hsplits =>
    split
    · next hn =>
      intro rest
      rw [Regex.via_many_cons, Regex.via_one_cons, if_pos hn, hfeed]
      cases next with
      | refuses => rw [hnext, Option.or_none]
      | absorbs => rw [hnext, hlater]
      | splits => exact absurd rfl hsplits
    · next hn =>
      split
      · next hrefuses =>
        subst hrefuses
        intro rest
        rw [Regex.via_many_cons, Regex.via_one_cons, if_neg hn, hnext, Option.none_or]
      · trivial

/-- A loop over a set finds the same with carriage returns if something is known of it between the
two. -/
theorem follows_many (hset : setAtBreak? set (loopAtBreak set next) = some here)
    (hnext : next.Holds f') (hf : Follows φ f f') :
    Follows φ ((Regex.star true (.one set)).via f) ((Regex.star true (.one set)).via f') := by
  rintro ⟨x, text⟩ hclean
  induction text generalizing x with
  | nil =>
    have := hf ⟨x, []⟩ hclean
    simpa [Place.withReturns, withReturns] using this
  | cons c rest ih =>
    obtain ⟨hc, hrest⟩ := not_or.mp (mt List.mem_cons.mpr hclean)
    have hturn := via_one_withReturns hset (holds_many hnext) (Ne.symm hc)
      (ih (.ofChar c) hrest) (x := x)
    have hleave := hf ⟨x, c :: rest⟩ hclean
    -- in both texts, one more turn is preferred to leaving
    obtain ⟨d, later, hd⟩ : ∃ d later, withReturns (c :: rest) = d :: later := by
      by_cases h : c = '\n'
      · exact ⟨_, _, h ▸ withReturns_lineFeed rest⟩
      · exact ⟨_, _, withReturns_cons h rest⟩
    simp only [Place.withReturns, hd] at hturn hleave ⊢
    rw [Regex.via_many_cons, Regex.via_many_cons, hturn, hleave, Option.map_or]

/-- Only loops over single characters are looked into. -/
theorem eq_one_of_atBreak?_star {greedy : Bool} {a : Regex}
    (h : (Regex.star greedy a).atBreak? next = some here) :
    ∃ set, greedy = true ∧ a = .one set ∧ (setAtBreak? set (loopAtBreak set next)).isSome ∧
      here = loopAtBreak set next := by
  cases greedy <;> cases a <;> simp only [Regex.atBreak?, Option.map_eq_some_iff] at h
  case true.one set =>
    obtain ⟨m, hm, rfl⟩ := h
    exact ⟨set, rfl, rfl, Option.isSome_of_mem hm, rfl⟩
  all_goals cases h

theorem eq_one_of_atBreak?_plus {greedy : Bool} {a : Regex}
    (h : (Regex.plus greedy a).atBreak? next = some here) :
    ∃ set, greedy = true ∧ a = .one set ∧ setAtBreak? set (loopAtBreak set next) = some here := by
  cases greedy <;> cases a <;> simp only [Regex.atBreak?] at h
  case true.one set => exact ⟨set, rfl, rfl, h⟩
  all_goals cases h

/-- In both texts an assertion asks for an end of the text. -/
theorem follows_assert {a : Assertion} (ha : a = .textStart ∨ a = .textEnd) (hf : Follows φ f f') :
    Follows φ ((Regex.assert a).via f) ((Regex.assert a).via f') := by
  intro p hp
  have hasks : a.holds p.before (.ofHead (withReturns p.rest)) =
      a.holds p.before (.ofHead p.rest) := by
    rcases ha with rfl | rfl
    · rfl
    · rw [Assertion.holds, Assertion.holds, Bool.eq_iff_iff, beq_iff_eq, beq_iff_eq,
        Side.ofHead_eq_edge_iff, Side.ofHead_eq_edge_iff, withReturns_eq_nil_iff]
  rw [Regex.via_assert, Regex.via_assert, hf p hp, Place.withReturns, hasks]
  split <;> rfl

theorem holds_assert {a : Assertion} (ha : a = .textStart ∨ a = .textEnd) :
    AtBreak.refuses.Holds ((Regex.assert a).via f') := by
  intro rest
  rw [Regex.via_assert]
  rcases ha with rfl | rfl <;> rfl

/-- What an expression leads to is found in both texts if what comes after it is. -/
theorem follows_via (hr : r.atBreak? next = some here) (hnext : next.Holds f')
    (hf : Follows φ f f') : Follows φ (r.via f) (r.via f') ∧ here.Holds (r.via f') := by
  induction r generalizing next here f f' with
  | empty =>
    cases hr
    rw [Regex.via_empty, Regex.via_empty]
    exact ⟨hf, hnext⟩
  | one set => exact ⟨follows_one hr hnext hf, holds_one hr⟩
  | assert a =>
    rw [Regex.atBreak?] at hr
    split at hr
    · next ha =>
      cases hr
      exact ⟨follows_assert ha hf, holds_assert ha⟩
    · cases hr
  | cat a b iha ihb =>
    obtain ⟨m, hb, ha⟩ := Option.bind_eq_some_iff.mp hr
    obtain ⟨hfollows, hm⟩ := ihb hb hnext hf
    rw [Regex.via_cat, Regex.via_cat]
    exact iha ha hm hfollows
  | alt a b iha ihb =>
    rw [Regex.atBreak?] at hr
    obtain ⟨m, ha, hr⟩ := Option.bind_eq_some_iff.mp hr
    obtain ⟨m', hb, rfl⟩ := Option.map_eq_some_iff.mp hr
    obtain ⟨hfa, hma⟩ := iha ha hnext hf
    obtain ⟨hfb, hmb⟩ := ihb hb hnext hf
    refine ⟨fun p hp => ?_, hma.meet hmb fun p => Regex.via_alt⟩
    rw [Regex.via_alt, Regex.via_alt, hfa p hp, hfb p hp, Option.map_or]
  | opt greedy a ih =>
    rw [Regex.atBreak?] at hr
    obtain ⟨m, ha, rfl⟩ := Option.map_eq_some_iff.mp hr
    obtain ⟨hfa, hma⟩ := ih ha hnext hf
    refine ⟨fun p hp => ?_, ?_⟩
    · rw [Regex.via_opt, Regex.via_opt, hfa p hp, hf p hp]
      cases greedy <;> exact Option.map_or.symm
    · cases greedy with
      | false => exact hnext.meet hma fun p => Regex.via_opt
      | true => exact AtBreak.meet_comm .. ▸ hma.meet hnext fun p => Regex.via_opt
  | star greedy a _ =>
    obtain ⟨set, rfl, rfl, hset, rfl⟩ := eq_one_of_atBreak?_star hr
    obtain ⟨m, hset⟩ := Option.isSome_iff_exists.mp hset
    exact ⟨follows_many hset hnext hf, holds_many hnext⟩
  | plus greedy a _ =>
    obtain ⟨set, rfl, rfl, hset⟩ := eq_one_of_atBreak?_plus hr
    rw [Regex.via_plus, Regex.via_plus]
    exact ⟨follows_one hset (holds_many hnext) (follows_many hset hnext hf), holds_one hset⟩

end

/-! ## Counting -/

/-- The expression cannot find more or less in a text whose line feeds have carriage returns, and it
finds nothing from between the two. -/
def Regex.isBreakProof (r : Regex) : Bool := r.atBreak? .splits == some .refuses

/-- The number of characters behind a place of the text once the line feeds there have carriage
returns. -/
def widened (text : List Char) (left : Nat) : Nat :=
  left + (text.reverse.take left).count '\n'

/-- Places keep their order when carriage returns are put in. -/
theorem strictMono_widened (text : List Char) : StrictMono (widened text) := by
  intro k k' hlt
  have hprefix : text.reverse.take k <+: text.reverse.take k' :=
    List.take_prefix_take_left (Nat.le_of_lt hlt)
  have := hprefix.sublist.count_le '\n'
  simp only [widened]
  omega

/-- Behind a place there are as many characters as the rest of the text has with carriage
returns. -/
theorem widened_of_suffix (h : rest <:+ text) :
    widened text rest.length = (withReturns rest).length := by
  obtain ⟨ahead, rfl⟩ := h
  rw [widened, length_withReturns, List.reverse_append, ← List.length_reverse, List.take_left,
    List.count_reverse, List.length_reverse]

namespace Regex

/-- An expression that line breaks cannot touch leads to the same places, and from nowhere between
the two. -/
theorem follows_of_isBreakProof (hr : r.isBreakProof) :
    Follows withReturns (r.via fun p => some p.rest) (r.via fun p => some p.rest) ∧
      AtBreak.refuses.Holds (r.via fun p => some p.rest) :=
  follows_via (eq_of_beq hr) trivial fun _ _ => rfl

/-- The end of a match is the first place that the expression leads to. -/
theorem stop?_eq_map_via (r : Regex) (p : Place) :
    r.stop? p = (r.via (fun q => some q.rest) p).map List.length := by
  rw [via_some, Option.map_map]
  rfl

/-- A match from a place ends in the new text where it ends in the old one. -/
theorem stop?_withReturns (hr : r.isBreakProof) (hp : p.rest <:+ text) (hclean : '\r' ∉ text) :
    r.stop? p.withReturns = (r.stop? p).map (widened text) := by
  have hfollows := (follows_of_isBreakProof hr).1 p fun hin => hclean (hp.subset hin)
  rw [stop?_eq_map_via, hfollows, Option.map_map, stop?, via_some, Option.map_map, Option.map_map]
  refine Option.map_congr fun q hq => ?_
  have hq : q.rest <:+ text := (suffix_of_mem_ways (List.mem_of_mem_head? hq)).trans hp
  exact (widened_of_suffix hq).symm

/-- No match begins with the line feed. -/
theorem stop?_at_break (hr : r.isBreakProof) (rest : List Char) :
    r.stop? ⟨.carriageReturn, '\n' :: rest⟩ = none := by
  rw [stop?_eq_map_via, (follows_of_isBreakProof hr).2 rest]
  rfl

end Regex

/-- One place is tallied in the same way wherever the places have been moved to, as long as they
keep their order. -/
theorem tally_map {φ : Nat → Nat} (hφ : StrictMono φ) {ends ends' : List (Option Nat)} {here : Nat}
    (hlater : ∀ count resume last, tally count (φ here - 1) (φ resume) (last.map φ) ends' =
      tally count (here - 1) resume last ends)
    (e : Option Nat) (count resume : Nat) (last : Option Nat) :
    tally count (φ here) (φ resume) (last.map φ) (e.map φ :: ends') =
      tally count here resume last (e :: ends) := by
  cases e with
  | none => exact hlater ..
  | some stop =>
    have hlast : last.map φ = some (φ here) ↔ last = some here := by
      rw [← Option.map_some, (Option.map_injective hφ.injective).eq_iff]
    simp only [Option.map_some, tally, hφ.lt_iff_lt, hφ.injective.eq_iff, hlast]
    split
    · exact hlater ..
    · split
      · exact hlater ..
      · exact hlater (count + 1) stop (some stop)

/-- The tallies over both texts keep in step. -/
theorem tally_withReturns (hr : r.isBreakProof) {text : List Char} (hclean : '\r' ∉ text)
    (hrest : rest <:+ text) (count resume : Nat) (last : Option Nat) :
    tally count (withReturns rest).length (widened text resume) (last.map (widened text))
        ((placesFrom x (withReturns rest)).map r.stop?) =
      tally count rest.length resume last ((placesFrom x rest).map r.stop?) := by
  rw [← widened_of_suffix hrest]
  induction rest generalizing x count resume last with
  | nil =>
    have hstop := Regex.stop?_withReturns (p := ⟨x, []⟩) hr hrest hclean
    rw [Place.withReturns, withReturns] at hstop
    rw [withReturns, placesFrom, List.map_cons, List.map_nil]
    nth_rewrite 1 [hstop]
    exact tally_map (strictMono_widened text) (fun _ _ _ => rfl) ..
  | cons c rest ih =>
    have hstop := Regex.stop?_withReturns (p := ⟨x, c :: rest⟩) hr hrest hclean
    have hrest' : rest <:+ text := (List.suffix_cons c rest).trans hrest
    have hlater (count resume : Nat) (last : Option Nat) :=
      ih (x := .ofChar c) hrest' count resume last
    have hlength := widened_of_suffix hrest
    rw [Place.withReturns] at hstop
    rw [widened_of_suffix hrest'] at hlater
    by_cases h : c = '\n'
    · subst h
      rw [withReturns_lineFeed] at hstop hlength ⊢
      rw [placesFrom, placesFrom, placesFrom, List.map_cons, List.map_cons, List.map_cons, hstop]
      refine tally_map (strictMono_widened text) (fun count resume last => ?_) ..
      rw [hlength]
      -- nothing is found at the place between the two characters
      have hbreak : r.stop? ⟨.ofChar '\r', '\n' :: withReturns rest⟩ = none :=
        Regex.stop?_at_break hr (withReturns rest)
      rw [hbreak]
      exact hlater count resume last
    · rw [withReturns_cons h] at hstop hlength ⊢
      rw [placesFrom, placesFrom, List.map_cons, List.map_cons, hstop]
      refine tally_map (strictMono_widened text) (fun count resume last => ?_) ..
      rw [hlength]
      exact hlater count resume last

namespace Automaton

/-- **An expression that is proof against breaks matches as often when all line feeds are given a
carriage return.** -/
theorem count_withReturns (hr : r.isBreakProof) (hsteady : r.isSteady) (hclean : '\r' ∉ text) :
    (ofRegex r).count (withReturns text) = (ofRegex r).count text := by
  have htally := tally_withReturns hr hclean List.suffix_rfl 0 text.length none (x := .edge)
  rw [widened_of_suffix List.suffix_rfl] at htally
  rw [count_eq_tally hsteady, count_eq_tally hsteady]
  exact htally

end Automaton

end Polyglot.Pattern
