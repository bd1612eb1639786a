import Polyglot.Proofs.Pattern.Likeness

/-!
# How short matches can be

Every match of an expression has at least as many characters as the expression says
(`Regex.minLength`), so a text has no more matches than its length allows
(`count_mul_minLength_le`).

Every step of the automaton needs a number of characters to come to the end of a match. A step that
takes a character lowers the need by one at most, and no other step lowers it (`Step.Keeps`). A
sweep therefore finds no end of a match closer than the need of the step that it is asked for.
-/

namespace Polyglot.Pattern

variable {need : Nat → Nat} {program : Array Step} {r : Regex}

/-! ## What steps need -/

/-- The fewest characters that a match can have. -/
def Regex.minLength : Regex → Nat
  | empty | assert _ | opt _ _ | star _ _ => 0
  | one _ => 1
  | cat a b => a.minLength + b.minLength
  | alt a b => min a.minLength b.minLength
  | plus _ a => a.minLength

/-- The fewest characters that are taken from step `i` of an expression on, where `after` of them
are needed behind the expression. -/
def Regex.needAt (after : Nat) : Regex → (i : Nat) → Nat
  | empty, _ | assert _, _ => after
  | one _, _ => after + 1
  | cat a b, i =>
    if i < a.stepCount then a.needAt (b.minLength + after) i else b.needAt after (i - a.stepCount)
  | alt a b, i =>
    if i = 0 then min a.minLength b.minLength + after
    else if i - 1 < a.stepCount then a.needAt after (i - 1)
    else b.needAt after (i - 1 - a.stepCount)
  | opt _ a, i | star _ a, i => if i = 0 then after else a.needAt after (i - 1)
  | plus _ a, i => if i < a.stepCount then a.needAt after i else after

/-- The step with number `q` lowers the need by no more than the characters it takes. -/
def Step.Keeps (need : Nat → Nat) (q : Nat) : Step → Prop
  | take _ next => need q ≤ need next + 1
  | fork a b => need q ≤ need a ∧ need q ≤ need b
  | test _ next | jump next => need q ≤ need next
  | accept => need q = 0

namespace Regex

theorem keeps_loopFork {q again leave : Nat} (hagain : need q ≤ need again)
    (hleave : need q ≤ need leave) (greedy : Bool) :
    (loopFork greedy again leave).Keeps need q := by
  cases greedy
  · exact ⟨hleave, hagain⟩
  · exact ⟨hagain, hleave⟩

/-- At its first step an expression needs what it takes and what is needed behind it. -/
theorem needAt_zero (after : Nat) (r : Regex) : r.needAt after 0 = r.minLength + after := by
  induction r generalizing after with
  | empty | assert a | opt greedy a | star greedy a => simp [needAt, minLength]
  | one set => exact Nat.add_comm ..
  | cat a b iha ihb => rw [needAt, if_pos a.stepCount_pos, iha, minLength, Nat.add_assoc]
  | alt a b iha ihb => rw [needAt, if_pos rfl, minLength]
  | plus greedy a ih => rw [needAt, if_pos a.stepCount_pos, ih, minLength]

/-- The need of the steps that are numbered from `here` is what the expression gives them, where
`after` characters are needed behind it. -/
def Charts (need : Nat → Nat) (r : Regex) (here after : Nat) : Prop :=
  ∀ i < r.stepCount, need (here + i) = r.needAt after i

section

variable {a b : Regex} {greedy : Bool} {here after i : Nat}

theorem needAt_cat : (cat a b).needAt after i =
    if i < a.stepCount then a.needAt (b.minLength + after) i
    else b.needAt after (i - a.stepCount) := rfl

theorem needAt_alt : (alt a b).needAt after i =
    if i = 0 then min a.minLength b.minLength + after
    else if i - 1 < a.stepCount then a.needAt after (i - 1)
    else b.needAt after (i - 1 - a.stepCount) := rfl

theorem needAt_opt :
    (opt greedy a).needAt after i = if i = 0 then after else a.needAt after (i - 1) := rfl

theorem needAt_plus :
    (plus greedy a).needAt after i = if i < a.stepCount then a.needAt after i else after := rfl

/-- Where the need is charted, an expression that is entered needs what it takes and what comes
after. -/
theorem Charts.need_here (h : r.Charts need here after) : need here = r.minLength + after := by
  simpa [needAt_zero] using h 0 r.stepCount_pos

theorem Charts.second (h : (cat a b).Charts need here after) :
    b.Charts need (here + a.stepCount) after := by
  intro i hi
  have := h (a.stepCount + i) (Nat.add_lt_add_left hi _)
  simpa [needAt_cat, Nat.add_assoc, Nat.not_lt.mpr (Nat.le_add_right ..)] using this

/-- What is needed behind the first of two expressions is the need of the second. -/
theorem Charts.first (h : (cat a b).Charts need here after) :
    a.Charts need here (need (here + a.stepCount)) := by
  intro i hi
  have := h i (Nat.lt_add_right _ hi)
  rwa [needAt_cat, if_pos hi, ← h.second.need_here] at this

theorem Charts.preferred (h : (alt a b).Charts need here after) :
    a.Charts need (here + 1) after := by
  intro i hi
  have := h (1 + i) (by rw [stepCount]; omega)
  simpa [needAt_alt, Nat.add_assoc, hi] using this

theorem Charts.other (h : (alt a b).Charts need here after) :
    b.Charts need (here + 1 + a.stepCount) after := by
  intro i hi
  have := h (1 + a.stepCount + i) (Nat.add_lt_add_left hi _)
  have hplace : 1 + a.stepCount + i - 1 = a.stepCount + i := by omega
  simpa [needAt_alt, Nat.add_assoc, hplace, Nat.not_lt.mpr (Nat.le_add_right ..)] using this

/-- The body of an expression that may be passed over, be it once or in turns. -/
theorem Charts.body
    (h : (opt greedy a).Charts need here after ∨ (star greedy a).Charts need here after) :
    need here = after ∧ a.Charts need (here + 1) after := by
  -- what the fork leads back to does not show in what the steps need
  have h : (opt greedy a).Charts need here after := h.elim id id
  refine ⟨by simpa [minLength] using h.need_here, fun i hi => ?_⟩
  have := h (1 + i) (by rw [stepCount]; omega)
  simpa [needAt_opt, Nat.add_assoc] using this

/-- Behind a turn of a loop only what comes after the loop is needed. -/
theorem Charts.turn (h : (plus greedy a).Charts need here after) :
    need (here + a.stepCount) = after ∧ a.Charts need here after := by
  refine ⟨by simpa [needAt_plus] using h a.stepCount (Nat.lt_succ_self _), fun i hi => ?_⟩
  have := h i (Nat.lt_succ_of_lt hi)
  rwa [needAt_plus, if_pos hi] at this

end

/-- The steps of an expression keep the need that the expression gives them. -/
theorem keeps_of_mem_steps {here next q : Nat} {s : Step} (h : r.Charts need here (need next))
    (hs : (s, q) ∈ (r.steps here next).zipIdx here) : s.Keeps need q := by
  induction r generalizing here next with
  | empty | assert a | one set =>
    cases List.mem_singleton.mp hs
    exact Nat.le_of_eq (by simpa [minLength, Nat.add_comm] using h.need_here)
  | cat a b iha ihb =>
    rw [steps, List.zipIdx_append, length_steps] at hs
    rcases List.mem_append.mp hs with hs | hs
    · exact iha h.first hs
    · exact ihb h.second hs
  | alt a b iha ihb =>
    rw [steps, List.zipIdx_cons, List.zipIdx_append, length_steps] at hs
    rcases List.mem_cons.mp hs with hs | hs
    · cases hs
      rw [Step.Keeps, h.need_here, h.preferred.need_here, h.other.need_here, minLength]
      omega
    · rcases List.mem_append.mp hs with hs | hs
      · exact iha h.preferred hs
      · exact ihb h.other hs
  | opt greedy a ih =>
    obtain ⟨hhere, ha⟩ := Charts.body (.inl h)
    rw [steps, List.zipIdx_cons] at hs
    rcases List.mem_cons.mp hs with hs | hs
    · cases hs
      exact keeps_loopFork (by rw [ha.need_here]; omega) (by omega) greedy
    · exact ih ha hs
  | star greedy a ih =>
    obtain ⟨hhere, ha⟩ := Charts.body (.inr h)
    rw [steps, List.zipIdx_cons] at hs
    rcases List.mem_cons.mp hs with hs | hs
    · cases hs
      exact keeps_loopFork (by rw [ha.need_here]; omega) (by omega) greedy
    · -- the body leads back to the fork, where as much is needed as behind the whole
      exact ih (hhere ▸ ha) hs
  | plus greedy a ih =>
    obtain ⟨hfork, ha⟩ := h.turn
    rw [steps, List.zipIdx_append, length_steps] at hs
    rcases List.mem_append.mp hs with hs | hs
    · exact ih (hfork ▸ ha) hs
    · cases List.mem_singleton.mp hs
      exact keeps_loopFork (by rw [ha.need_here]; omega) (by omega) greedy

/-- What the steps of the whole expression need. -/
def stepNeed (r : Regex) (q : Nat) : Nat := if q < r.stepCount then r.needAt 0 q else 0

/-- The need of the steps is charted for the whole expression. -/
theorem charts_stepNeed (r : Regex) : r.Charts r.stepNeed 0 0 := by
  intro i hi
  simp [stepNeed, hi]

/-- The first step needs all that a match takes. -/
theorem stepNeed_zero (r : Regex) : r.stepNeed 0 = r.minLength := r.charts_stepNeed.need_here

/-- No step of a program lowers the need by more than it takes. -/
theorem keeps_of_getElem?_program {q : Nat} {s : Step} (hs : r.program[q]? = some s) :
    s.Keeps r.stepNeed q := by
  rw [program, List.getElem?_toArray, ← List.mk_mem_zipIdx_iff_getElem?, List.zipIdx_append,
    length_steps] at hs
  rcases List.mem_append.mp hs with hs | hs
  · have hend : r.stepNeed r.stepCount = 0 := by simp [stepNeed]
    exact keeps_of_mem_steps (hend ▸ r.charts_stepNeed) hs
  · cases List.mem_singleton.mp hs
    simp [Step.Keeps, stepNeed]

end Regex

/-! ## What a sweep finds -/

/-- What is needed where a run comes to rest. -/
def Rest.needIn (need : Nat → Nat) : Rest → Nat
  | take step => need step
  | done => 0

section

variable (hkeeps : ∀ q s, program[q]? = some s → Step.Keeps need q s)
include hkeeps

/-- A run comes to rest only where no less is needed than where it set out. -/
theorem le_needIn_of_mem_restsFrom {x y : Side} {fuel n : Nat} {pending : List Nat}
    {seen : Array Bool} {place : Rest} (hplace : place ∈ restsFrom program x y fuel pending seen)
    (hn : ∀ q ∈ pending, n ≤ need q) : n ≤ place.needIn need := by
  -- by the visits: each step hands the bound on to those that it leads to
  induction fuel generalizing pending seen with
  | zero => cases hplace
  | succ fuel ih =>
    cases pending with
    | nil => cases hplace
    | cons q pending =>
      obtain ⟨hq, hpending⟩ := List.forall_mem_cons.mp hn
      rw [restsFrom] at hplace
      split at hplace
      · exact ih hplace hpending
      · split at hplace
        · rcases List.mem_cons.mp hplace with rfl | hplace
          · exact hq
          · exact ih hplace hpending
        · next hstep =>
          rcases List.mem_cons.mp hplace with rfl | hplace
          · exact Nat.le_trans hq (Nat.le_of_eq (hkeeps _ _ hstep))
          · exact ih hplace hpending
        · next hstep =>
          exact ih hplace (List.forall_mem_cons.mpr ⟨Nat.le_trans hq (hkeeps _ _ hstep), hpending⟩)
        · next hstep =>
          obtain ⟨ha, hb⟩ := hkeeps _ _ hstep
          refine ih hplace (List.forall_mem_cons.mpr ⟨Nat.le_trans hq ha, ?_⟩)
          exact List.forall_mem_cons.mpr ⟨Nat.le_trans hq hb, hpending⟩
        · next hstep =>
          split at hplace
          · exact ih hplace (List.forall_mem_cons.mpr ⟨Nat.le_trans hq (hkeeps _ _ hstep), hpending⟩)
          · exact ih hplace hpending
        · exact ih hplace hpending

end

namespace Automaton

/-- For every place of a text, from the first to the last, a match from it has at least `n`
characters. -/
def Spans (n : Nat) : List (Option Nat) → Prop
  | [] => True
  | stop? :: rest => (∀ stop ∈ stop?, stop + n ≤ rest.length) ∧ Spans n rest

/-- No end that the front knows of is closer than what is needed. -/
structure Keeps (need : Nat → Nat) (f : Front) : Prop where
  ends : ∀ e ∈ f.ends, e.2 + need e.1 ≤ f.left
  found : Spans (need 0) f.found
  length_found : f.found.length = f.left

variable {f : Front} {text : List Char}

/-- A match that goes on from a step has at least the characters that the step needs. -/
theorem Keeps.le_left (h : Keeps r.stepNeed f) {x : Side} {q stop : Nat}
    (hq : q < r.program.size) (hstop : (ofRegex r).resolve x f q = some stop) :
    stop + r.stepNeed q ≤ f.left := by
  obtain ⟨place, hplace, hend⟩ := List.exists_of_findSome?_eq_some hstop
  rw [ofRegex, routes_ofProgram _ _ _ hq] at hplace
  have hneed : r.stepNeed q ≤ place.needIn r.stepNeed :=
    le_needIn_of_mem_restsFrom (fun _ _ => Regex.keeps_of_getElem?_program) hplace (by simp)
  cases place with
  | done =>
    cases hend
    exact Nat.add_le_add_left hneed f.left
  | take i =>
    obtain ⟨before, after, hends, -⟩ := List.lookup_eq_some_iff.mp hend
    have hi := h.ends (i, stop) (by simp [hends])
    exact Nat.le_trans (Nat.add_le_add_left hneed _) hi

/-- The matches from the place of the front and from those after it are long enough. -/
theorem Keeps.spans_cons (h : Keeps r.stepNeed f) {x : Side} :
    Spans (r.stepNeed 0) ((ofRegex r).resolve x f 0 :: f.found) := by
  refine ⟨fun stop hstop => ?_, h.found⟩
  rw [h.length_found]
  exact h.le_left r.size_program_pos hstop

/-- A front that keeps the need keeps it when it goes on over a character. -/
theorem Keeps.advance (h : Keeps r.stepNeed f) (c : Char) :
    Keeps r.stepNeed ((ofRegex r).advance c f) where
  ends := by
    intro e he
    simp only [Automaton.advance, List.mem_filterMap, Option.map_eq_some_iff] at he
    obtain ⟨t, ht, stop, hstop, rfl⟩ := he
    have hneed : r.stepNeed t.step ≤ r.stepNeed t.next + 1 :=
      Regex.keeps_of_getElem?_program (getElem?_of_mem_accepting ht)
    have hnext : stop + r.stepNeed t.next ≤ f.left :=
      h.le_left (next_lt_of_mem_accepting ht) hstop
    calc
      stop + r.stepNeed t.step
      _ ≤ stop + (r.stepNeed t.next + 1) := Nat.add_le_add_left hneed _
      _ ≤ f.left + 1 := Nat.succ_le_succ hnext
  found := h.spans_cons
  length_found := by
    rw [Automaton.advance, List.length_cons, h.length_found]

/-- Every front of a sweep keeps the need. -/
theorem keeps_sweep (r : Regex) (text : List Char) : Keeps r.stepNeed ((ofRegex r).sweep text) := by
  induction text with
  | nil => exact ⟨by simp [Front.atEnd], trivial, rfl⟩
  | cons c rest ih => exact ih.advance c

/-- No match is shorter than the expression says. -/
theorem spans_matchEnds (r : Regex) (text : List Char) :
    Spans r.minLength ((ofRegex r).matchEnds text) := by
  rw [← r.stepNeed_zero]
  exact (keeps_sweep r text).spans_cons

/-! ## How many matches there can be -/

/-- Matches that do not overlap have no more characters than there are from where the search goes
on. -/
theorem tally_mul_le {n : Nat} {ends : List (Option Nat)} (h : Spans n ends) (count resume : Nat)
    (last : Option Nat) :
    tally count (ends.length - 1) resume last ends * n ≤
      count * n + min (ends.length - 1) resume := by
  induction ends generalizing count resume last with
  | nil => exact Nat.le_add_right ..
  | cons e rest ih =>
    obtain ⟨hstop, hrest⟩ := h
    rw [List.length_cons, Nat.add_sub_cancel]
    -- passing over a place is no gain, whatever the reason
    have hskip : tally count (rest.length - 1) resume last rest * n ≤
        count * n + min rest.length resume := by
      have := ih hrest count resume last
      omega
    cases e with
    | none => exact hskip
    | some stop =>
      rw [tally]
      split
      · exact hskip
      · split
        · exact hskip
        · have hfits := hstop stop rfl
          have htaken := ih hrest (count + 1) stop (some stop)
          rw [Nat.add_mul, Nat.one_mul] at htaken
          omega

/-- A search counts one match for each place at most, whether or not the match has any character. -/
theorem tally_le_add_length (count here resume : Nat) (last : Option Nat)
    (ends : List (Option Nat)) : tally count here resume last ends ≤ count + ends.length := by
  induction ends generalizing count here resume last with
  | nil => exact Nat.le_refl _
  | cons e rest ih =>
    have hskip := ih count (here - 1) resume last
    rw [List.length_cons]
    cases e with
    | none =>
      rw [tally]
      omega
    | some stop =>
      have htaken := ih (count + 1) (here - 1) stop (some stop)
      rw [tally]
      split
      · omega
      · split <;> omega

/-- **A text has no more matches than places.** There is one more place than there are
characters. -/
theorem count_le_length_add_one (m : Automaton) (text : List Char) :
    m.count text ≤ text.length + 1 := by
  have htally := tally_le_add_length 0 text.length text.length none (m.matchEnds text)
  rwa [length_matchEnds, Nat.zero_add] at htally

/-- **A text has no more matches than fit into it.** -/
theorem count_mul_minLength_le (r : Regex) (text : List Char) :
    (ofRegex r).count text * r.minLength ≤ text.length := by
  have htally := tally_mul_le (spans_matchEnds r text) 0 text.length none
  rwa [length_matchEnds, Nat.add_sub_cancel, Nat.zero_mul, Nat.zero_add, Nat.min_self] at htally

end Automaton

end Polyglot.Pattern
