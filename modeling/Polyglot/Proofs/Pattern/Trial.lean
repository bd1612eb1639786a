import Polyglot.Proofs.Pattern.Ways

/-!
# Matching by trial

The automaton of an expression finds what a search by trial finds, if each turn of a loop takes a
character: from every place of a text, the match ends where the first way of the expression ends
(`Automaton.matchEnds_eq`).

A front knows for each step where the first way from it ends that leads to the end of a match. That
is the value of the step in the sense of `IsValue`, and `stopFrom_eq` reads it off the expression,
one case for each way to build one.
-/

namespace Polyglot.Pattern

variable {r : Regex} {program : Array Step} {x y : Side} {p : Place} {here next : Nat}

/-! ## Steps in a program -/

/-- The steps are in the program, from the number `here` on. -/
def IsAt (program : Array Step) (steps : List Step) (here : Nat) : Prop :=
  steps <+: program.toList.drop here

namespace IsAt

variable {s : Step} {l l' : List Step}

theorem head (h : IsAt program (s :: l) here) : program[here]? = some s := by
  obtain ⟨rest, h⟩ := h
  rw [← Array.getElem?_toList, ← List.head?_drop, ← h]
  rfl

theorem left (h : IsAt program (l ++ l') here) : IsAt program l here :=
  (List.prefix_append ..).trans h

theorem right (h : IsAt program (l ++ l') here) : IsAt program l' (here + l.length) := by
  obtain ⟨rest, h⟩ := h
  refine ⟨rest, ?_⟩
  rw [← List.drop_drop, ← h, List.append_assoc, List.drop_left]

theorem tail (h : IsAt program (s :: l) here) : IsAt program l (here + 1) :=
  right (l := [s]) h

end IsAt

/-! ## No loop without a character -/

/-- A run that goes on from the step comes to an end between the two sides. -/
def Settles (program : Array Step) (x y : Side) (q : Nat) : Prop :=
  Acc (fun n q => Passes program x y q n) q

/-- A run settles at a step if it settles wherever the step leads. -/
theorem Settles.of_step {s : Step} (hs : program[here]? = some s)
    (h : ∀ n ∈ s.exits x y, Settles program x y n) : Settles program x y here := by
  refine .intro _ ?_
  rintro n ⟨s', hs', hn⟩
  obtain rfl := Option.some.inj (hs.symm.trans hs')
  exact h n hn

theorem Settles.of_loopFork {greedy : Bool} {again leave : Nat}
    (hs : program[here]? = some (Regex.loopFork greedy again leave))
    (hagain : Settles program x y again) (hleave : Settles program x y leave) :
    Settles program x y here := by
  refine .of_step hs fun n hn => ?_
  have hn : n = again ∨ n = leave := by
    cases greedy <;> simpa [Regex.loopFork, Step.exits, or_comm] using hn
  rcases hn with rfl | rfl
  · exact hagain
  · exact hleave

/-- Runs come to an end at each of `n` steps. -/
def AllSettle (program : Array Step) (x y : Side) (here n : Nat) : Prop :=
  ∀ q, here ≤ q → q < here + n → Settles program x y q

namespace AllSettle

variable {m n : Nat}

theorem one (h : Settles program x y here) : AllSettle program x y here 1 :=
  fun _ hle hlt => Nat.le_antisymm (Nat.le_of_lt_succ hlt) hle ▸ h

/-- Steps that settle and further steps that settle are steps that settle. -/
theorem append (h : AllSettle program x y here m) (h' : AllSettle program x y (here + m) n) :
    AllSettle program x y here (m + n) := by
  intro q hle hlt
  rcases Nat.lt_or_ge q (here + m) with hbelow | habove
  · exact h q hle hbelow
  · exact h' q habove (Nat.add_assoc .. ▸ hlt)

theorem first (h : AllSettle program x y here n) (hn : 0 < n) : Settles program x y here :=
  h here (Nat.le_refl _) (Nat.lt_add_of_pos_right hn)

end AllSettle

/-- Runs come to an end at the first step of an expression if its matches take a character, and at
all its steps if they do at the step behind it. -/
theorem settles_steps (hr : r.isSteady) (h : IsAt program (r.steps here next) here) :
    (0 < r.minLength → Settles program x y here) ∧
      (Settles program x y next → AllSettle program x y here r.stepCount) := by
  induction r generalizing here next with
  | empty =>
    refine ⟨fun hpos => absurd hpos (Nat.lt_irrefl _), fun hnext => .one ?_⟩
    exact .of_step h.head (by simpa [Step.exits] using hnext)
  | one set =>
    have hhere : Settles program x y here := .of_step h.head (by simp [Step.exits])
    exact ⟨fun _ => hhere, fun _ => .one hhere⟩
  | assert a =>
    refine ⟨fun hpos => absurd hpos (Nat.lt_irrefl _), fun hnext => .one ?_⟩
    refine .of_step h.head fun n hn => ?_
    rw [Step.exits] at hn
    split at hn
    · exact List.mem_singleton.mp hn ▸ hnext
    · cases hn
  | cat a b iha ihb =>
    rw [Regex.isSteady, Bool.and_eq_true] at hr
    have hright := h.right
    rw [Regex.length_steps] at hright
    obtain ⟨ha, ha'⟩ := iha hr.1 h.left
    obtain ⟨hb, hb'⟩ := ihb hr.2 hright
    refine ⟨fun hpos => ?_, fun hnext => ?_⟩
    · rcases Nat.eq_zero_or_pos a.minLength with hzero | hpos'
      · rw [Regex.minLength, hzero, Nat.zero_add] at hpos
        exact (ha' (hb hpos)).first a.stepCount_pos
      · exact ha hpos'
    · have hsecond := hb' hnext
      exact (ha' (hsecond.first b.stepCount_pos)).append hsecond
  | alt a b iha ihb =>
    rw [Regex.isSteady, Bool.and_eq_true] at hr
    have hfirst : program[here]? =
        some (Regex.loopFork true (here + 1) (here + 1 + a.stepCount)) := h.head
    have hright := h.tail.right
    rw [Regex.length_steps] at hright
    obtain ⟨ha, ha'⟩ := iha hr.1 h.tail.left
    obtain ⟨hb, hb'⟩ := ihb hr.2 hright
    refine ⟨fun hpos => ?_, fun hnext => ?_⟩
    · rw [Regex.minLength, Nat.lt_min] at hpos
      exact .of_loopFork hfirst (ha hpos.1) (hb hpos.2)
    · have hfork : Settles program x y here := .of_loopFork hfirst
        ((ha' hnext).first a.stepCount_pos) ((hb' hnext).first b.stepCount_pos)
      exact ((AllSettle.one hfork).append (ha' hnext)).append (Nat.add_assoc .. ▸ hb' hnext)
  | opt greedy a ih =>
    obtain ⟨ha, ha'⟩ := ih hr h.tail
    refine ⟨fun hpos => absurd hpos (Nat.lt_irrefl _), fun hnext => ?_⟩
    have hfork : Settles program x y here :=
      .of_loopFork h.head ((ha' hnext).first a.stepCount_pos) hnext
    rw [Regex.stepCount, Nat.add_comm]
    exact (AllSettle.one hfork).append (ha' hnext)
  | star greedy a ih =>
    rw [Regex.isSteady, Bool.and_eq_true, decide_eq_true_eq] at hr
    obtain ⟨ha, ha'⟩ := ih hr.1 h.tail
    refine ⟨fun hpos => absurd hpos (Nat.lt_irrefl _), fun hnext => ?_⟩
    -- the fork comes to an end before those steps of the body that lead back to it
    have hfork : Settles program x y here := .of_loopFork h.head (ha hr.2) hnext
    rw [Regex.stepCount, Nat.add_comm]
    exact (AllSettle.one hfork).append (ha' hfork)
  | plus greedy a ih =>
    rw [Regex.isSteady, Bool.and_eq_true, decide_eq_true_eq] at hr
    have hright := h.right
    rw [Regex.length_steps] at hright
    obtain ⟨ha, ha'⟩ := ih hr.1 h.left
    refine ⟨fun _ => ha hr.2, fun hnext => ?_⟩
    have hfork : Settles program x y (here + a.stepCount) :=
      .of_loopFork hright.head (ha hr.2) hnext
    exact (ha' hfork).append (.one hfork)

/-- The program has the steps of the expression, and then the accepting one. -/
theorem isAt_program (r : Regex) :
    IsAt r.program (r.steps 0 r.stepCount) 0 ∧ IsAt r.program [.accept] r.stepCount := by
  have hwhole : IsAt r.program (r.steps 0 r.stepCount ++ [.accept]) 0 := by
    rw [IsAt, Regex.program]
    exact List.prefix_rfl
  have hright := hwhole.right
  rw [Regex.length_steps, Nat.zero_add] at hright
  exact ⟨hwhole.left, hright⟩

/-- Between two characters no run goes round for ever, if each turn of a loop takes a character. -/
theorem wellFounded_passes (hr : r.isSteady) (x y : Side) :
    WellFounded fun n q => Passes r.program x y q n := by
  obtain ⟨hsteps, haccept⟩ := isAt_program r
  refine ⟨fun q => ?_⟩
  have haccepts : Settles r.program x y r.stepCount := .of_step haccept.head (by simp [Step.exits])
  rcases Nat.lt_trichotomy q r.stepCount with hlt | rfl | hgt
  · exact (settles_steps hr hsteps).2 haccepts q (Nat.zero_le _) (by omega)
  · exact haccepts
  · -- there is no such step
    refine .intro _ ?_
    rintro n ⟨s, hs, -⟩
    rw [Array.getElem?_eq_none (by rw [r.size_program]; omega)] at hs
    cases hs

/-! ## The values of the steps -/

namespace Automaton

/-- What a front knows of the end of a match from where a run comes to rest. -/
def stopAt? (f : Front) : Rest → Option Nat
  | .take i => f.ends.lookup i
  | .done => some f.left

/-- The end of the preferred match that goes on from a step at a place. -/
def stopFrom (r : Regex) (p : Place) (q : Nat) : Option Nat :=
  (rests r.program p.before (.ofHead p.rest) q).findSome? (stopAt? ((ofRegex r).sweep p.rest))

/-- The automaton tells characters apart for its tests only. -/
theorem blurs_sideOf_ofChar (r : Regex) (c : Char) :
    Blurs r.program ((ofRegex r).sideOf c) (.ofChar c) := by
  intro a n htest
  have hlooks : (ofRegex r).looksAround = true :=
    Array.any_eq_true'.mpr ⟨_, htest, rfl⟩
  rw [sideOf, if_pos hlooks]
  exact a.confuses_refl _

/-- The tests of a program do not see what else a front could know of the next character. -/
theorem blurs_head_sweep (r : Regex) (text : List Char) :
    Blurs r.program ((ofRegex r).sweep text).head (.ofHead text) := by
  cases text with
  | nil => exact .refl _ _
  | cons c rest => exact blurs_sideOf_ofChar r c

/-- The automaton finds the end of the preferred match that goes on from a step. -/
theorem resolve_eq_stopFrom (hx : Blurs r.program x p.before) {q : Nat} (hq : q < r.program.size) :
    (ofRegex r).resolve x ((ofRegex r).sweep p.rest) q = stopFrom r p q := by
  have hroutes : (ofRegex r).routes x ((ofRegex r).sweep p.rest).head q =
      rests r.program p.before (.ofHead p.rest) q := by
    rw [ofRegex, routes_ofProgram _ _ _ hq]
    exact restsFrom_congr hx (blurs_head_sweep r p.rest) ..
  rw [resolve, hroutes, stopFrom]
  congr 1
  funext place
  cases place <;> rfl

/-- The ends of the steps are as the resting places and the exits of each demand. -/
theorem isValue_stopFrom (hr : r.isSteady) (p : Place) : IsValue r.program p.before
    (.ofHead p.rest) (stopAt? ((ofRegex r).sweep p.rest)) (stopFrom r p) := by
  have hloops := wellFounded_passes hr p.before (.ofHead p.rest)
  obtain ⟨value, hvalue⟩ := exists_isValue hloops (stopAt? ((ofRegex r).sweep p.rest))
  have heq : stopFrom r p = value := funext (findSome?_rests hloops hvalue)
  exact heq ▸ hvalue

section

variable (hr : r.isSteady)
include hr

/-- A match that goes on from a step ends where it comes to rest, or else where its exits lead. -/
theorem stopFrom_of_step {q : Nat} {s : Step} (hs : r.program[q]? = some s) (p : Place) :
    stopFrom r p q = ((s.rest? q).bind (stopAt? ((ofRegex r).sweep p.rest))).or
      ((s.exits p.before (.ofHead p.rest)).findSome? (stopFrom r p)) := by
  rw [isValue_stopFrom hr p q, hs, Option.bind_some]

theorem stopFrom_accept {q : Nat} (hs : r.program[q]? = some .accept) (p : Place) :
    stopFrom r p q = some p.rest.length := by
  rw [stopFrom_of_step hr hs]
  exact congrArg some (left_sweep _ p.rest)

/-- From a step that takes a character, a match goes on behind the character. -/
theorem stopFrom_take {q n : Nat} {set : Unicode.CharSet}
    (hs : r.program[q]? = some (.take set n)) (p : Place) :
    stopFrom r p q = ((Regex.one set).ways p).findSome? (stopFrom r · n) := by
  have hn : n < r.program.size := Regex.next_lt_size (Array.mem_of_getElem? hs)
  rw [stopFrom_of_step hr hs, Step.exits, List.findSome?_nil, Option.or_none]
  obtain ⟨x, _ | ⟨c, rest⟩⟩ := p
  · rfl
  · have hlookup : stopAt? ((ofRegex r).sweep (c :: rest)) (.take q) =
        if set.contains c then stopFrom r ⟨.ofChar c, rest⟩ n else none := by
      rw [stopAt?, sweep_cons, ofRegex, lookup_ends_advance, hs, Option.bind_some, Step.nextAfter?]
      split
      · exact resolve_eq_stopFrom (p := ⟨.ofChar c, rest⟩) (blurs_sideOf_ofChar r c) hn
      · rfl
    rw [Step.rest?, Option.bind_some, hlookup, Regex.ways]
    split
    · rw [findSome?_cons_eq_or, List.findSome?_nil, Option.or_none]
    · rfl

/-- From the fork of a loop, one more turn is tried before leaving or after it. -/
theorem stopFrom_loopFork {q again leave : Nat} {greedy : Bool}
    (hs : r.program[q]? = some (Regex.loopFork greedy again leave)) (p : Place) :
    stopFrom r p q = if greedy then (stopFrom r p again).or (stopFrom r p leave)
      else (stopFrom r p leave).or (stopFrom r p again) := by
  rw [stopFrom_of_step hr hs]
  cases greedy <;>
    simp [Regex.loopFork, Step.rest?, Step.exits, findSome?_cons_eq_or]

/-- A loop over an expression whose matches take a character, once its body is known. -/
theorem stopFrom_turns {e : Regex} (hpos : 0 < e.minLength) {q again leave : Nat} {greedy : Bool}
    (hs : r.program[q]? = some (Regex.loopFork greedy again leave))
    (hbody : ∀ p, stopFrom r p again = (e.ways p).findSome? (stopFrom r · q)) (p : Place) :
    stopFrom r p q =
      (Regex.turns greedy e.ways p.rest.length p).findSome? (stopFrom r · leave) := by
  have hturn (p m : Place) (hm : m ∈ e.ways p) : m.rest.length < p.rest.length :=
    Regex.length_lt_of_mem_ways hpos hm
  have hloop (p : Place) : stopFrom r p q =
      if greedy then ((e.ways p).findSome? (stopFrom r · q)).or (stopFrom r p leave)
      else (stopFrom r p leave).or ((e.ways p).findSome? (stopFrom r · q)) := by
    rw [stopFrom_loopFork hr hs, hbody]
  exact (Regex.findSome?_turns hturn hloop (Nat.le_refl _)).symm

/-- **The end of the preferred match from a step of an expression is that from the first way of the
expression which has one.** -/
theorem stopFrom_eq {e : Regex} (he : e.isSteady) (h : IsAt r.program (e.steps here next) here)
    (p : Place) : stopFrom r p here = (e.ways p).findSome? (stopFrom r · next) := by
  induction e generalizing here next p with
  | empty =>
    rw [stopFrom_of_step hr h.head]
    rfl
  | one set => exact stopFrom_take hr h.head p
  | assert a =>
    rw [stopFrom_of_step hr h.head, Regex.ways, Step.exits]
    split <;> rfl
  | cat a b iha ihb =>
    rw [Regex.isSteady, Bool.and_eq_true] at he
    have hright := h.right
    rw [Regex.length_steps] at hright
    rw [iha he.1 h.left, Regex.ways, findSome?_flatMap]
    exact findSome?_congr fun q _ => ihb he.2 hright q
  | alt a b iha ihb =>
    rw [Regex.isSteady, Bool.and_eq_true] at he
    have hfirst : r.program[here]? =
        some (Regex.loopFork true (here + 1) (here + 1 + a.stepCount)) := h.head
    have hright := h.tail.right
    rw [Regex.length_steps] at hright
    rw [stopFrom_loopFork hr hfirst, if_pos rfl, iha he.1 h.tail.left, ihb he.2 hright, Regex.ways,
      List.findSome?_append]
  | opt greedy a ih =>
    rw [stopFrom_loopFork hr h.head, ih he h.tail, Regex.ways, Regex.findSome?_arrange]
  | star greedy a ih =>
    rw [Regex.isSteady, Bool.and_eq_true, decide_eq_true_eq] at he
    exact stopFrom_turns hr he.2 h.head (ih he.1 h.tail) p
  | plus greedy a ih =>
    rw [Regex.isSteady, Bool.and_eq_true, decide_eq_true_eq] at he
    have hright := h.right
    rw [Regex.length_steps] at hright
    have hbody := ih he.1 h.left
    rw [hbody, Regex.ways, findSome?_flatMap]
    exact findSome?_congr fun q _ => stopFrom_turns hr he.2 hright.head hbody q

/-- From the first step, a match ends where the expression says. -/
theorem stopFrom_zero (p : Place) : stopFrom r p 0 = r.stop? p := by
  obtain ⟨hsteps, haccept⟩ := isAt_program r
  rw [stopFrom_eq hr hr hsteps, Regex.stop?]
  -- every way leads to the accepting step
  cases r.ways p with
  | nil => rfl
  | cons q later =>
    rw [findSome?_cons_eq_or, stopFrom_accept hr haccept.head, Option.some_or]
    rfl

/-- The automaton finds the ends that the expression has, at every place. -/
theorem resolve_cons_found (hx : Blurs r.program x y) (text : List Char) :
    (ofRegex r).resolve x ((ofRegex r).sweep text) 0 :: ((ofRegex r).sweep text).found =
      (placesFrom y text).map r.stop? := by
  induction text generalizing x y with
  | nil =>
    have hstop := resolve_eq_stopFrom (p := ⟨y, []⟩) hx r.size_program_pos
    rw [hstop, stopFrom_zero hr]
    rfl
  | cons c rest ih =>
    have hstop := resolve_eq_stopFrom (p := ⟨y, c :: rest⟩) hx r.size_program_pos
    rw [hstop, stopFrom_zero hr, placesFrom, List.map_cons, ← ih (blurs_sideOf_ofChar r c)]
    rfl

/-- **The automaton finds what a search by trial finds**, from every place of the text. -/
theorem matchEnds_eq (text : List Char) :
    (ofRegex r).matchEnds text = (places text).map r.stop? :=
  resolve_cons_found hr (.refl _ _) text

end

end Automaton

end Polyglot.Pattern
