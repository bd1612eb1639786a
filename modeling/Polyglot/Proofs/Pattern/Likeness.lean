import Mathlib.Data.List.Forall2
import Polyglot.Pattern.Search

/-!
# Texts that an expression cannot tell apart

An expression looks at a character in two ways: it asks whether the character is in one of its sets,
and its assertions ask for the kind of the character beside a place. If both answers are the same
for two characters, the expression confuses them (`Regex.Confuses`). Two texts that differ only in
characters that it confuses have its matches at the same places, and as many of them
(`count_eq_of_confused`).

The proof follows the sweep. What a front knows of the rest of the text is the same for both texts
except the kind of the first character, and that kind is only used by assertions that do not tell
the two apart (`Automaton.Agrees`).
-/

namespace Polyglot.Pattern

variable {r : Regex} {c d : Char} {x y x' y' : Side} {program : Array Step}

/-! ## Characters that are confused -/

/-- The assertion is the same with either kind of character, on either side of a place. -/
def Assertion.Confuses (a : Assertion) (x y : Side) : Prop :=
  ∀ s, a.holds x s = a.holds y s ∧ a.holds s x = a.holds s y

/-- No part of the expression tells the two characters apart. -/
def Regex.Confuses (c d : Char) : Regex → Prop
  | empty => True
  | one set => set.contains c = set.contains d
  | assert a => a.Confuses (.ofChar c) (.ofChar d)
  | cat a b | alt a b => a.Confuses c d ∧ b.Confuses c d
  | opt _ a | star _ a | plus _ a => a.Confuses c d

/-- The step does not tell the two characters apart. -/
def Step.Confuses (c d : Char) : Step → Prop
  | take set _ => set.contains c = set.contains d
  | test a _ => a.Confuses (.ofChar c) (.ofChar d)
  | fork _ _ | jump _ | accept => True

theorem Side.ofChar_ne_edge (c : Char) : Side.ofChar c ≠ .edge := by
  rw [ofChar]
  repeat' split
  all_goals decide

/-- Only an empty text shows an edge. -/
theorem Side.ofHead_eq_edge_iff {text : List Char} : Side.ofHead text = .edge ↔ text = [] := by
  cases text with
  | nil => exact iff_of_true rfl rfl
  | cons c rest => exact iff_of_false (ofChar_ne_edge c) (List.cons_ne_nil c rest)

theorem Assertion.confuses_refl (a : Assertion) (x : Side) : a.Confuses x x := fun _ => ⟨rfl, rfl⟩

theorem Assertion.Confuses.symm {a : Assertion} (h : a.Confuses x y) : a.Confuses y x :=
  fun s => ⟨(h s).1.symm, (h s).2.symm⟩

theorem Assertion.Confuses.trans {a : Assertion} {z : Side} (h : a.Confuses x y)
    (h' : a.Confuses y z) : a.Confuses x z :=
  fun s => ⟨(h s).1.trans (h' s).1, (h s).2.trans (h' s).2⟩

/-- There are only six kinds of sides. -/
instance (a : Assertion) (x y : Side) : Decidable (a.Confuses x y) :=
  decidable_of_iff (∀ i < 6, a.holds x (.ofIndex i) = a.holds y (.ofIndex i) ∧
      a.holds (.ofIndex i) x = a.holds (.ofIndex i) y)
    ⟨fun h s => s.ofIndex_index ▸ h s.index s.index_lt, fun h i _ => h (.ofIndex i)⟩

instance Regex.decidableConfuses (c d : Char) : (r : Regex) → Decidable (r.Confuses c d)
  | empty => inferInstanceAs (Decidable True)
  | one set => inferInstanceAs (Decidable (set.contains c = set.contains d))
  | assert a => inferInstanceAs (Decidable (a.Confuses (.ofChar c) (.ofChar d)))
  | cat a b | alt a b =>
    have := decidableConfuses c d a
    have := decidableConfuses c d b
    inferInstanceAs (Decidable (a.Confuses c d ∧ b.Confuses c d))
  | opt _ a | star _ a | plus _ a => decidableConfuses c d a

/-- No expression tells a character from itself. -/
theorem Regex.confuses_refl (r : Regex) (c : Char) : r.Confuses c c := by
  induction r with
  | empty => trivial
  | one set => rfl
  | assert a => exact a.confuses_refl _
  | cat a b iha ihb | alt a b iha ihb => exact ⟨iha, ihb⟩
  | opt greedy a ih | star greedy a ih | plus greedy a ih => exact ih

/-- The order of two characters that are not told apart does not matter. -/
theorem Regex.Confuses.symm (h : r.Confuses c d) : r.Confuses d c := by
  induction r with
  | empty => trivial
  | one set => exact Eq.symm h
  | assert a => exact Assertion.Confuses.symm h
  | cat a b iha ihb | alt a b iha ihb => exact ⟨iha h.1, ihb h.2⟩
  | opt greedy a ih | star greedy a ih | plus greedy a ih => exact ih h

/-- Characters that are not told from a third are not told apart. -/
theorem Regex.Confuses.trans {e : Char} (h : r.Confuses c d) (h' : r.Confuses d e) :
    r.Confuses c e := by
  induction r with
  | empty => trivial
  | one set => exact Eq.trans h h'
  | assert a => exact Assertion.Confuses.trans h h'
  | cat a b iha ihb | alt a b iha ihb => exact ⟨iha h.1 h'.1, ihb h.2 h'.2⟩
  | opt greedy a ih | star greedy a ih | plus greedy a ih => exact ih h h'

theorem Regex.confuses_loopFork (greedy : Bool) (again leave : Nat) :
    (loopFork greedy again leave).Confuses c d := by
  cases greedy <;> trivial

/-- Nor does any of the steps of an expression tell the characters apart. -/
theorem Regex.confuses_of_mem_steps {here next : Nat} {s : Step} (h : r.Confuses c d)
    (hs : s ∈ r.steps here next) : s.Confuses c d := by
  induction r generalizing here next with
  | empty =>
    obtain rfl := List.mem_singleton.mp hs
    trivial
  | one set =>
    obtain rfl := List.mem_singleton.mp hs
    exact h
  | assert a =>
    obtain rfl := List.mem_singleton.mp hs
    exact h
  | cat a b iha ihb =>
    rcases List.mem_append.mp hs with hs | hs
    · exact iha h.1 hs
    · exact ihb h.2 hs
  | alt a b iha ihb =>
    rcases List.mem_cons.mp hs with rfl | hs
    · trivial
    · rcases List.mem_append.mp hs with hs | hs
      · exact iha h.1 hs
      · exact ihb h.2 hs
  | opt greedy a ih | star greedy a ih =>
    rcases List.mem_cons.mp hs with rfl | hs
    · exact confuses_loopFork ..
    · exact ih h hs
  | plus greedy a ih =>
    rcases List.mem_append.mp hs with hs | hs
    · exact ih h hs
    · obtain rfl := List.mem_singleton.mp hs
      exact confuses_loopFork ..

theorem Regex.confuses_of_mem_program {s : Step} (h : r.Confuses c d) (hs : s ∈ r.program) :
    s.Confuses c d := by
  rw [program, List.mem_toArray] at hs
  rcases List.mem_append.mp hs with hs | hs
  · exact confuses_of_mem_steps h hs
  · obtain rfl := List.mem_singleton.mp hs
    trivial

/-! ## Steps lead to steps -/

namespace Regex

theorem stepCount_pos (r : Regex) : 0 < r.stepCount := by
  cases r <;> simp only [stepCount] <;> try omega
  case cat a b =>
    have := stepCount_pos a
    omega

/-- A step that takes a character leads to a step below any bound on the steps of its expression and
the one that comes after it. -/
theorem next_lt_of_take_mem {set : Unicode.CharSet} {n here next bound : Nat}
    (h : Step.take set n ∈ r.steps here next) (hsteps : here + r.stepCount ≤ bound)
    (hnext : next < bound) : n < bound := by
  induction r generalizing here next with
  | empty | assert a => cases List.mem_singleton.mp h
  | one s =>
    cases List.mem_singleton.mp h
    exact hnext
  | cat a b iha ihb =>
    simp only [stepCount] at hsteps
    have := b.stepCount_pos
    rcases List.mem_append.mp h with h | h
    · exact iha h (by omega) (by omega)
    · exact ihb h (by omega) hnext
  | alt a b iha ihb =>
    simp only [stepCount] at hsteps
    rcases List.mem_cons.mp h with h | h
    · cases h
    · rcases List.mem_append.mp h with h | h
      · exact iha h (by omega) hnext
      · exact ihb h (by omega) hnext
  | opt greedy a ih | star greedy a ih =>
    simp only [stepCount] at hsteps
    rcases List.mem_cons.mp h with h | h
    · cases greedy <;> cases h
    · exact ih h (by omega) (by omega)
  | plus greedy a ih =>
    simp only [stepCount] at hsteps
    rcases List.mem_append.mp h with h | h
    · exact ih h (by omega) (by omega)
    · cases greedy <;> cases List.mem_singleton.mp h

theorem size_program (r : Regex) : r.program.size = r.stepCount + 1 := by
  simp [program, length_steps]

theorem size_program_pos (r : Regex) : 0 < r.program.size := r.size_program ▸ Nat.succ_pos _

/-- What comes after a step that takes a character is a step of the program. -/
theorem next_lt_size {set : Unicode.CharSet} {n : Nat} (h : Step.take set n ∈ r.program) :
    n < r.program.size := by
  rw [size_program]
  rw [program, List.mem_toArray] at h
  rcases List.mem_append.mp h with h | h
  · exact next_lt_of_take_mem h (by omega) (by omega)
  · cases List.mem_singleton.mp h

end Regex

/-- The steps that take characters are listed with their own numbers. -/
theorem getElem?_of_mem_takersFrom {steps : List Step} {i : Nat} {t : Taker}
    (h : t ∈ takersFrom i steps) : steps[t.step - i]? = some (.take t.set t.next) := by
  induction steps generalizing i with
  | nil => cases h
  | cons s rest ih =>
    have hlater (h : t ∈ takersFrom (i + 1) rest) :
        (s :: rest)[t.step - i]? = some (.take t.set t.next) := by
      have hle := step_of_mem_takersFrom h
      have hstep : t.step - i = t.step - (i + 1) + 1 := by omega
      rw [hstep, List.getElem?_cons_succ]
      exact ih h
    cases s with
    | take set next =>
      rcases List.mem_cons.mp h with rfl | h
      · simp
      · exact hlater h
    | fork _ _ | test _ _ | jump _ | accept => exact hlater h

theorem take_mem_of_mem_takersFrom {i : Nat} {t : Taker} (h : t ∈ takersFrom i program.toList) :
    Step.take t.set t.next ∈ program :=
  Array.mem_toList_iff.mp (List.mem_of_getElem? (getElem?_of_mem_takersFrom h))

/-- A step that accepts a character is the step of the program with its number. -/
theorem Automaton.getElem?_of_mem_accepting {t : Taker}
    (h : t ∈ (ofProgram program).accepting c) : program[t.step]? = some (.take t.set t.next) := by
  rw [accepting_ofProgram] at h
  simpa using getElem?_of_mem_takersFrom (List.mem_of_mem_filter h)

/-- What comes after a step that accepts a character is a step of the automaton. -/
theorem Automaton.next_lt_of_mem_accepting {t : Taker} (h : t ∈ (ofRegex r).accepting c) :
    t.next < r.program.size :=
  Regex.next_lt_size (Array.mem_of_getElem? (getElem?_of_mem_accepting h))

/-! ## Sides that are confused -/

/-- The tests of a program do not tell the two sides apart. -/
def Blurs (program : Array Step) (x y : Side) : Prop :=
  ∀ a n, Step.test a n ∈ program → a.Confuses x y

theorem Blurs.refl (program : Array Step) (x : Side) : Blurs program x x :=
  fun a _ _ => a.confuses_refl x

/-- A test of the program has the same outcome between sides that are not told apart. -/
theorem Blurs.holds_eq (hx : Blurs program x x') (hy : Blurs program y y') {a : Assertion} {n : Nat}
    (h : Step.test a n ∈ program) : a.holds x y = a.holds x' y' :=
  ((hx a n h y).1).trans (hy a n h x').2

/-- Runs between sides that are not told apart come to rest at the same places. -/
theorem restsFrom_congr (hx : Blurs program x x') (hy : Blurs program y y') (fuel : Nat)
    (pending : List Nat) (seen : Array Bool) :
    restsFrom program x y fuel pending seen = restsFrom program x' y' fuel pending seen := by
  induction fuel generalizing pending seen with
  | zero => rfl
  | succ fuel ih =>
    cases pending with
    | nil => rfl
    | cons q pending =>
      simp only [restsFrom, ih]
      split
      · rfl
      · split
        case h_5 a n hstep =>
          rw [hx.holds_eq hy (Array.mem_of_getElem? hstep)]
        all_goals rfl

namespace Automaton

/-- The table has the same entries for sides that are not told apart. -/
theorem routes_congr (hx : Blurs program x x') (hy : Blurs program y y') {q : Nat}
    (hq : q < program.size) :
    (ofProgram program).routes x y q = (ofProgram program).routes x' y' q := by
  rw [routes_ofProgram _ _ _ hq, routes_ofProgram _ _ _ hq]
  exact restsFrom_congr hx hy ..

/-! ## Fronts that agree -/

/-- The fronts know the same, but for sides that the tests do not tell apart. -/
structure Agrees (program : Array Step) (f g : Front) : Prop where
  head : Blurs program f.head g.head
  left : f.left = g.left
  ends : f.ends = g.ends
  found : f.found = g.found

variable {f g : Front}

/-- Fronts that know the same find the same end, from every step and next to every side. -/
theorem resolve_congr (hx : Blurs program x x') (h : Agrees program f g) {q : Nat}
    (hq : q < program.size) :
    (ofProgram program).resolve x f q = (ofProgram program).resolve x' g q := by
  rw [resolve, resolve, routes_congr hx h.head hq, h.left, h.ends]

section Confused

variable (h : r.Confuses c d)
include h

/-- The sides that two confused characters show are not told apart. -/
theorem blurs_sideOf :
    Blurs r.program ((ofRegex r).sideOf c) ((ofRegex r).sideOf d) := by
  simp only [sideOf]
  split
  · exact fun a n ha => Regex.confuses_of_mem_program h ha
  · exact Blurs.refl _ _

/-- Two confused characters are accepted by the same steps. -/
theorem accepting_congr : (ofRegex r).accepting c = (ofRegex r).accepting d := by
  rw [ofRegex, accepting_ofProgram, accepting_ofProgram]
  refine List.filter_congr fun t ht => ?_
  exact Regex.confuses_of_mem_program h (take_mem_of_mem_takersFrom ht)

/-- Fronts that agree still agree when they have moved over characters that are confused. -/
theorem Agrees.advance (hfg : Agrees r.program f g) :
    Agrees r.program ((ofRegex r).advance c f) ((ofRegex r).advance d g) where
  head := blurs_sideOf h
  left := congrArg (· + 1) hfg.left
  ends := by
    simp only [Automaton.advance, accepting_congr h]
    refine List.filterMap_congr fun t ht => ?_
    have hend := resolve_congr (blurs_sideOf h) hfg (next_lt_of_mem_accepting ht)
    exact congrArg (·.map (t.step, ·)) hend
  found :=
    congrArg₂ (· :: ·) (resolve_congr (blurs_sideOf h) hfg r.size_program_pos) hfg.found

end Confused

/-! ## Texts -/

variable {text text' : List Char}

/-- Fronts that go over texts of confused characters know the same all the way. -/
theorem agrees_sweep (h : List.Forall₂ (fun c d => r.Confuses c d) text text') :
    Agrees r.program ((ofRegex r).sweep text) ((ofRegex r).sweep text') := by
  induction h with
  | nil => exact ⟨Blurs.refl _ _, rfl, rfl, rfl⟩
  | cons hcd _ ih => exact ih.advance hcd

/-- The matches of an expression are at the same places in texts that it cannot tell apart. -/
theorem matchEnds_eq_of_confused (h : List.Forall₂ (fun c d => r.Confuses c d) text text') :
    (ofRegex r).matchEnds text = (ofRegex r).matchEnds text' := by
  have hsweep := agrees_sweep h
  exact congrArg₂ (· :: ·) (resolve_congr (Blurs.refl _ _) hsweep r.size_program_pos) hsweep.found

/-- Texts whose characters are not told apart, one by one, have as many matches. -/
theorem count_eq_of_confused (h : List.Forall₂ (fun c d => r.Confuses c d) text text') :
    (ofRegex r).count text = (ofRegex r).count text' := by
  rw [count, count, matchEnds_eq_of_confused h, h.length_eq]

end Automaton

end Polyglot.Pattern
