import Polyglot.Pattern.Automaton

/-!
# Searching

A text is swept from its end to its beginning. At each place the sweep knows, for every step of the
automaton that takes the next character, where the preferred match that goes on with this step
ends. This is all that the place before it needs: the preferred match from there goes through the
first resting place from which any match can be reached. The sweep so takes one pass, whatever the
pattern, and finds the preferred match from every place at once.

A place is named by the number of characters after it. The matches are then counted from the left:
each search starts where the last match ended, and a match of no characters does not count where
another match has just ended.
-/

namespace Polyglot.Pattern

/-- What a sweep knows when it has come to some place of the text. -/
structure Front where
  /-- What the rest of the text shows to the character before it. -/
  head : Side
  /-- The number of characters after the place. -/
  left : Nat
  /-- The steps that take the next character and can go on to a match, each with the place where the
  preferred such match ends. -/
  ends : List (Nat × Nat)
  /-- For every later place, the nearest first, the end of the preferred match that starts there. -/
  found : List (Option Nat)

/-- The front at the end of the text. -/
def Front.atEnd : Front := ⟨.edge, 0, [], []⟩

namespace Automaton

/-- The kind of a neighbouring character, as far as the automaton asks for it. -/
def sideOf (m : Automaton) (c : Char) : Side :=
  if m.looksAround then .ofChar c else .other

/-- The end of the preferred match that goes on from the step `q` at the place of the front. -/
def resolve (m : Automaton) (before : Side) (f : Front) (q : Nat) : Option Nat :=
  (m.routes before f.head q).findSome? fun
    | .done => some f.left
    | .take i => f.ends.lookup i

/-- Moves the front to the place before the character `c`. -/
def advance (m : Automaton) (c : Char) (f : Front) : Front :=
  let side := m.sideOf c
  { head := side
    left := f.left + 1
    ends := (m.accepting c).filterMap fun t => (m.resolve side f t.next).map (t.step, ·)
    found := m.resolve side f 0 :: f.found }

/-- The front at the beginning of the text. -/
def sweep (m : Automaton) (text : List Char) : Front := text.foldr m.advance .atEnd

/-- For every place of the text, from the first to the last, the end of the preferred match that
starts there. -/
def matchEnds (m : Automaton) (text : List Char) : List (Option Nat) :=
  let f := m.sweep text
  m.resolve .edge f 0 :: f.found

@[simp] theorem sweep_nil (m : Automaton) : m.sweep [] = .atEnd := rfl

@[simp] theorem sweep_cons (m : Automaton) (c : Char) (text : List Char) :
    m.sweep (c :: text) = m.advance c (m.sweep text) := rfl

@[simp] theorem left_sweep (m : Automaton) (text : List Char) :
    (m.sweep text).left = text.length := by
  induction text with
  | nil => rfl
  | cons c rest ih => exact congrArg (· + 1) ih

@[simp] theorem length_found_sweep (m : Automaton) (text : List Char) :
    (m.sweep text).found.length = text.length := by
  induction text with
  | nil => rfl
  | cons c rest ih => exact congrArg (· + 1) ih

@[simp] theorem length_matchEnds (m : Automaton) (text : List Char) :
    (m.matchEnds text).length = text.length + 1 := congrArg (· + 1) (length_found_sweep m text)

/-- What the front knows of a step once it has moved to the place before a character. -/
theorem lookup_ends_advance (program : Array Step) (c : Char) (f : Front) (q : Nat) :
    ((ofProgram program).advance c f).ends.lookup q =
      (program[q]?.bind (·.nextAfter? c)).bind
        ((ofProgram program).resolve ((ofProgram program).sideOf c) f) := by
  have h := lookup_takersOf c
    ((ofProgram program).resolve ((ofProgram program).sideOf c) f) program.toList 0 q
  simpa only [advance, accepting_ofProgram, Nat.zero_add, Array.getElem?_toList] using h

end Automaton

/-- Counts matches from the left, on top of `count`. The list tells for each place from `here` on
where the preferred match from it ends; the search is on again from the place `resume`, and the
last match ended at `last`. -/
def tally (count here resume : Nat) (last : Option Nat) : List (Option Nat) → Nat
  | [] => count
  | none :: rest => tally count (here - 1) resume last rest
  | some stop :: rest =>
    if resume < here then tally count (here - 1) resume last rest
    else if stop = here ∧ last = some here then tally count (here - 1) resume last rest
    else tally (count + 1) (here - 1) stop (some stop) rest

/-- The number of matches in the text, none overlapping another. -/
def Automaton.count (m : Automaton) (text : List Char) : Nat :=
  let n := text.length
  tally 0 n n none (m.matchEnds text)

theorem tally_add (k count here resume : Nat) (last : Option Nat) (ends : List (Option Nat)) :
    tally (count + k) here resume last ends = tally count here resume last ends + k := by
  induction ends generalizing count here resume last with
  | nil => rfl
  | cons e rest ih =>
    cases e with
    | none => exact ih ..
    | some stop =>
      simp only [tally]
      split
      · exact ih ..
      · split
        · exact ih ..
        · rw [Nat.add_right_comm]; exact ih ..

end Polyglot.Pattern
