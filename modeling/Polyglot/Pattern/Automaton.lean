import Polyglot.Pattern.Regex

/-!
# Automata

A regular expression as a list of numbered steps. The steps of an expression start at a given
number, its first step is the one to enter it by, and all its ways out lead to the step `next`.
The last step of the whole list accepts.

Between two characters a run passes through steps that accept nothing, and where such a step
forks, the first way is preferred. `Automaton.routes` lists, for a step and the two sides of a
place, the steps at which such a run can come to rest, in the order of preference.
-/

namespace Polyglot.Pattern

open Polyglot.Unicode

inductive Step where
  /-- Accepts one character of the set. -/
  | take (set : CharSet) (next : Nat)
  /-- Goes on in either of two ways, preferably the first. -/
  | fork (preferred other : Nat)
  /-- Goes on where the assertion holds. -/
  | test (a : Assertion) (next : Nat)
  | jump (next : Nat)
  | accept
deriving DecidableEq, Inhabited

namespace Regex

/-- The number of steps of an expression. -/
def stepCount : Regex → Nat
  | empty | one _ | assert _ => 1
  | cat a b => a.stepCount + b.stepCount
  | alt a b => 1 + a.stepCount + b.stepCount
  | opt _ a | star _ a | plus _ a => a.stepCount + 1

/-- A fork that prefers one more turn if it is greedy. -/
def loopFork (greedy : Bool) (again leave : Nat) : Step :=
  if greedy then .fork again leave else .fork leave again

/-- The steps of an expression, numbered from `here`, with `next` for what comes after it. -/
def steps : Regex → (here next : Nat) → List Step
  | empty, _, next => [.jump next]
  | one s, _, next => [.take s next]
  | assert a, _, next => [.test a next]
  | cat a b, here, next =>
    a.steps here (here + a.stepCount) ++ b.steps (here + a.stepCount) next
  | alt a b, here, next =>
    .fork (here + 1) (here + 1 + a.stepCount) ::
      (a.steps (here + 1) next ++ b.steps (here + 1 + a.stepCount) next)
  | opt greedy a, here, next => loopFork greedy (here + 1) next :: a.steps (here + 1) next
  | star greedy a, here, next => loopFork greedy (here + 1) next :: a.steps (here + 1) here
  | plus greedy a, here, next =>
    a.steps here (here + a.stepCount) ++ [loopFork greedy here next]

theorem length_steps (r : Regex) (here next : Nat) :
    (r.steps here next).length = r.stepCount := by
  induction r generalizing here next <;> simp_all [steps, stepCount]
  omega

/-- The steps of the whole expression, with the accepting step at the end. -/
def program (r : Regex) : Array Step := (r.steps 0 r.stepCount ++ [Step.accept]).toArray

end Regex

/-- Where a run comes to rest between two characters: at a step that takes the next one, or at the
end of the match. -/
inductive Rest where
  | take (step : Nat)
  | done
deriving DecidableEq, Inhabited

/-- The resting places of a run, preferred ones first. A step is visited once: a second visit could
only lead to places that the list has already. The first argument bounds the number of visits; a
run makes at most two for each step and one more. -/
def restsFrom (program : Array Step) (before after : Side) :
    Nat → List Nat → Array Bool → List Rest
  | 0, _, _ => []
  | _, [], _ => []
  | fuel + 1, q :: pending, seen =>
    if seen.getD q true then restsFrom program before after fuel pending seen
    else
      let seen := seen.set! q true
      match program[q]? with
      | some (.take _ _) => .take q :: restsFrom program before after fuel pending seen
      | some .accept => .done :: restsFrom program before after fuel pending seen
      | some (.jump next) => restsFrom program before after fuel (next :: pending) seen
      | some (.fork a b) => restsFrom program before after fuel (a :: b :: pending) seen
      | some (.test a next) =>
        if a.holds before after then restsFrom program before after fuel (next :: pending) seen
        else restsFrom program before after fuel pending seen
      | none => restsFrom program before after fuel pending seen

/-- The resting places of a run that starts at step `q` between the two sides. -/
def rests (program : Array Step) (before after : Side) (q : Nat) : List Rest :=
  restsFrom program before after (2 * program.size + 1) [q] (.replicate program.size false)

/-- The step asks what stands beside a place. -/
def Step.isTest : Step → Bool
  | test _ _ => true
  | _ => false

/-! ## Steps that take a character -/

/-- The step after the one that takes the character, if the step accepts it. -/
def Step.nextAfter? (c : Char) : Step → Option Nat
  | take set next => if set.contains c then some next else none
  | fork _ _ | test _ _ | jump _ | accept => none

/-- A step that takes a character: its number, the characters that it accepts, and the step after
it. -/
structure Taker where
  step : Nat
  set : CharSet
  next : Nat
deriving DecidableEq, Inhabited

/-- The steps that take a character in a list of steps that are numbered from `i`. -/
def takersFrom (i : Nat) : List Step → List Taker
  | [] => []
  | .take set next :: rest => ⟨i, set, next⟩ :: takersFrom (i + 1) rest
  | .fork _ _ :: rest | .test _ _ :: rest | .jump _ :: rest | .accept :: rest =>
    takersFrom (i + 1) rest

/-- The steps that accept a character. -/
def takersOf (c : Char) (takers : List Taker) : List Taker := takers.filter (·.set.contains c)

theorem step_of_mem_takersFrom {i : Nat} {steps : List Step} {t : Taker}
    (h : t ∈ takersFrom i steps) : i ≤ t.step := by
  induction steps generalizing i with
  | nil => cases h
  | cons s rest ih =>
    cases s <;> simp only [takersFrom, List.mem_cons] at h
    case take =>
      rcases h with rfl | h
      · exact Nat.le_refl _
      · have := ih h
        omega
    all_goals
      have := ih h
      omega

/-- What is known of every step that accepts a character, asked for by the number of the step. -/
theorem lookup_takersOf (c : Char) (known : Nat → Option Nat) (steps : List Step) (i q : Nat) :
    (((takersOf c (takersFrom i steps)).filterMap fun t => (known t.next).map (t.step, ·)).lookup
      (i + q)) = (steps[q]?.bind (·.nextAfter? c)).bind known := by
  induction steps generalizing i q with
  | nil => simp [takersFrom, takersOf]
  | cons s rest ih =>
    have later : ((takersOf c (takersFrom (i + 1) rest)).filterMap fun t =>
        (known t.next).map (t.step, ·)).lookup i = none := by
      rw [List.lookup_eq_none_iff]
      intro pair hpair
      simp only [takersOf, List.mem_filterMap, List.mem_filter, Option.map_eq_some_iff] at hpair
      obtain ⟨t, ⟨ht, -⟩, stop, -, rfl⟩ := hpair
      have := step_of_mem_takersFrom ht
      simp only [bne_iff_ne, ne_eq]
      omega
    cases q with
    | zero =>
      cases s <;> simp [takersFrom, Step.nextAfter?, later]
      case take set next =>
        by_cases hc : set.contains c
        · cases hk : known next
          · simpa [takersOf, hc, hk] using later
          · simp [takersOf, hc, hk]
        · simpa [takersOf, hc] using later
    | succ q =>
      have hne : (i + (q + 1) == i) = false := by simp
      have hadd : i + 1 + q = i + (q + 1) := by omega
      have ih := ih (i + 1) q
      rw [hadd] at ih
      cases s <;> simp only [takersFrom, List.getElem?_cons_succ, ih]
      case take set next =>
        rw [← ih]
        by_cases hc : set.contains c
        · cases hk : known next <;> simp [takersOf, hc, hk, List.lookup_cons, hne]
        · simp [takersOf, hc]

/-! ## Automata -/

/-- The number of ASCII characters. -/
def asciiCount : Nat := 128

/-- The steps of an expression, and two tables. One has the resting places for every pair of sides
and every step, the other has the steps that accept each of the ASCII characters. An entry of a
table is worked out when it is first asked for. -/
structure Automaton where
  program : Array Step
  /-- Some step is an assertion. Otherwise nobody has to find out what stands beside a place. -/
  looksAround : Bool
  table : Array (Thunk (List Rest))
  ascii : Array (Thunk (List Taker))
  /-- The steps that accept more than ASCII characters. -/
  wide : List Taker

namespace Automaton

def ofProgram (program : Array Step) : Automaton where
  program := program
  looksAround := program.any Step.isTest
  table := .ofFn fun i : Fin (36 * program.size) =>
    let sides := i.val / program.size
    Thunk.mk fun _ =>
      rests program (.ofIndex (sides / 6)) (.ofIndex (sides % 6)) (i.val % program.size)
  ascii := .ofFn fun i : Fin asciiCount =>
    Thunk.mk fun _ => takersOf (.ofNat i.val) (takersFrom 0 program.toList)
  wide := (takersFrom 0 program.toList).filter (! ·.set.isAscii)

def ofRegex (r : Regex) : Automaton := ofProgram r.program

/-- The steps that accept the character, from the table or from among those that are wide. -/
def accepting (m : Automaton) (c : Char) : List Taker :=
  match m.ascii[c.toNat]? with
  | some takers => takers.get
  | none => takersOf c m.wide

theorem accepting_ofProgram (program : Array Step) (c : Char) :
    (ofProgram program).accepting c = takersOf c (takersFrom 0 program.toList) := by
  by_cases h : c.toNat < asciiCount
  · simp [accepting, ofProgram, h, Thunk.get, Char.ofNat_toNat]
  · have hnone : (ofProgram program).ascii[c.toNat]? = none := by
      simp [ofProgram, Nat.le_of_not_lt h]
    rw [accepting, hnone]
    simp only [takersOf, ofProgram, List.filter_filter]
    refine List.filter_congr fun t _ => ?_
    by_cases hc : t.set.contains c
    · simp only [hc, Bool.true_and, Bool.not_eq_true']
      by_cases ha : t.set.isAscii
      · exact absurd (CharSet.lt_of_contains_isAscii ha hc) h
      · simpa using ha
    · simp [hc]

/-- The resting places from the step `q`, from the table. -/
def routes (m : Automaton) (before after : Side) (q : Nat) : List Rest :=
  match m.table[(before.index * 6 + after.index) * m.program.size + q]? with
  | some places => places.get
  | none => []

theorem routes_ofProgram (program : Array Step) (before after : Side) {q : Nat}
    (hq : q < program.size) :
    (ofProgram program).routes before after q = rests program before after q := by
  have hb := before.index_lt
  have ha := after.index_lt
  have hsides : before.index * 6 + after.index ≤ 35 := by omega
  have hlt : (before.index * 6 + after.index) * program.size + q < 36 * program.size := by
    have := Nat.mul_le_mul_right program.size hsides
    omega
  have hdiv : ((before.index * 6 + after.index) * program.size + q) / program.size =
      before.index * 6 + after.index := by
    rw [Nat.mul_comm, Nat.mul_add_div (by omega), Nat.div_eq_of_lt hq, Nat.add_zero]
  have hmod : ((before.index * 6 + after.index) * program.size + q) % program.size = q := by
    rw [Nat.mul_comm, Nat.mul_add_mod, Nat.mod_eq_of_lt hq]
  have h6 : (before.index * 6 + after.index) / 6 = before.index := by omega
  have h6' : (before.index * 6 + after.index) % 6 = after.index := by omega
  simp [routes, ofProgram, hlt, hdiv, hmod, h6, h6', Thunk.get]

end Automaton

end Polyglot.Pattern
