import Polyglot.Pattern.Fault
import Polyglot.Pattern.Shape

/-!
# Regular expressions

The core of a pattern, in which flags, classes and counts have been worked out. Every choice has an
order: the left branch of an alternation comes before the right one, and a greedy repetition
prefers one more turn to leaving, a lazy one the reverse. A search returns the match that comes
first in this order.

Counts are written out as copies, so a short pattern can stand for a very long expression.
`Fragment` therefore keeps the shape of the pattern beside the expression, in which counts are not
written out, and drops the expression once the shape is too large.
-/

namespace Polyglot.Pattern

open Polyglot.Unicode

inductive Regex where
  | empty
  | one (set : CharSet)
  | assert (a : Assertion)
  | cat (first second : Regex)
  | alt (preferred other : Regex)
  /-- The expression once or not at all. -/
  | opt (greedy : Bool) (body : Regex)
  /-- Any number of turns of an expression that accepts at least one character. -/
  | star (greedy : Bool) (body : Regex)
  /-- One turn or more. -/
  | plus (greedy : Bool) (body : Regex)
deriving DecidableEq, Inhabited

namespace Regex

/-- `n` copies of `x`, then `tail`. -/
def copies : Nat → Regex → Regex → Regex
  | 0, _, tail => tail
  | n + 1, x, tail => .cat x (copies n x tail)

/-- Up to `n` copies of `x`, each of which may be the last. -/
def atMost (greedy : Bool) : Nat → Regex → Regex
  | 0, _ => .empty
  | 1, x => .opt greedy x
  | n + 2, x => .opt greedy (.cat x (atMost greedy (n + 1) x))

end Regex

/-! ## Fragments -/

/-- A regular expression and the shape that the builder is given for it. -/
structure Fragment where
  regex : Regex
  shape : Shape
deriving Inhabited

namespace Fragment

def empty : Fragment := ⟨.empty, .empty⟩

def assert (a : Assertion) : Fragment := ⟨.assert a, .assert a⟩

def one (s : CharSet) : Fragment := ⟨.one s, .one s⟩

def cat (x y : Fragment) : Fragment := ⟨.cat x.regex y.regex, x.shape.append y.shape⟩

def alt (x y : Fragment) : Fragment := ⟨.alt x.regex y.regex, .alt x.shape y.shape⟩

/-- The fragment between the parentheses of a group. -/
def grouped (x : Fragment) (captures : Bool) : Fragment :=
  { x with shape := if captures then .capture x.shape.settled else x.shape.settled }

/-- The expression for `lo` to `hi` turns, without an upper end if there is no `hi`. If a turn may
accept nothing, then any number of turns is an optional series of one or more: the two differ in
the order of their matches once an empty turn has been taken. -/
def turns (x : Fragment) (lo : Nat) (hi : Option Nat) (greedy : Bool) : Regex :=
  match hi with
  | some hi =>
    if hi ≤ lo then .copies (lo - 1) x.regex x.regex
    else if lo = 0 then .atMost greedy hi x.regex
    else .copies lo x.regex (.atMost greedy (hi - lo) x.regex)
  | none =>
    if lo = 0 then
      if x.shape.consumes then .star greedy x.regex else .opt greedy (.plus greedy x.regex)
    else .copies (lo - 1) x.regex (.plus greedy x.regex)

/-- `lo` to `hi` turns of a fragment. Turns that accept nothing are worth no more than one, no turn
at all is the empty expression, and exactly one is the fragment itself. -/
def repeated (x : Fragment) (lo : Nat) (hi : Option Nat) (greedy : Bool) : Fragment :=
  let lo := if x.shape.isVacuous then min lo 1 else lo
  let hi := if x.shape.isVacuous then some (min (hi.getD 1) 1) else hi
  if lo = 0 ∧ hi = some 0 then empty
  else if lo = 1 ∧ hi = some 1 then x
  else
    let shape := Shape.turns lo hi greedy x.shape
    { regex := if shape.leavesRoom then x.turns lo hi greedy else .empty
      shape := shape }

/-- The expression, unless it is too large. -/
def checked (x : Fragment) : Except Fault Regex :=
  if x.shape.settled.fits then .ok x.regex else .error .tooLarge

theorem checked_eq_ok_iff {x : Fragment} {r : Regex} :
    x.checked = .ok r ↔ x.shape.settled.fits ∧ x.regex = r := by
  rw [checked]
  split <;> simp_all

end Fragment

end Polyglot.Pattern
