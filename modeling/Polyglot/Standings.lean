import Polyglot.Signal

/-!
# Standings

The points of the languages, in the order in which the languages came in. The leader has the most
points, and of several that have as many, the one that came in first.
-/

namespace Polyglot

/-- Each language that has points, once. -/
abbrev Standings := List (String × Nat)

namespace Standings

/-- Adds points to a language; a new language comes in last. -/
def add (language : String) (points : Nat) : Standings → Standings
  | [] => [(language, points)]
  | (id, score) :: rest =>
    if id = language then (id, capped (score + points)) :: rest
    else (id, score) :: add language points rest

/-- The better of a leader and a language that comes in after it. -/
def lead (best : Option (String × Nat)) (entry : String × Nat) : Option (String × Nat) :=
  match best with
  | some top => if entry.2 ≤ top.2 then some top else some entry
  | none => some entry

def leader (s : Standings) : Option (String × Nat) := s.foldl lead none

end Standings

end Polyglot
