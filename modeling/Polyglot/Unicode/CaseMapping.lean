/-!
# Case mappings

A case mapping sends a character to one other character. The letters of an alphabet mostly stand in
runs, either one after the other (`A` to `Z`) or with upper and lower case taking turns, so a
mapping is written as runs with a stride.
-/

namespace Polyglot.Unicode

/-- The code points `first`, `first + stride`, … up to `last` go to `target`, `target + stride`,
… -/
structure CaseRun where
  first : Nat
  last : Nat
  stride : Nat
  target : Nat
deriving DecidableEq, Inhabited

namespace CaseRun

/-- What the run sends the code point to, if the run has it. -/
def image? (r : CaseRun) (n : Nat) : Option Nat :=
  if r.first ≤ n && n ≤ r.last && (n - r.first) % r.stride == 0 then
    some (r.target + (n - r.first))
  else none

/-- The pairs of a code point and its image. -/
def pairs (r : CaseRun) : List (Nat × Nat) :=
  (List.range ((r.last - r.first) / r.stride + 1)).map fun i =>
    (r.first + i * r.stride, r.target + i * r.stride)

/-- The run that leads back from the images. -/
def reversed (r : CaseRun) : CaseRun :=
  ⟨r.target, r.target + (r.last - r.first), r.stride, r.first⟩

/-- What the runs, in rising order, send the code point to, if one of them has it. -/
def lookup (n : Nat) : List CaseRun → Option Nat
  | [] => none
  | r :: rest => if n < r.first then none else if n ≤ r.last then r.image? n else lookup n rest

end CaseRun

end Polyglot.Unicode
