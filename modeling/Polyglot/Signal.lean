import Polyglot.BuildError
import Polyglot.Language
import Polyglot.Pattern.Compile

/-!
# Signals

A signal is a pattern whose matches speak for a language, with a weight. Points do not pass the
largest 64-bit number, at which they stay.
-/

namespace Polyglot

/-- A signal as it is declared. -/
structure SignalSpec where
  pattern : String
  language : String
  weight : UInt32
  caseInsensitive : Bool := false
deriving DecidableEq, Inhabited

/-- A signal that is ready for use. -/
structure Signal where
  pattern : String
  language : String
  weight : UInt32
  automaton : Pattern.Automaton

/-- The most points there are. -/
def maxPoints : Nat := UInt64.size - 1

/-- A number of points, which stays at the largest one. -/
def capped (points : Nat) : Nat := min points maxPoints

/-- Readies a signal. The language is looked at first, then the weight, then the pattern. -/
def SignalSpec.compile (s : SignalSpec) : Except BuildError Signal :=
  if !isLanguageId s.language then .error (.invalidLanguageId s.language)
  else if s.weight = 0 then .error (.zeroWeight s.language)
  else match Pattern.compile s.pattern s.caseInsensitive with
    | .error fault => .error (.invalidPattern s.language fault)
    | .ok m => .ok ⟨s.pattern, s.language, s.weight, m⟩

/-- Readies several signals in order, up to the first that is refused. -/
def SignalSpec.compileAll : List SignalSpec → Except BuildError (List Signal)
  | [] => .ok []
  | s :: rest => do return (← s.compile) :: (← compileAll rest)

namespace Signal

/-- How often the signal fires, without overlap. -/
def count (s : Signal) (code : List Char) : Nat := s.automaton.count code

/-- The points that the signal gives to its language. -/
def score (s : Signal) (code : List Char) : Nat := capped (s.count code * s.weight.toNat)

end Signal

end Polyglot
