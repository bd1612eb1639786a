import Polyglot.Pattern.Reader
import Polyglot.Pattern.Meaning
import Polyglot.Pattern.Search

/-!
# Compiled patterns

A pattern is read, its meaning is worked out, and if the automaton is not too large it is built. A
malformed pattern is reported as such, however large it would be.
-/

namespace Polyglot.Pattern

/-- The regular expression of a pattern. -/
def regexOf (text : String) (caseInsensitive : Bool) : Except Fault Regex :=
  match (Expr.read? text.toList).bind fun e =>
      e.meaning? { caseInsensitive := caseInsensitive } with
  | none => .error .malformed
  | some (x, _) => x.checked

/-- The automaton of a pattern. -/
def compile (text : String) (caseInsensitive : Bool) : Except Fault Automaton :=
  (regexOf text caseInsensitive).map .ofRegex

end Polyglot.Pattern
