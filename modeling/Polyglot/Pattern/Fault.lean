/-!
# Why patterns are refused
-/

namespace Polyglot.Pattern

/-- Why a pattern is not accepted. -/
inductive Fault where
  /-- The pattern breaks the grammar, or part of it has no meaning. -/
  | malformed
  /-- The automaton of the pattern would pass the size limit. -/
  | tooLarge
deriving DecidableEq, Inhabited

end Polyglot.Pattern
