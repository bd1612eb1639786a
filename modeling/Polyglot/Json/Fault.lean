/-!
# Why documents are refused
-/

namespace Polyglot.Json

/-- Why a document cannot be read, as it shows first from left to right. -/
inductive Fault where
  /-- The text breaks the grammar. -/
  | malformed
  /-- The text is well formed so far, but not what the reader asks for. -/
  | mismatch
  /-- The text ends too early. -/
  | truncated
deriving DecidableEq, Inhabited

end Polyglot.Json
