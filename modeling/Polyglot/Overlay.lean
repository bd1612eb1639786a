import Polyglot.Signal

/-!
# Overlays

Languages and signals to be added to a detector. Nothing in an overlay has been checked yet.
-/

namespace Polyglot

structure Overlay where
  languages : List Language := []
  signals : List SignalSpec := []
deriving DecidableEq, Inhabited

end Polyglot
