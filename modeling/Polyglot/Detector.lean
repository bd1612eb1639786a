import Polyglot.Catalog.Builtin
import Polyglot.Component
import Polyglot.Overlay
import Polyglot.Signal.Builtin
import Polyglot.Standings

/-!
# Detection

A text is classified by its content alone: every signal gives its points, component markup gives
some more, and the language with the most points is reported. A detector looks at the file name
first and classifies the text only if its extension belongs to no language.

An overlay adds languages and signals to a detector. Its signals come after those of the detector,
so they lose ties.
-/

namespace Polyglot

/-- A language and its name for display. -/
structure Detection where
  language : String
  name : String
deriving DecidableEq, Inhabited

/-- The name that is reported for a blank text. -/
def blankName : String := "Plain Text"

/-- The name that is reported when a text says nothing. -/
def unmatchedName : String := "Text"

/-- The text has no character but white space. -/
def isBlank (code : List Char) : Bool := code.all Unicode.isWhiteSpace

/-- Gives the points of one signal, if it has any. -/
def Standings.tally (code : List Char) (s : Standings) (signal : Signal) : Standings :=
  let points := signal.score code
  if 0 < points then s.add signal.language points else s

/-- The points of all languages for a text. -/
def standings (signals : List Signal) (code : List Char) : Standings :=
  let s := signals.foldl (Standings.tally code) []
  match Component.override? code with
  | some (language, points) => s.add language points
  | none => s

/-- The language of a text by its content. -/
def classify (catalog : Catalog) (signals : List Signal) (code : String) : Detection :=
  let cs := code.toList
  if isBlank cs then ⟨textId, blankName⟩
  else match (standings signals cs).leader with
    | some (language, _) => ⟨language, catalog.nameOrId language⟩
    | none => ⟨textId, unmatchedName⟩

structure Detector where
  catalog : Catalog := {}
  signals : List Signal := []
deriving Inhabited

namespace Detector

/-- The detector of the built-in languages and signals. -/
def standard? : Except BuildError Detector := do
  return ⟨.builtin, ← SignalSpec.compileAll builtinSpecs⟩

/-- The detector of the built-in languages and signals, whose patterns are all in order. -/
def standard : Detector := standard?.toOption.getD {}

/-- Adds an overlay: first its languages in order, then its signals. -/
def withOverlay (d : Detector) (o : Overlay) : Except BuildError Detector := do
  let catalog ← d.catalog.insertAll o.languages
  let extra ← SignalSpec.compileAll o.signals
  return ⟨catalog, d.signals ++ extra⟩

def resolve (d : Detector) (fileName : String) : Option String := d.catalog.resolve fileName

def classify (d : Detector) (code : String) : Detection :=
  Polyglot.classify d.catalog d.signals code

/-- The language of a text that may come with a file name. -/
def detect (d : Detector) (code : String) (fileName : Option String) : Detection :=
  match fileName.bind d.resolve with
  | some language => ⟨language, d.catalog.nameOrId language⟩
  | none => d.classify code

section

variable {d : Detector} {fileName language : String}

/-- A file name that resolves decides for every text. -/
theorem detect_of_resolve (h : d.resolve fileName = some language) (code : String) :
    d.detect code (some fileName) = ⟨language, d.catalog.nameOrId language⟩ := by
  rw [detect, Option.bind_some, h]

/-- A file name that does not resolve does not matter. -/
theorem detect_of_not_resolve (h : d.resolve fileName = none) (code : String) :
    d.detect code (some fileName) = d.classify code := by
  rw [detect, Option.bind_some, h]

theorem detect_none (d : Detector) (code : String) : d.detect code none = d.classify code := rfl

end

end Detector

end Polyglot
