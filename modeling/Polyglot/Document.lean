import Polyglot.Detector
import Polyglot.Json.Printer

/-!
# Documents

The written forms of languages, signals, overlays and detections. Each is an object with a key for
every field, and is written with its fields in order. When it is read, fields with a default may be
left out, and nothing is checked beyond the kinds of the values.
-/

namespace Polyglot

open Json (RecordField Reader Value)

/-! ## Languages -/

namespace Language

def toJson (l : Language) : Value :=
  .object [
    ("id", .string l.id),
    ("name", .string l.name),
    ("extensions", .array (l.extensions.map .string))]

/-- What has been read of a language. -/
structure Draft where
  id : Option String := none
  name : Option String := none
  extensions : Option (List String) := none

def fields : List (RecordField Draft) := [
  .of ["id"] (·.id) (fun d x => { d with id := some x }) Json.string,
  .of ["name"] (·.name) (fun d x => { d with name := some x }) Json.string,
  .of ["extensions"] (·.extensions) (fun d x => { d with extensions := some x })
    (Json.list Json.string)]

def Draft.complete? (d : Draft) : Option Language := do
  return { id := ← d.id, name := ← d.name, extensions := d.extensions.getD [] }

def read : Reader Language := Json.record fields {} Draft.complete?

end Language

/-! ## Signals -/

namespace SignalSpec

def toJson (s : SignalSpec) : Value :=
  .object [
    ("pattern", .string s.pattern),
    ("language", .string s.language),
    ("weight", .ofNat s.weight.toNat),
    ("case_insensitive", .bool s.caseInsensitive)]

/-- What has been read of a signal. -/
structure Draft where
  pattern : Option String := none
  language : Option String := none
  weight : Option UInt32 := none
  caseInsensitive : Option Bool := none

def fields : List (RecordField Draft) := [
  .of ["pattern"] (·.pattern) (fun d x => { d with pattern := some x }) Json.string,
  .of ["language"] (·.language) (fun d x => { d with language := some x }) Json.string,
  .of ["weight"] (·.weight) (fun d x => { d with weight := some x }) Json.uint32,
  .of ["case_insensitive"] (·.caseInsensitive) (fun d x => { d with caseInsensitive := some x })
    Json.bool]

def Draft.complete? (d : Draft) : Option SignalSpec := do
  return {
    pattern := ← d.pattern
    language := ← d.language
    weight := ← d.weight
    caseInsensitive := d.caseInsensitive.getD false }

def read : Reader SignalSpec := Json.record fields {} Draft.complete?

end SignalSpec

/-! ## Overlays -/

namespace Overlay

def toJson (o : Overlay) : Value :=
  .object [
    ("languages", .array (o.languages.map Language.toJson)),
    ("signals", .array (o.signals.map SignalSpec.toJson))]

/-- What has been read of an overlay. -/
structure Draft where
  languages : Option (List Language) := none
  signals : Option (List SignalSpec) := none

def fields : List (RecordField Draft) := [
  .of ["languages"] (·.languages) (fun d x => { d with languages := some x })
    (Json.list Language.read),
  .of ["signals"] (·.signals) (fun d x => { d with signals := some x })
    (Json.list SignalSpec.read)]

def Draft.complete? (d : Draft) : Option Overlay :=
  some { languages := d.languages.getD [], signals := d.signals.getD [] }

def read : Reader Overlay := Json.record fields {} Draft.complete?

end Overlay

/-! ## Detections -/

namespace Detection

def toJson (d : Detection) : Value :=
  .object [("language", .string d.language), ("name", .string d.name)]

/-- What has been read of a detection. -/
structure Draft where
  language : Option String := none
  name : Option String := none

def fields : List (RecordField Draft) := [
  .of ["language"] (·.language) (fun d x => { d with language := some x }) Json.string,
  .of ["name"] (·.name) (fun d x => { d with name := some x }) Json.string]

def Draft.complete? (d : Draft) : Option Detection := do
  return { language := ← d.language, name := ← d.name }

def read : Reader Detection := Json.record fields {} Draft.complete?

end Detection

/-! ## Whole documents -/

/-- Reads a text that holds one written form and nothing else. -/
def parse {α : Type} (read : Reader α) (text : String) : Except Json.Fault α :=
  Json.document read (Text.glyphsOf text.toList)

/-- The overlay in a file, of which either the bytes are known or why it cannot be read. -/
def Overlay.ofFile (path : String) (found : Except ReadFault ByteArray) :
    Except BuildError Overlay :=
  match found with
  | .error fault => .error (.unreadableOverlay path fault)
  | .ok bytes =>
    match Text.characters? (Text.glyphs bytes) with
    | none => .error (.unreadableOverlay path .notUtf8)
    | some cs =>
      match Json.document Overlay.read (Text.glyphsOf cs) with
      | .error fault => .error (.malformedOverlay path fault)
      | .ok o => .ok o

end Polyglot
