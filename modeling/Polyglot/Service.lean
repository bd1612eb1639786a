import Polyglot.Document
import Polyglot.Service.Error
import Polyglot.Settings

/-!
# The service

A detector that is asked for the languages of texts, one at a time or several at once. A text may
not have more bytes than the settings allow, and a request may not hold more texts.

Time passes while the service runs. It is told for how long by those who look at the clock, and
nothing but its account of its own state makes use of it.
-/

namespace Polyglot

structure Service where
  settings : Settings := {}
  detector : Detector := .standard
  /-- The seconds for which the service has been running, if anybody has looked at the clock. -/
  uptime : Option Nat := none

/-- A text whose language is asked for. -/
structure Snippet where
  code : String
  fileName : Option String := none
deriving DecidableEq, Inhabited

namespace Service

/-- The service with the standard detector and the overlay that the settings name, if they name one.
The files are given by what reading them gives. -/
def start (settings : Settings) (files : String → Except ReadFault ByteArray) :
    Except BuildError Service :=
  match settings.overlayPath with
  | none => .ok { settings := settings }
  | some path => do
    let overlay ← Overlay.ofFile path (files path)
    return { settings := settings, detector := ← Detector.standard.withOverlay overlay }

/-- The service when it has been running for so many seconds. -/
def after (s : Service) (seconds : Nat) : Service := { s with uptime := some seconds }

/-- Refuses a text that is too long. -/
def checkSize (s : Service) (code : String) : Except ServiceError Unit :=
  if s.settings.maxInputBytes < code.utf8ByteSize then
    .error (.oversized code.utf8ByteSize s.settings.maxInputBytes)
  else .ok ()

/-- The language of a text. -/
def detect (s : Service) (x : Snippet) : Except ServiceError Detection := do
  s.checkSize x.code
  return s.detector.detect x.code x.fileName

/-- The languages of several texts. Nothing is detected unless all of them are accepted. -/
def detectAll (s : Service) (xs : List Snippet) : Except ServiceError (List Detection) := do
  if s.settings.maxBatchItems < xs.length then
    throw (.tooManyItems xs.length s.settings.maxBatchItems)
  xs.forM fun x => s.checkSize x.code
  return xs.map fun x => s.detector.detect x.code x.fileName

end Service

end Polyglot
