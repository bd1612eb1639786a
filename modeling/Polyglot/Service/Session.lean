import Polyglot.Service

/-!
# Sessions

Over a socket a client sends commands in frames, and each command is answered on its own. A frame
that is no command is passed over, whatever is wrong with it. A command may carry any value as an
identifier, which its reply carries too.

A session lasts until the socket has no more messages or fails to give or to take one.
-/

namespace Polyglot

open Json (Value)

/-- A message of a client. -/
inductive Frame where
  | text (content : String)
  | binary (content : ByteArray)
  | ping (content : ByteArray)
  | pong (content : ByteArray)
  /-- The client closes the socket, with a code and a reason if it gives them. -/
  | close (reason : Option (UInt16 × String))
deriving Inhabited

/-- What a client asks for. -/
structure Command where
  requestId : Value := .null
  snippet : Snippet
deriving Inhabited

/-- The command to detect the language of a text. A member that is not a string counts as not being
there, but a file name under the first of its keys hides one under the second all the same. -/
def Command.ofValue? (v : Value) : Option Command :=
  let string? (key : String) : Option String := (v.get? key).bind Value.string?
  if string? "type" = some "detect" then
    some {
      requestId := (v.get? "request_id").getD .null
      snippet := {
        code := (string? "code").getD ""
        fileName := ((v.get? "file_name").or (v.get? "fileName")).bind Value.string? } }
  else none

def Command.ofText? (text : String) : Option Command :=
  match Value.read (Text.glyphsOf text.toList) with
  | .ok v => ofValue? v
  | .error _ => none

/-- The answer to a command. -/
inductive Reply where
  | detection (requestId : Value) (found : Detection)
  | error (requestId : Value) (message : String)
deriving Inhabited

def Reply.toJson : Reply → Value
  | detection requestId found =>
    .object [
      ("type", .string "detection"),
      ("request_id", requestId),
      ("language", .string found.language),
      ("name", .string found.name)]
  | error requestId message =>
    .object [
      ("type", .string "error"),
      ("request_id", requestId),
      ("error", .string message)]

namespace Service

def answer (s : Service) (c : Command) : Reply :=
  match s.detect c.snippet with
  | .ok found => .detection c.requestId found
  | .error e => .error c.requestId e.description

/-- The reply to a text, if it is a command. -/
def reply? (s : Service) (text : String) : Option Reply := (Command.ofText? text).map s.answer

/-- The message that is sent for a frame, if any is. -/
def send? (s : Service) : Frame → Option String
  | .text content => (s.reply? content).map (·.toJson.text)
  | .binary _ | .ping _ | .pong _ | .close _ => none

/-- The messages that are sent in a session after the first `sent` ones. The socket gives messages,
or `none` where it fails to give one, and `takes` tells which of the messages it takes. -/
def serve (s : Service) (takes : Nat → Bool) : (sent : Nat) → List (Option Frame) → List String
  | _, [] => []
  | _, none :: _ => []
  | sent, some frame :: rest =>
    match s.send? frame with
    | none => s.serve takes sent rest
    | some text => if takes sent then text :: s.serve takes (sent + 1) rest else []

/-- The messages that are sent in a session in which the socket does not fail. -/
def converse (s : Service) (frames : List Frame) : List String :=
  s.serve (fun _ => true) 0 (frames.map some)

end Service

end Polyglot
