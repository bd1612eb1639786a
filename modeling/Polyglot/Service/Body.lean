import Polyglot.Http.MediaType
import Polyglot.Http.Target
import Polyglot.Service

/-!
# What requests ask for

The bodies and queries that the service understands. The name of a file goes by two keys, which
count as one.
-/

namespace Polyglot

open Json (RecordField Reader)

def fileNameKeys : List String := ["file_name", "fileName"]

/-! ## Bodies -/

namespace Snippet

/-- What has been read of a text. -/
structure Draft where
  code : Option String := none
  fileName : Option (Option String) := none

def fields : List (RecordField Draft) := [
  .of ["code"] (·.code) (fun d x => { d with code := some x }) Json.string,
  .of fileNameKeys (·.fileName) (fun d x => { d with fileName := some x })
    (Json.optional Json.string)]

def Draft.complete? (d : Draft) : Option Snippet := do
  return { code := ← d.code, fileName := d.fileName.getD none }

def read : Reader Snippet := Json.record fields {} Draft.complete?

/-- Reads several texts. -/
def readAll : Reader (List Snippet) :=
  Json.record [.of ["items"] id (fun _ xs => some xs) (Json.list read)] none id

end Snippet

/-- Why a body is not accepted. -/
inductive BodyFault where
  | notJson
  | tooLarge
  | unreadable (fault : Json.Fault)
deriving DecidableEq, Inhabited

namespace BodyFault

def status : BodyFault → Nat
  | notJson => 415
  | tooLarge => 413
  | unreadable .mismatch => 422
  | unreadable _ => 400

def message : BodyFault → String
  | notJson => "Expected request with \x60Content-Type: application/json\x60"
  | tooLarge => "Failed to buffer the request body"
  | unreadable .mismatch => "Failed to deserialize the JSON body into the target type"
  | unreadable _ => "Failed to parse the request body as JSON"

def response (f : BodyFault) : Http.Response := .plain f.status f.message

end BodyFault

/-- Reads the body of a request. Its kind is looked at first, then its size, then what it says. -/
def Http.Request.decode {α : Type} (r : Http.Request) (limit : Nat) (read : Reader α) :
    Except BodyFault α :=
  if !r.declaresJson then .error .notJson
  else if limit < r.body.size then .error .tooLarge
  else match Json.document read (Text.glyphs r.body) with
    | .ok x => .ok x
    | .error fault => .error (.unreadable fault)

/-! ## Queries -/

/-- The name of a file in a query, which has to be there once. -/
def queryFileName? (query : String) : Option String :=
  match (Http.queryPairs query).filter fun pair => fileNameKeys.contains pair.1 with
  | [(_, name)] => some name
  | _ => none

end Polyglot
