import Polyglot.Json.Printer

/-!
# Requests and responses

The messages of the service, as far as they bear on its answers. Names of header fields are the same
in capital and small letters; the names of methods are not. Of several fields with one name the
first one counts.

The value of a field is a string of bytes, in which any byte from 128 on may stand. It is given as
the text that its bytes encode. Bytes that encode no text are read as nothing by the service, which
only takes note that the field is there: such a value is given as the replacement character alone,
which is no more visible and no more part of any word.
-/

namespace Polyglot.Http

inductive Method where
  | get
  | head
  | post
  | options
  /-- A method that nothing answers to. -/
  | other (name : String)
deriving DecidableEq, Inhabited

def Method.ofName (name : String) : Method :=
  if name = "GET" then get
  else if name = "HEAD" then head
  else if name = "POST" then post
  else if name = "OPTIONS" then options
  else other name

structure Request where
  method : Method := .get
  /-- What the request is about: a path with a query, or a whole address. -/
  target : String
  headers : List (String × String) := []
  body : ByteArray := .empty
  /-- The connection can be given over to another protocol. -/
  upgradable : Bool := false
deriving Inhabited

/-- The texts are the same up to the case of ASCII letters. -/
def sameLetters (s t : String) : Bool := s.toLower == t.toLower

/-- The value of a header field. -/
def Request.header? (r : Request) (name : String) : Option String :=
  (r.headers.find? fun field => sameLetters field.1 name).map (·.2)

/-- The value of a field as it is received. Blanks around a value are not part of it. -/
def receivedValue (value : String) : String :=
  let isBlank (c : Char) : Bool := c == ' ' || c == '\t'
  .ofList ((value.toList.dropWhile isBlank).reverse.dropWhile isBlank).reverse

/-- The character may stand in a field that is read as text. -/
def isVisible (c : Char) : Bool := c == '\t' || (' ' ≤ c && c ≤ '~')

/-- The value of a header field that is read as text. -/
def Request.visibleHeader? (r : Request) (name : String) : Option String :=
  (r.header? name).filter (·.toList.all isVisible)

structure Response where
  status : Nat
  headers : List (String × String) := []
  body : String := ""
deriving DecidableEq, Inhabited

namespace Response

/-- A response with a value as its body. -/
def json (status : Nat) (v : Json.Value) : Response :=
  ⟨status, [("content-type", "application/json")], v.text⟩

/-- A response with a message as its body. -/
def plain (status : Nat) (message : String) : Response :=
  ⟨status, [("content-type", "text/plain; charset=utf-8")], message⟩

/-- Adds a header field. -/
def withHeader (r : Response) (name value : String) : Response :=
  { r with headers := r.headers ++ [(name, value)] }

def withoutBody (r : Response) : Response := { r with body := "" }

end Response

end Polyglot.Http
