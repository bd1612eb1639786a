import Polyglot.Http.Message

/-!
# Media types

The kind of a body, such as `application/json` or `application/vnd.api+json; charset=utf-8`: a type
and a subtype, and then parameters. Letters are the same in either case. The part of a subtype after
its last plus sign names the format on which the subtype is built.
-/

namespace Polyglot.Http

/-- The characters of which names are made. -/
def isToken (c : Char) : Bool :=
  c.isAlphanum || "!#$%&'*+-.^_|~\x60".toList.contains c

/-- Where a list of parameters has been read to. -/
inductive ParameterPlace where
  /-- Before a name, or at the end of the list. -/
  | gap
  | name
  /-- After the equals sign. -/
  | equals
  | value
  /-- After the opening quote, where another quote is an ordinary character. -/
  | opened
  | quoted
  /-- After the closing quote. -/
  | closed
deriving DecidableEq, Inhabited

namespace ParameterPlace

/-- Reads one character of a list of parameters. -/
def step : ParameterPlace → Char → Option ParameterPlace
  | gap, c => if c = ' ' then some gap else if isToken c then some name else none
  | name, c => if c = '=' then some equals else if isToken c then some name else none
  | equals, c => if c = '"' then some opened else if isToken c then some value else none
  | value, c => if c = ';' then some gap else if isToken c then some value else none
  | opened, c => if isQuotable c then some quoted else none
  | quoted, c => if c = '"' then some closed else if isQuotable c then some quoted else none
  | closed, c => if c = ';' then some gap else if c = ' ' then some closed else none
where
  isQuotable (c : Char) : Bool := ' ' ≤ c && c != '\x7f'

/-- A list of parameters may end here. -/
def isEnd (p : ParameterPlace) : Bool := p = gap || p = equals || p = value || p = closed

end ParameterPlace

/-- The text is a list of parameters. -/
def isParameters (cs : List Char) : Bool :=
  (cs.foldlM ParameterPlace.step .gap).any ParameterPlace.isEnd

structure MediaType where
  type : List Char
  subtype : List Char
  /-- The format on which the subtype is built. -/
  format : Option (List Char) := none
deriving DecidableEq, Inhabited

namespace MediaType

/-- Takes the format off the end of a subtype. A plus sign at the beginning of the subtype belongs
to its name. -/
def splitFormat (subtype : List Char) : List Char × Option (List Char) :=
  let format := (subtype.reverse.takeWhile (· != '+')).reverse
  let before := subtype.take (subtype.length - format.length - 1)
  if before.isEmpty then (subtype, none) else (before, some format)

/-- The type and subtype of a text without parameters. -/
def ofNames? (cs : List Char) : Option MediaType := do
  let (type, subtype) := (cs.takeWhile (· != '/'), (cs.dropWhile (· != '/')).drop 1)
  if type.isEmpty || !type.all isToken || !subtype.all isToken || !cs.contains '/' then none
  else
    let (subtype, format) := splitFormat subtype
    some ⟨type, subtype, format⟩

/-- The media type of a text, in small letters. -/
def parse? (text : String) : Option MediaType :=
  let names := (text.toList.map Char.toLower).takeWhile (· != ';')
  match text.toList.dropWhile (· != ';') with
  | [] => ofNames? names
  | _ :: parameters =>
    if isParameters parameters then (ofNames? names).filter (!·.subtype.isEmpty) else none

/-- The media type is JSON, or a format that is built on it. -/
def isJson (m : MediaType) : Bool :=
  m.type = "application".toList &&
    (m.subtype = "json".toList || m.format = some "json".toList)

end MediaType

/-- The body of the request is declared to be JSON. -/
def Request.declaresJson (r : Request) : Bool :=
  ((r.visibleHeader? "content-type").bind MediaType.parse?).any MediaType.isJson

end Polyglot.Http
