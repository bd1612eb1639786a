import Polyglot.Service.Body
import Polyglot.Service.Guard

/-!
# The router

Which requests are answered, and how. A route answers to one method, and routes that answer to `GET`
answer to `HEAD` too, without a body. All routes but the one for the state of health are guarded,
and so is everything that is no route. Pages of any origin may ask.

Answers are given as they are before compression. A body that goes to a client that accepts `gzip`
is sent in this coding unless it is very short, and a header field says so; that layer is left out
here.
-/

namespace Polyglot

open Http (Request Response Target)
open Json (Value)

/-! ## Routes -/

inductive Route where
  | health
  | shutdown
  | detect
  | detectBatch
  | resolve
  | languages
  | socket
deriving DecidableEq, Inhabited

namespace Route

def ofPath? (path : String) : Option Route :=
  match path with
  | "/health" => some health
  | "/shutdown" => some shutdown
  | "/api/detect" => some detect
  | "/api/detect/batch" => some detectBatch
  | "/api/resolve" => some resolve
  | "/api/languages" => some languages
  | "/ws" => some socket
  | _ => none

/-- The route of a request. -/
def ofRequest? (r : Request) : Option Route := ofPath? (Target.ofText r.target).path

/-- The route answers to `POST`, and not to `GET`. -/
def takesPost : Route → Bool
  | shutdown | detect | detectBatch => true
  | health | resolve | languages | socket => false

def accepts (route : Route) : Http.Method → Bool
  | .post => route.takesPost
  | .get | .head => !route.takesPost
  | .options | .other _ => false

/-- The methods that the route answers to. -/
def methods (route : Route) : String := if route.takesPost then "POST" else "GET,HEAD"

def isGuarded : Route → Bool
  | health => false
  | _ => true

end Route

/-! ## Answers -/

/-- The first condition for a change of protocol that the request does not meet, if there is one. -/
def upgradeFault? (r : Request) : Option Response :=
  let has (name : String) (p : String → Bool) : Bool := (r.header? name).any p
  let mentions (word : String) (value : String) : Bool := value.toLower.contains word
  if r.method ≠ .get then some (.plain 405 "Request method must be \x60GET\x60")
  else if !has "connection" (mentions "upgrade") then
    some (.plain 400 "Connection header did not include 'upgrade'")
  else if !has "upgrade" (Http.sameLetters "websocket") then
    some (.plain 400 "\x60Upgrade\x60 header did not include 'websocket'")
  else if (r.header? "sec-websocket-key").isNone then
    some (.plain 400 "\x60Sec-WebSocket-Key\x60 header missing")
  else if !has "sec-websocket-version" (· == "13") then
    some (.plain 400 "\x60Sec-WebSocket-Version\x60 header did not include '13'")
  else if !r.upgradable then
    some (.plain 426 "WebSocket request couldn't be upgraded since no upgrade state was present")
  else none

/-- The status of a response that changes the protocol. -/
def switchingProtocols : Nat := 101

namespace Service

/-- The seconds for which the service has been running, as a member of what it says of itself. -/
def uptimeMember (s : Service) : List (String × Value) :=
  (s.uptime.map fun seconds => ("uptime", .ofNat seconds)).toList

/-- What the service says of its own state. -/
def healthMembers (s : Service) : List (String × Value) :=
  [("languages", .ofNat s.detector.catalog.size),
    ("service", .string "codelang-detect"),
    ("signals", .ofNat s.detector.signals.length),
    ("status", .string "ok")] ++
  s.uptimeMember ++
  [("version", .string "0.1.0")]

/-- What the service says of the name of a file. -/
def resolution (s : Service) (fileName : String) : Value :=
  let language := s.detector.resolve fileName
  .object [
    ("file_name", .string fileName),
    ("language", .ofString? language),
    ("name", .ofString? (language.map s.detector.catalog.nameOrId))]

/-- Answers a request by what its body says. -/
def answerBody {α : Type} (s : Service) (r : Request) (read : Json.Reader α)
    (ask : α → Except ServiceError Value) : Response :=
  match r.decode s.settings.maxBodyBytes read with
  | .error fault => fault.response
  | .ok x =>
    match ask x with
    | .ok v => .json 200 v
    | .error e => e.response

/-- The answer of a route to a request that it accepts. -/
def handle (s : Service) (r : Request) : Route → Response
  | .health => .json 200 (.object s.healthMembers)
  | .shutdown => .json 200 (.object [("status", .string "shutting_down")])
  | .detect => s.answerBody r Snippet.read fun x => (s.detect x).map Detection.toJson
  | .detectBatch => s.answerBody r Snippet.readAll fun xs => do
    let found ← s.detectAll xs
    return .object [("results", .array (found.map Detection.toJson))]
  | .resolve =>
    match queryFileName? (Target.ofText r.target).query with
    | some fileName => .json 200 (s.resolution fileName)
    | none => .plain 400 "Failed to deserialize query string"
  | .languages => .json 200 (.array (s.detector.catalog.entries.toList.map Language.toJson))
  | .socket => (upgradeFault? r).getD { status := switchingProtocols }

/-- The request is answered by a route, and not turned away before. -/
def isHandledBy (s : Service) (r : Request) (route : Route) : Bool :=
  route.accepts r.method && (!route.isGuarded || s.admits r)

/-- The answer to a request for which a page asks beforehand what it may send. -/
def preflight : Response where
  status := 200
  headers := [("access-control-allow-methods", "*"), ("access-control-allow-headers", "*")]

/-- The answer to a request for a route. One that the route does not accept is told which methods it
accepts. -/
def routed (s : Service) (r : Request) (route : Route) : Response :=
  let answer : Response :=
    if r.method = .options then preflight
    else if route.isGuarded && !s.admits r then unauthorized
    else if route.accepts r.method then s.handle r route
    else { status := 405 }
  if route.accepts r.method then answer else answer.withHeader "allow" route.methods

/-- The answer to a request for something that is no route. -/
def unrouted (s : Service) (r : Request) : Response :=
  if r.method = .options then preflight
  else if s.admits r then { status := 404 }
  else unauthorized

/-- The answer to a request. -/
def respond (s : Service) (r : Request) : Response :=
  let answer := match Route.ofRequest? r with
    | some route => s.routed r route
    | none => s.unrouted r
  let answer := if r.method = .head then answer.withoutBody else answer
  answer.withHeader "access-control-allow-origin" "*"

end Service

/-! ## Shutting down -/

/-- A service that runs until it is asked to shut down. -/
structure Host where
  service : Service
  /-- A shutdown has been asked for, and nobody has taken note of it yet. -/
  shutdownAsked : Bool := false

namespace Host

/-- Answers a request. A shutdown is asked for by a request that the route for it answers. -/
def handle (h : Host) (r : Request) : Host × Response :=
  let asked := Route.ofRequest? r = some .shutdown && h.service.isHandledBy r .shutdown
  ({ h with shutdownAsked := h.shutdownAsked || asked }, h.service.respond r)

/-- Takes note of a shutdown that has been asked for. A wait for it ends only if there is one. -/
def takeShutdown (h : Host) : Host × Bool :=
  ({ h with shutdownAsked := false }, h.shutdownAsked)

end Host

/-! ## Opening a session -/

/-- The request that opens a session over a socket, with the value of an `Authorization` field if
the client sends one. -/
def openingRequest (authorization : Option String) : Request where
  target := "/ws"
  headers := [
    ("connection", "Upgrade"),
    ("upgrade", "websocket"),
    ("sec-websocket-version", "13"),
    ("sec-websocket-key", "dGhlIHNhbXBsZSBub25jZQ==")] ++
    (authorization.map fun value => ("authorization", Http.receivedValue value)).toList
  upgradable := true

/-- The service opens a session. -/
def Service.opens (s : Service) (authorization : Option String) : Bool :=
  (s.respond (openingRequest authorization)).status = switchingProtocols

end Polyglot
