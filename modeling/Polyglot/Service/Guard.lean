import Polyglot.Service

/-!
# The guard

When the settings have a token, requests have to carry it in their `Authorization` field, after the
word `Bearer` and a blank. The word may be in any case, the token may not.
-/

namespace Polyglot

/-- The word and the blank before the token, in small letters. -/
def bearer : List Char := "bearer ".toList

/-- The token in the value of a field. -/
def bearerToken? (value : String) : Option (List Char) :=
  let cs := value.toList
  let (word, token) := (cs.take bearer.length, cs.drop bearer.length)
  if word.map Char.toLower = bearer && !token.isEmpty then some token else none

/-- The request may be answered by routes that are guarded. -/
def Service.admits (s : Service) (r : Http.Request) : Bool :=
  match s.settings.authToken with
  | none => true
  | some token =>
    (r.visibleHeader? "authorization").bind bearerToken? = some token.toList

/-- The answer to a request that is not admitted. -/
def unauthorized : Http.Response := .json 401 (ServiceError.body "Unauthorized" 401)

end Polyglot
