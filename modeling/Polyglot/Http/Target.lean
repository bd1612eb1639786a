import Polyglot.Text.Hex
import Polyglot.Text.Utf8

/-!
# Targets and queries

The target of a request is a path, which may have a query after a question mark. In a whole address
the path comes after the name of the host. Paths are taken as they are written. Queries are lists of
named values in the encoding of forms: a plus sign is a blank, and a percent sign with two
hexadecimal digits is a byte.

A target of any length is read. The server turns away a target of more than 65534 bytes before the
service sees the request, so longer ones come up here alone.
-/

namespace Polyglot.Http

open Polyglot.Text (hexDigit?)

/-- What comes before the first separator, and what comes after it if there is one. -/
def splitFirst (separator : Char) (cs : List Char) : List Char × Option (List Char) :=
  match cs.dropWhile (· != separator) with
  | [] => (cs, none)
  | _ :: rest => (cs.takeWhile (· != separator), some rest)

/-- The pieces between the separators. -/
def splitAll (separator : Char) : List Char → List (List Char)
  | [] => [[]]
  | c :: rest =>
    if c = separator then [] :: splitAll separator rest
    else match splitAll separator rest with
      | piece :: pieces => (c :: piece) :: pieces
      | [] => [[c]]

structure Target where
  path : String
  query : String := ""
deriving DecidableEq, Inhabited

namespace Target

/-- A target by a path that may have a query. -/
def ofPath (cs : List Char) : Target :=
  let (path, query) := splitFirst '?' cs
  ⟨String.ofList path, String.ofList (query.getD [])⟩

/-- What follows the name of the host in an address. -/
def afterHost? : List Char → Option (List Char)
  | ':' :: '/' :: '/' :: rest => some (rest.dropWhile fun c => c != '/' && c != '?')
  | _ :: rest => afterHost? rest
  | [] => none

/-- The target of a request. A fragment has no meaning in it. The path of a whole address is at
least a slash; a host alone has no path. -/
def ofText (text : String) : Target :=
  let (cs, _) := splitFirst '#' text.toList
  match cs with
  | '/' :: _ => ofPath cs
  | ['*'] => ofPath cs
  | _ =>
    match afterHost? cs with
    | none => ofPath []
    | some rest => ofPath (if rest.head? = some '/' then rest else '/' :: rest)

end Target

/-! ## Queries -/

/-- The bytes that a piece of a query stands for. A percent sign without two digits stands for
itself. -/
def formBytes : List Char → List UInt8
  | [] => []
  | '+' :: rest => 0x20 :: formBytes rest
  | '%' :: a :: b :: rest =>
    match hexDigit? a, hexDigit? b with
    | some high, some low => .ofNat (16 * high + low) :: formBytes rest
    | _, _ => 0x25 :: formBytes (a :: b :: rest)
  | c :: rest => String.utf8EncodeChar c ++ formBytes rest

/-- The text that a piece of a query stands for. -/
def formText (cs : List Char) : String :=
  String.ofList (Text.lossy ⟨(formBytes cs).toArray⟩)

/-- A name and its value in a query. A name alone has an empty value. -/
def formPair (cs : List Char) : String × String :=
  let (name, value) := splitFirst '=' cs
  (formText name, formText (value.getD []))

/-- The named values of a query. -/
def queryPairs (query : String) : List (String × String) :=
  ((splitAll '&' query.toList).filter (! ·.isEmpty)).map formPair

end Polyglot.Http
