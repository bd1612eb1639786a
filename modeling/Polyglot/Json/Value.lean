import Polyglot.Json.Decoder

/-!
# Values

A document as a value of its own, where nothing is known of it beforehand. Of members with the same
key the last one counts, and the members of a value that has been read are in the order of their
keys. A document may nest no deeper than `depthLimit`.
-/

namespace Polyglot.Json

open Polyglot.Text (Glyph)

inductive Value where
  | null
  | bool (b : Bool)
  | number (n : Number)
  | string (s : String)
  | array (items : List Value)
  | object (members : List (String × Value))
deriving Inhabited

namespace Value

/-- The value under a key of an object. -/
def get? (v : Value) (key : String) : Option Value :=
  match v with
  | object members => members.lookup key
  | _ => none

def string? : Value → Option String
  | string s => some s
  | _ => none

end Value

/-- Puts a member into its place in a list in the order of the keys. A member with the same key is
replaced. -/
def insertMember (key : String) (v : Value) : List (String × Value) → List (String × Value)
  | [] => [(key, v)]
  | (k, w) :: rest =>
    if key = k then (key, v) :: rest
    else if key < k then (key, v) :: (k, w) :: rest
    else (k, w) :: insertMember key v rest

/-! ## Reading -/

/-- The members of an object, added to those that have been read. The first argument bounds their
number. -/
def valueMembers (read : Reader Value) :
    (bound : Input) → (first : Bool) → List (String × Value) → Reader (List (String × Value))
  | [], _, _, _ => .error .truncated
  | _ :: bound, first, found, input =>
    match nextKey first input with
    | .error fault => .error fault
    | .ok none => (found, ·) <$> endMembers input
    | .ok (some start) =>
      match text start with
      | .error fault => .error fault
      | .ok (key, rest) =>
        match skipColon rest >>= read with
        | .error fault => .error fault
        | .ok (v, rest) =>
          valueMembers read bound false (insertMember (String.ofList key) v found) rest

/-- A value in which at most `depth` brackets are inside of one another. -/
def value : (depth : Nat) → Reader Value
  | depth, input =>
    match skipBlanks input with
    | [] => .error .truncated
    | .stray _ :: _ => .error .malformed
    | .char c :: rest =>
      if c = '[' then
        match depth with
        | 0 => .error .malformed
        | depth + 1 => do
          let (vs, rest) ← items (value depth) rest [] rest
          .ok (.array vs, rest)
      else if c = '{' then
        match depth with
        | 0 => .error .malformed
        | depth + 1 => do
          let (ms, rest) ← valueMembers (value depth) rest true [] rest
          .ok (.object ms, rest)
      else if c = '"' then do
        let (cs, rest) ← text rest
        .ok (.string (String.ofList cs), rest)
      else if startsNumber (.char c) then do
        let (n, rest) ← number (.char c :: rest)
        .ok (.number n, rest)
      else if c = 'n' then (.null, ·) <$> word ['u', 'l', 'l'] rest
      else if c = 't' then (.bool true, ·) <$> word ['r', 'u', 'e'] rest
      else if c = 'f' then (.bool false, ·) <$> word ['a', 'l', 's', 'e'] rest
      else .error .malformed

/-- The most brackets of a document that may be inside of one another. -/
def depthLimit : Nat := 127

/-- The value of a document. -/
def Value.read (input : Input) : Except Fault Value := document (value depthLimit) input

end Polyglot.Json
