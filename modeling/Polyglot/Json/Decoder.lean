import Polyglot.Json.Skip

/-!
# Decoders

Readers of values of a known kind. A value of another kind is a mismatch, but not before it is clear
that the value keeps to the grammar; for a value with parts this is left open.

A record is written as an object, whose keys may come in any order, or as an array of its fields.
Keys that the record does not know are passed over. A field that comes twice is a mismatch, which
shows when its key is read again.
-/

namespace Polyglot.Json

open Polyglot.Text (Glyph)

/-- The fault of a value that is not of the kind that is asked for. -/
def wrongKind : Input → Fault
  | [] => .truncated
  | .stray _ :: _ => .malformed
  | .char c :: rest =>
    let fault {α : Type} : Except Fault α → Fault
      | .ok _ => .mismatch
      | .error fault => fault
    if c = '[' || c = '{' then .mismatch
    else if c = '"' then fault (text rest)
    else if startsNumber (.char c) then fault (number (.char c :: rest))
    else if c = 'n' then fault (word ['u', 'l', 'l'] rest)
    else if c = 't' then fault (word ['r', 'u', 'e'] rest)
    else if c = 'f' then fault (word ['a', 'l', 's', 'e'] rest)
    else .malformed

/-! ## Values without parts -/

def string : Reader String := fun input =>
  match skipBlanks input with
  | .char '"' :: rest => do
    let (cs, rest) ← text rest
    .ok (String.ofList cs, rest)
  | input => .error (wrongKind input)

def bool : Reader Bool := fun input =>
  match skipBlanks input with
  | .char 't' :: rest => (true, ·) <$> word ['r', 'u', 'e'] rest
  | .char 'f' :: rest => (false, ·) <$> word ['a', 'l', 's', 'e'] rest
  | input => .error (wrongKind input)

/-- A whole number of 32 bits. It is written without a point and without an exponent. -/
def uint32 : Reader UInt32 := fun input =>
  match skipBlanks input with
  | g :: rest =>
    if startsNumber g then do
      match ← number (g :: rest) with
      | (.int n, rest) =>
        if 0 ≤ n && n < UInt32.size then .ok (.ofNat n.toNat, rest) else .error .mismatch
      | (.real _, _) => .error .mismatch
    else .error (wrongKind (g :: rest))
  | [] => .error .truncated

/-- A value, or the word `null` for its absence. -/
def optional {α : Type} (read : Reader α) : Reader (Option α) := fun input =>
  match skipBlanks input with
  | .char 'n' :: rest => (none, ·) <$> word ['u', 'l', 'l'] rest
  | input => do
    let (x, rest) ← read input
    .ok (some x, rest)

/-! ## Arrays -/

/-- Looks for another item of an array, and goes to where it starts. There is none at the closing
bracket. -/
def nextItem (first : Bool) (input : Input) : Except Fault (Option Input) :=
  match skipBlanks input with
  | [] => .error .truncated
  | g :: rest =>
    if g = .char ']' then .ok none
    else if first then .ok (some (g :: rest))
    else if g = .char ',' then
      match skipBlanks rest with
      | [] => .error .truncated
      | g :: rest => if g = .char ']' then .error .malformed else .ok (some (g :: rest))
    else .error .malformed

/-- Passes over the closing bracket of an array that has no more items. -/
def endItems (input : Input) : Except Fault Input :=
  match skipBlanks input with
  | [] => .error .truncated
  | g :: rest => if g = .char ']' then .ok rest else .error .malformed

/-- The items of an array after those that have been read, which come latest first. The first
argument bounds the number of items, each of which takes at least one glyph. -/
def items {α : Type} (read : Reader α) : (bound : Input) → List α → Reader (List α)
  | [], _, _ => .error .truncated
  | _ :: bound, found, input =>
    match nextItem found.isEmpty input with
    | .error fault => .error fault
    | .ok none => (found.reverse, ·) <$> endItems input
    | .ok (some start) =>
      match read start with
      | .error fault => .error fault
      | .ok (x, rest) => items read bound (x :: found) rest

def list {α : Type} (read : Reader α) : Reader (List α) := fun input =>
  match skipBlanks input with
  | .char '[' :: rest => items read rest [] rest
  | input => .error (wrongKind input)

/-! ## Records -/

/-- Looks for another key of an object, and goes to what follows its opening quote. There is none at
the closing bracket. -/
def nextKey (first : Bool) (input : Input) : Except Fault (Option Input) :=
  match skipBlanks input with
  | [] => .error .truncated
  | g :: rest =>
    if g = .char '}' then .ok none
    else if first then
      if g = .char '"' then .ok (some rest) else .error .malformed
    else if g = .char ',' then
      match skipBlanks rest with
      | [] => .error .truncated
      | g :: rest => if g = .char '"' then .ok (some rest) else .error .malformed
    else .error .malformed

/-- Passes over the closing bracket of an object that has no more keys. -/
def endMembers (input : Input) : Except Fault Input :=
  match skipBlanks input with
  | [] => .error .truncated
  | g :: rest => if g = .char '}' then .ok rest else .error .malformed

/-- A field of a record that is being read. What has been read of the record is a draft of it. -/
structure RecordField (Draft : Type) where
  /-- The keys that the field goes by. -/
  keys : List String
  /-- The draft has the field. -/
  given : Draft → Bool
  /-- Reads the value of the field into a draft. -/
  read : Draft → Reader Draft

/-- A field by its keys, its place in a draft and the reader of its value. -/
def RecordField.of {Draft α : Type} (keys : List String) (get : Draft → Option α)
    (set : Draft → α → Draft) (read : Reader α) : RecordField Draft where
  keys := keys
  given draft := (get draft).isSome
  read draft input := do
    let (x, rest) ← read input
    .ok (set draft x, rest)

/-- Reads one member of an object into a draft, from after the opening quote of its key. -/
def member {Draft : Type} (fields : List (RecordField Draft)) (draft : Draft) : Reader Draft :=
  fun input => do
    let (key, rest) ← text input
    match fields.find? (·.keys.contains (String.ofList key)) with
    | some field =>
      if field.given draft then .error .mismatch else field.read draft (← skipColon rest)
    | none => (draft, ·) <$> (skipColon rest >>= skip)

/-- Reads the members of an object into a draft. The second argument bounds their number. -/
def members {Draft : Type} (fields : List (RecordField Draft)) :
    (bound : Input) → (first : Bool) → Draft → Reader Draft
  | [], _, _, _ => .error .truncated
  | _ :: bound, first, draft, input =>
    match nextKey first input with
    | .error fault => .error fault
    | .ok none => (draft, ·) <$> endMembers input
    | .ok (some start) =>
      match member fields draft start with
      | .error fault => .error fault
      | .ok (draft, rest) => members fields bound false draft rest

/-- Reads the items of an array into the fields of a draft, as long as there are items. -/
def positional {Draft : Type} (draft : Draft) (first : Bool) :
    List (RecordField Draft) → Reader Draft
  | [], input => .ok (draft, input)
  | field :: fields, input => do
    match ← nextItem first input with
    | none => .ok (draft, input)
    | some start =>
      let (draft, rest) ← field.read draft start
      positional draft false fields rest

/-- A record. The draft that has been read has to be complete. -/
def record {Draft α : Type} (fields : List (RecordField Draft)) (start : Draft)
    (complete? : Draft → Option α) : Reader α := fun input => do
  let (draft, rest) ← match skipBlanks input with
    | .char '{' :: rest => members fields rest true start rest
    | .char '[' :: rest => do
      let (draft, rest) ← positional start true fields rest
      (draft, ·) <$> endItems rest
    | input => .error (wrongKind input)
  match complete? draft with
  | some x => .ok (x, rest)
  | none => .error .mismatch

/-! ## Documents -/

/-- A document that is one value, with nothing but blanks around it. -/
def document {α : Type} (read : Reader α) (input : Input) : Except Fault α := do
  let (x, rest) ← read input
  if (skipBlanks rest).isEmpty then .ok x else .error .malformed

end Polyglot.Json
