import Polyglot.Json.Number

/-!
# Skipped values

A value that nobody asks for is only passed over. It has to keep to the grammar, but it may nest as
deeply as it likes, its numbers may have any size, and its strings need not encode characters.

The brackets that are open are kept in a list, the innermost first, so that no depth of nesting is
too much.
-/

namespace Polyglot.Json

open Polyglot.Text (Glyph)

/-- The kind of a value with parts. -/
inductive Bracket where
  | array
  | object
deriving DecidableEq, Inhabited

def Bracket.closing : Bracket → Glyph
  | array => .char ']'
  | object => .char '}'

/-- Passes over the colon between a key and its value. -/
def skipColon (input : Input) : Except Fault Input :=
  match skipBlanks input with
  | [] => .error .truncated
  | g :: rest => if g = .char ':' then .ok rest else .error .malformed

/-- Passes over what stands before a value inside of a bracket: a key with its colon, or nothing. -/
def Bracket.skipKey (b : Bracket) (input : Input) : Except Fault Input :=
  match b with
  | .array => .ok input
  | .object =>
    match skipBlanks input with
    | [] => .error .truncated
    | g :: rest => if g = .char '"' then skipText rest >>= skipColon else .error .malformed

/-- Passes over a value without parts, or over the opening bracket of one with parts, which is
given then. -/
def skipBegin : Reader (Option Bracket) := fun input =>
  match skipBlanks input with
  | [] => .error .truncated
  | .stray _ :: _ => .error .malformed
  | .char c :: rest =>
    if c = '[' then .ok (some .array, rest)
    else if c = '{' then .ok (some .object, rest)
    else (none, ·) <$>
      if c = '"' then skipText rest
      else if startsNumber (.char c) then skipNumber (.char c :: rest)
      else if c = 'n' then word ['u', 'l', 'l'] rest
      else if c = 't' then word ['r', 'u', 'e'] rest
      else if c = 'f' then word ['a', 'l', 's', 'e'] rest
      else .error .malformed

/-- Passes over everything up to the end of the outermost open bracket. The innermost one is fresh
if nothing has been read inside of it. The first argument bounds the number of turns, each of which
takes at least one glyph. -/
def skipOpen : (bound : Input) → List Bracket → (fresh : Bool) → Input → Except Fault Input
  | _, [], _, input => .ok input
  | [], _ :: _, _, _ => .error .truncated
  | _ :: bound, b :: outer, fresh, input =>
    match skipBlanks input with
    | [] => .error .truncated
    | g :: rest =>
      if g = b.closing then skipOpen bound outer false rest
      else if fresh || g = .char ',' then do
        let input ← b.skipKey (if fresh then g :: rest else rest)
        match ← skipBegin input with
        | (none, rest) => skipOpen bound (b :: outer) false rest
        | (some inner, rest) => skipOpen bound (inner :: b :: outer) true rest
      else .error .malformed

/-- Passes over a value. -/
def skip (input : Input) : Except Fault Input := do
  match ← skipBegin input with
  | (none, rest) => .ok rest
  | (some b, rest) => skipOpen rest [b] true rest

end Polyglot.Json
