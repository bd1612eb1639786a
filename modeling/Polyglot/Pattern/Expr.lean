import Polyglot.Unicode.CharSet

/-!
# Patterns as written

A pattern as it was written, before flags are worked out. A flag such as `(?i)` acts on what comes
after it up to the end of its group, across `|` too, so the tree keeps flags at their places.

Trees are limited in depth. A sequence counts as one level however many members it has, and so do an
alternation and the list of items of a class.
-/

namespace Polyglot.Pattern

open Polyglot.Unicode

/-- The flags of the pattern language. -/
inductive Flag where
  /-- `i`: letters match in either case. -/
  | caseInsensitive
  /-- `m`: `^` and `$` stand for line ends. -/
  | multiLine
  /-- `s`: the dot accepts line ends too. -/
  | dotAll
  /-- `U`: repetitions are lazy, and greedy with a `?`. -/
  | swapGreed
  /-- `u`: characters of all scripts are known. -/
  | unicode
  /-- `R`: a carriage return ends a line too. -/
  | crlf
  /-- `x`: white space and comments are skipped. -/
  | verbose
deriving DecidableEq, Inhabited

/-- Flags that are switched on or off, in the order in which they are written. -/
abbrev FlagChange := List (Flag × Bool)

/-- The classes with a letter of their own: `\d`, `\s` and `\w`. -/
inductive Shorthand where
  | digit
  | space
  | word
deriving DecidableEq, Inhabited

/-- The places that can be asked for. -/
inductive Mark where
  | lineStart
  | lineEnd
  | textStart
  | textEnd
  | wordBoundary
  | notWordBoundary
  | wordStart
  | wordEnd
  | noWordBefore
  | noWordAfter
deriving DecidableEq, Inhabited

/-- The operators between two classes: `&&`, `--` and `~~`. -/
inductive ClassOp where
  | inter
  | diff
  | symmDiff
deriving DecidableEq, Inhabited

/-- A character that is written out. Two hexadecimal digits, as in `\xff`, may also mean a byte. -/
structure Literal where
  char : Char
  isByte : Bool := false
deriving DecidableEq, Inhabited

/-- What stands between the brackets of a class. -/
inductive ClassExpr where
  | nothing
  | char (l : Literal)
  | range (first last : Literal)
  /-- An ASCII class such as `[:alpha:]`. -/
  | ascii (set : CharSet) (negated : Bool)
  | shorthand (s : Shorthand) (negated : Bool)
  | property (set : CharSet) (negated : Bool)
  | bracketed (negated : Bool) (body : ClassExpr)
  /-- An item and the items after it. -/
  | items (first rest : ClassExpr)
  | op (kind : ClassOp) (left right : ClassExpr)
deriving Inhabited

/-- A pattern as it was written. -/
inductive Expr where
  | empty
  | flags (change : FlagChange)
  | char (l : Literal)
  | dot
  | mark (m : Mark)
  | shorthand (s : Shorthand) (negated : Bool)
  | property (set : CharSet) (negated : Bool)
  | bracketed (negated : Bool) (body : ClassExpr)
  | repeated (lo : Nat) (hi : Option Nat) (greedy : Bool) (body : Expr)
  /-- A group, with the flags that hold inside it. The place of what it matches may be kept. -/
  | group (captures : Bool) (change : FlagChange) (body : Expr)
  /-- A member of a sequence and the members after it. -/
  | cat (first rest : Expr)
  /-- A branch of an alternation and the branches after it. -/
  | alt (first rest : Expr)
deriving Inhabited

namespace ClassExpr

/-- The items, in order, as one expression. -/
def ofItems : List ClassExpr → ClassExpr
  | [] => nothing
  | [x] => x
  | x :: rest => items x (ofItems rest)

def depth : ClassExpr → Nat
  | nothing | char _ | range _ _ | ascii _ _ | shorthand _ _ | property _ _ => 0
  | bracketed _ body => body.depth + 1
  | items first rest =>
    match rest with
    | items _ _ => max (first.depth + 1) rest.depth
    | _ => max (first.depth + 1) (rest.depth + 1)
  | op _ left right => max left.depth right.depth + 1

end ClassExpr

namespace Expr

/-- The members of a sequence, in order, as one pattern. -/
def ofSequence : List Expr → Expr
  | [] => empty
  | [x] => x
  | x :: rest => cat x (ofSequence rest)

/-- The branches of an alternation, in order, as one pattern. -/
def ofBranches : List Expr → Expr
  | [] => empty
  | [x] => x
  | x :: rest => alt x (ofBranches rest)

def depth : Expr → Nat
  | empty | flags _ | char _ | dot | mark _ | shorthand _ _ | property _ _ => 0
  | bracketed _ body => body.depth + 1
  | repeated _ _ _ body => body.depth + 1
  | group _ _ body => body.depth + 1
  | cat first rest =>
    match rest with
    | cat _ _ => max (first.depth + 1) rest.depth
    | _ => max (first.depth + 1) (rest.depth + 1)
  | alt first rest =>
    match rest with
    | alt _ _ => max (first.depth + 1) rest.depth
    | _ => max (first.depth + 1) (rest.depth + 1)

end Expr

/-- The deepest pattern that is accepted. -/
def maxDepth : Nat := 250

end Polyglot.Pattern
