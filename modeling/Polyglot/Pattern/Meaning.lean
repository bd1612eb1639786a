import Polyglot.Pattern.Expr
import Polyglot.Pattern.Regex
import Polyglot.Unicode.CaseFolding

/-!
# The meaning of patterns

Works out flags and classes of a written pattern. Patterns only ever accept whole characters, so
with the Unicode flag off everything that could accept a lone byte beyond ASCII has no meaning: the
dot, negated classes and two-digit escapes from `\x80` on.

Where case does not matter, each class is closed under case folding before it is negated, and so is
each side of an operator between classes. The shorthands are closed already. With the Unicode flag
off a character beyond ASCII has no other case, and where case does not matter it has no meaning.
-/

namespace Polyglot.Pattern

open Polyglot.Unicode

/-- The flags that change what a pattern means. -/
structure Flags where
  caseInsensitive : Bool := false
  multiLine : Bool := false
  dotAll : Bool := false
  swapGreed : Bool := false
  unicode : Bool := true
  crlf : Bool := false
deriving DecidableEq, Inhabited

namespace Flags

def set (f : Flags) : Flag → Bool → Flags
  | .caseInsensitive, b => { f with caseInsensitive := b }
  | .multiLine, b => { f with multiLine := b }
  | .dotAll, b => { f with dotAll := b }
  | .swapGreed, b => { f with swapGreed := b }
  | .unicode, b => { f with unicode := b }
  | .crlf, b => { f with crlf := b }
  | .verbose, _ => f

def change (f : Flags) (c : FlagChange) : Flags := c.foldl (fun f (flag, b) => f.set flag b) f

/-- Closes a set under case folding, if case does not matter. -/
def fold (f : Flags) (s : CharSet) : CharSet :=
  if !f.caseInsensitive then s
  else if f.unicode then s.foldClosure
  else s.asciiFoldClosure

/-- The set or its complement, which has a meaning for whole characters only. -/
def negate (f : Flags) (negated : Bool) (s : CharSet) : Option CharSet :=
  if !negated then some s else if f.unicode then some s.complement else none

end Flags

def asciiWordSet : CharSet :=
  ⟨[⟨0x30, 0x39⟩, ⟨0x41, 0x5a⟩, ⟨0x5f, 0x5f⟩, ⟨0x61, 0x7a⟩]⟩

def Shorthand.set (unicode : Bool) : Shorthand → CharSet
  | digit => if unicode then decimalNumber else .range '0' '9'
  | space => if unicode then whiteSpace else ⟨[⟨0x9, 0xd⟩, ⟨0x20, 0x20⟩]⟩
  | word => if unicode then wordSet else asciiWordSet

def ClassOp.apply : ClassOp → CharSet → CharSet → CharSet
  | inter => CharSet.inter
  | diff => CharSet.diff
  | symmDiff => CharSet.symmDiff

/-- The character of a literal in a class. Without the Unicode flag it has to be ASCII. -/
def Literal.inClass? (f : Flags) (l : Literal) : Option Char :=
  if f.unicode || l.char.toNat < 128 then some l.char else none

/-- The set that an expression between brackets stands for, if it has a meaning. -/
def ClassExpr.set? (f : Flags) : ClassExpr → Option CharSet
  | nothing => some .empty
  | char l => (l.inClass? f).map .single
  | range a b => do return .range (← a.inClass? f) (← b.inClass? f)
  | ascii s negated => f.negate negated (f.fold s)
  | shorthand s negated => f.negate negated (s.set f.unicode)
  | property s negated => if f.unicode then f.negate negated (f.fold s) else none
  | bracketed negated body => do f.negate negated (f.fold (← body.set? f))
  | items first rest => do return (← first.set? f).union (← rest.set? f)
  | op kind left right => do return kind.apply (f.fold (← left.set? f)) (f.fold (← right.set? f))

def Mark.assertion (f : Flags) : Mark → Assertion
  | lineStart =>
    if !f.multiLine then .textStart else if f.crlf then .crlfLineStart else .lineStart
  | lineEnd => if !f.multiLine then .textEnd else if f.crlf then .crlfLineEnd else .lineEnd
  | textStart => .textStart
  | textEnd => .textEnd
  | wordBoundary => .wordBoundary f.unicode
  | notWordBoundary => .notWordBoundary f.unicode
  | wordStart => .wordStart f.unicode
  | wordEnd => .wordEnd f.unicode
  | noWordBefore => .noWordBefore f.unicode
  | noWordAfter => .noWordAfter f.unicode

/-- The characters that the dot accepts. -/
def dotSet (f : Flags) : CharSet :=
  if f.dotAll then .all
  else if f.crlf then (CharSet.ofList ['\n', '\r']).complement
  else (CharSet.single '\n').complement

/-- The meaning of a pattern under the flags, and the flags that hold after it. -/
def Expr.meaning? (f : Flags) : Expr → Option (Fragment × Flags)
  | empty => some (.empty, f)
  | flags c => some (.empty, f.change c)
  | char l =>
    if !f.unicode && 128 ≤ l.char.toNat && (l.isByte || f.caseInsensitive) then none
    else some (.one (f.fold (.single l.char)), f)
  | dot => if f.unicode then some (.one (dotSet f), f) else none
  | mark m => some (.assert (m.assertion f), f)
  | shorthand s negated => do return (.one (← f.negate negated (s.set f.unicode)), f)
  | property s negated =>
    if f.unicode then do return (.one (← f.negate negated (f.fold s)), f) else none
  | bracketed negated body => do
    return (.one (← f.negate negated (f.fold (← body.set? f))), f)
  | repeated lo hi greedy body => do
    let (x, f) ← body.meaning? f
    return (x.repeated lo hi (greedy != f.swapGreed), f)
  | group captures c body => do
    let (x, _) ← body.meaning? (f.change c)
    return (x.grouped captures, f)
  | cat first rest => do
    let (x, f) ← first.meaning? f
    let (y, f) ← rest.meaning? f
    return (x.cat y, f)
  | alt first rest => do
    let (x, f) ← first.meaning? f
    let (y, f) ← rest.meaning? f
    return (x.alt y, f)

end Polyglot.Pattern
