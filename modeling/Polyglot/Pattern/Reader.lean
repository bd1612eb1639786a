import Polyglot.Pattern.Expr
import Polyglot.Text.Hex
import Polyglot.Unicode.Property

/-!
# Reading patterns

The grammar of patterns. Each reader takes the characters that are still to be read and returns what
it has read together with the rest, or nothing if the pattern is malformed. In verbose mode white
space and comments are skipped wherever a character of the grammar may stand, also inside escapes,
counts and classes.

The readers of nested constructs take a bound on the number of steps; every step uses up at least
one character, so the length of the pattern is bound enough.
-/

namespace Polyglot.Pattern

open Polyglot.Unicode
open Polyglot.Text (hexDigit?)

namespace Read

/-! ## Characters -/

/-- Skips white space and comments; the flag tells that a comment has begun. -/
def skipBlanks : Bool → List Char → List Char
  | _, [] => []
  | true, c :: rest => skipBlanks (c != '\n') rest
  | false, c :: rest =>
    if isWhiteSpace c then skipBlanks false rest
    else if c = '#' then skipBlanks true rest
    else c :: rest

/-- Skips what means nothing in verbose mode. -/
def blanks (verbose : Bool) (cs : List Char) : List Char :=
  if verbose then skipBlanks false cs else cs

def isMeta (c : Char) : Bool := "\\.+*?()|[]\x7b\x7d^$#&-~".toList.contains c

/-- A backslash before the character makes it stand for itself. Letters and digits are left to
escapes with a meaning, and so are the angle brackets. -/
def isEscapable (c : Char) : Bool :=
  isMeta c || (c.toNat < 128 && !c.isAlphanum && c != '<' && c != '>')

/-- The character with the given code point, if there is one. -/
def charOfCode? (n : Nat) : Option Char :=
  if h : n.isValidChar then some (Char.ofNatAux n h) else none

/-- A number of exactly `n` hexadecimal digits. -/
def hexFixed (verbose : Bool) : Nat → Nat → List Char → Option (Nat × List Char)
  | 0, acc, cs => some (acc, cs)
  | _ + 1, _, [] => none
  | n + 1, acc, c :: rest => do
    let d ← hexDigit? c
    hexFixed verbose n (16 * acc + d) (blanks verbose rest)

/-- Hexadecimal digits up to a closing brace. -/
def hexBraced (verbose : Bool) : Nat → Option Nat → List Char → Option (Nat × List Char)
  | 0, _, _ => none
  | fuel + 1, acc, cs =>
    match blanks verbose cs with
    | [] => none
    | '}' :: rest => acc.map fun n => (n, blanks verbose rest)
    | c :: rest => do
      let d ← hexDigit? c
      hexBraced verbose fuel (some (16 * acc.getD 0 + d)) rest

/-- The characters up to a closing brace. -/
def untilBrace (verbose : Bool) : Nat → List Char → List Char → Option (List Char × List Char)
  | 0, _, _ => none
  | fuel + 1, acc, cs =>
    match blanks verbose cs with
    | [] => none
    | '}' :: rest => some (acc.reverse, rest)
    | c :: rest => untilBrace verbose fuel (c :: acc) rest

/-! ## Escapes -/

/-- What an escape or a single character of a class can stand for. -/
inductive Atom where
  | char (l : Literal)
  | mark (m : Mark)
  | shorthand (s : Shorthand) (negated : Bool)
  | property (set : CharSet) (negated : Bool)

/-- A hexadecimal escape after its letter, with the number of digits that it has without braces. -/
def hexEscape (verbose : Bool) (digits : Nat) (cs : List Char) : Option (Literal × List Char) := do
  match blanks verbose cs with
  | '{' :: rest =>
    let (n, rest) ← hexBraced verbose (rest.length + 1) none rest
    let c ← charOfCode? n
    return (⟨c, false⟩, rest)
  | cs =>
    let (n, rest) ← hexFixed verbose digits 0 cs
    let c ← charOfCode? n
    return (⟨c, digits == 2⟩, rest)

/-- Splits a text at the first place where the separator stands. -/
def splitAt? (separator : List Char) : List Char → Option (List Char × List Char)
  | [] => none
  | c :: rest =>
    if separator.isPrefixOf (c :: rest) then some ([], (c :: rest).drop separator.length)
    else (splitAt? separator rest).map fun (a, b) => (c :: a, b)

/-- The set that is named between braces, and whether its complement is meant. -/
def namedProperty (name : List Char) : Option (CharSet × Bool) :=
  match splitAt? ['!', '='] name with
  | some (p, v) => (setOfValue (.ofList p) (.ofList v)).map (·, true)
  | none =>
    match splitAt? [':'] name <|> splitAt? ['='] name with
    | some (p, v) => (setOfValue (.ofList p) (.ofList v)).map (·, false)
    | none => (setOfName (.ofList name)).map (·, false)

/-- A property escape after its letter, which is a capital one if `negated`. -/
def propertyEscape (verbose negated : Bool) (cs : List Char) : Option (Atom × List Char) := do
  match blanks verbose cs with
  | [] => none
  | '\\' :: _ => none
  | '{' :: rest =>
    let (name, rest) ← untilBrace verbose (rest.length + 1) [] rest
    let (set, complement) ← namedProperty name
    return (.property set (negated != complement), rest)
  | c :: rest =>
    let set ← setOfName (.singleton c)
    return (.property set negated, blanks verbose rest)

/-- The letters and hyphens of a name between braces, and what comes after the closing brace. -/
def markName (verbose : Bool) : Nat → List Char → List Char → Option (List Char × List Char)
  | 0, _, _ => none
  | fuel + 1, acc, cs =>
    match cs with
    | [] => none
    | '}' :: rest => some (acc.reverse, rest)
    | c :: rest =>
      if c.isAlpha || c = '-' then markName verbose fuel (c :: acc) (blanks verbose rest) else none

/-- What follows `\b`: the name of a special kind of boundary, unless the brace opens a count. -/
def boundary (verbose : Bool) (cs : List Char) : Option (Mark × List Char) :=
  match cs with
  | '{' :: rest =>
    match blanks verbose rest with
    | [] => none
    | c :: more =>
      if c.isAlpha || c = '-' then do
        let (name, rest) ← markName verbose (more.length + 2) [] (c :: more)
        match String.ofList name with
        | "start" => some (.wordStart, rest)
        | "end" => some (.wordEnd, rest)
        | "start-half" => some (.noWordBefore, rest)
        | "end-half" => some (.noWordAfter, rest)
        | _ => none
      else some (.wordBoundary, cs)
  | _ => some (.wordBoundary, cs)

/-- An escape after its backslash. -/
def escape (verbose : Bool) : List Char → Option (Atom × List Char)
  | [] => none
  | c :: rest =>
    let literal := fun (n : Nat) => some (Atom.char ⟨Char.ofNat n, false⟩, rest)
    match c with
    | 'x' => (hexEscape verbose 2 rest).map fun (l, rest) => (.char l, rest)
    | 'u' => (hexEscape verbose 4 rest).map fun (l, rest) => (.char l, rest)
    | 'U' => (hexEscape verbose 8 rest).map fun (l, rest) => (.char l, rest)
    | 'p' => propertyEscape verbose false rest
    | 'P' => propertyEscape verbose true rest
    | 'd' => some (.shorthand .digit false, rest)
    | 'D' => some (.shorthand .digit true, rest)
    | 's' => some (.shorthand .space false, rest)
    | 'S' => some (.shorthand .space true, rest)
    | 'w' => some (.shorthand .word false, rest)
    | 'W' => some (.shorthand .word true, rest)
    | 'a' => literal 0x07
    | 'f' => literal 0x0c
    | 't' => literal 0x09
    | 'n' => literal 0x0a
    | 'r' => literal 0x0d
    | 'v' => literal 0x0b
    | 'A' => some (.mark .textStart, rest)
    | 'z' => some (.mark .textEnd, rest)
    | 'b' => (boundary verbose rest).map fun (m, rest) => (.mark m, rest)
    | 'B' => some (.mark .notWordBoundary, rest)
    | '<' => some (.mark .wordStart, rest)
    | '>' => some (.mark .wordEnd, rest)
    | c => if isEscapable c then some (.char ⟨c, false⟩, rest) else none

/-! ## Counts -/

/-- Skips white space, and comments after it in verbose mode. -/
def skipSpaces (verbose : Bool) : Nat → List Char → List Char
  | 0, cs => cs
  | fuel + 1, cs =>
    match cs with
    | c :: rest => if isWhiteSpace c then skipSpaces verbose fuel (blanks verbose rest) else cs
    | [] => []

def digits (verbose : Bool) : Nat → Option Nat → List Char → Option Nat × List Char
  | 0, acc, cs => (acc, cs)
  | fuel + 1, acc, cs =>
    match cs with
    | c :: rest =>
      if c.isDigit then
        digits verbose fuel (some (10 * acc.getD 0 + (c.toNat - 0x30))) (blanks verbose rest)
      else (acc, cs)
    | [] => (acc, [])

/-- A number that fits in 32 bits, with white space around it. -/
def count (verbose : Bool) (cs : List Char) : Option (Nat × List Char) := do
  let cs := cs.dropWhile isWhiteSpace
  let (n, cs) := digits verbose cs.length none cs
  let n ← n
  if n < UInt32.size then some (n, skipSpaces verbose cs.length cs) else none

/-- A trailing `?`, which makes a repetition lazy. -/
def laziness : List Char → Bool × List Char
  | '?' :: rest => (false, rest)
  | cs => (true, cs)

/-- The counts of a repetition after its opening brace. -/
def counts (verbose : Bool) (cs : List Char) :
    Option (Nat × Option Nat × Bool × List Char) := do
  let (lo, cs) ← count verbose (blanks verbose cs)
  let (hi, cs) ← match cs with
    | ',' :: rest =>
      match blanks verbose rest with
      | '}' :: rest => some (none, '}' :: rest)
      | cs => (count verbose cs).map fun (hi, cs) => (some hi, cs)
    | cs => some (some lo, cs)
  match cs with
  | '}' :: rest =>
    let (greedy, rest) := laziness (blanks verbose rest)
    if lo ≤ hi.getD lo then some (lo, hi, greedy, rest) else none
  | _ => none

/-! ## Classes -/

/-- The classes of ASCII characters that have a name. -/
def asciiClass? (name : List Char) : Option CharSet :=
  let set := fun (ranges : List (Char × Char)) =>
    some (ranges.foldl (fun s (a, b) => s.union (.range a b)) CharSet.empty)
  match String.ofList name with
  | "alnum" => set [('0', '9'), ('A', 'Z'), ('a', 'z')]
  | "alpha" => set [('A', 'Z'), ('a', 'z')]
  | "ascii" => set [('\x00', '\x7f')]
  | "blank" => set [('\t', '\t'), (' ', ' ')]
  | "cntrl" => set [('\x00', '\x1f'), ('\x7f', '\x7f')]
  | "digit" => set [('0', '9')]
  | "graph" => set [('!', '~')]
  | "lower" => set [('a', 'z')]
  | "print" => set [(' ', '~')]
  | "punct" => set [('!', '/'), (':', '@'), ('[', '\x60'), ('\x7b', '~')]
  | "space" => set [('\t', '\r'), (' ', ' ')]
  | "upper" => set [('A', 'Z')]
  | "word" => set [('0', '9'), ('A', 'Z'), ('_', '_'), ('a', 'z')]
  | "xdigit" => set [('0', '9'), ('A', 'F'), ('a', 'f')]
  | _ => none

/-- A named ASCII class after its `[`. -/
def asciiClass (cs : List Char) : Option (ClassExpr × List Char) :=
  match cs with
  | ':' :: rest =>
    let (negated, rest) := match rest with
      | '^' :: rest => (true, rest)
      | rest => (false, rest)
    let name := rest.takeWhile (· != ':')
    match rest.drop name.length with
    | ':' :: ']' :: rest => (asciiClass? name).map fun set => (.ascii set negated, rest)
    | _ => none
  | _ => none

/-- An atom of a class: an escape or a character. -/
def classAtom (verbose : Bool) : List Char → Option (Atom × List Char)
  | [] => none
  | '\\' :: rest => escape verbose rest
  | c :: rest => some (.char ⟨c, false⟩, rest)

/-- The atom as an item of a class. Places cannot be members of a class. -/
def Atom.toItem? : Atom → Option ClassExpr
  | .char l => some (.char l)
  | .shorthand s negated => some (.shorthand s negated)
  | .property set negated => some (.property set negated)
  | .mark _ => none

/-- The atom as an end of a range. -/
def Atom.toLiteral? : Atom → Option Literal
  | .char l => some l
  | _ => none

/-- The character after a hyphen that decides whether the hyphen makes a range. In verbose mode
white space is passed over to find it, and one `#`, but not the comment that this begins. -/
def pastHyphen (verbose : Bool) (cs : List Char) : Option Char :=
  let seen := if !verbose then cs else
    match cs.dropWhile isWhiteSpace with
    | '#' :: rest => rest.dropWhile isWhiteSpace
    | rest => rest
  seen.head? <|> cs.head?

/-- An item of a class, or a range of two items. A hyphen before `]` or before another hyphen does
not make a range. -/
def classItem (verbose : Bool) (cs : List Char) : Option (ClassExpr × List Char) := do
  let (first, cs) ← classAtom verbose cs
  match blanks verbose cs with
  | [] => none
  | '-' :: rest =>
    let next := pastHyphen verbose rest
    if next = some ']' ∨ next = some '-' then
      return (← first.toItem?, '-' :: rest)
    let (last, rest) ← classAtom verbose (blanks verbose rest)
    let a ← first.toLiteral?
    let b ← last.toLiteral?
    if a.char ≤ b.char then return (.range a b, rest) else none
  | cs => return (← first.toItem?, cs)

/-- Leading hyphens of a class, latest first. -/
def leadingHyphens (verbose : Bool) : Nat → List ClassExpr → List Char →
    List ClassExpr × List Char
  | 0, acc, cs => (acc, cs)
  | fuel + 1, acc, cs =>
    match cs with
    | '-' :: rest => leadingHyphens verbose fuel (.char ⟨'-', false⟩ :: acc) (blanks verbose rest)
    | cs => (acc, cs)

/-- The beginning of a class after its `[`: whether it is negated, and the items that may only stand
here, which are hyphens or a closing bracket that stands for itself. -/
def classOpening (verbose : Bool) (cs : List Char) : Bool × List ClassExpr × List Char :=
  let (negated, cs) := match blanks verbose cs with
    | '^' :: rest => (true, blanks verbose rest)
    | cs => (false, cs)
  match leadingHyphens verbose cs.length [] cs with
  | ([], ']' :: rest) => (negated, [.char ⟨']', false⟩], blanks verbose rest)
  | (items, cs) => (negated, items, cs)

/-- The operator that has been read and its left side, if any. -/
abbrev PendingOp := Option (ClassOp × ClassExpr)

/-- Completes the pending operator with the items, which are given latest first. -/
def closeOp (pending : PendingOp) (items : List ClassExpr) : ClassExpr :=
  let right := ClassExpr.ofItems items.reverse
  match pending with
  | none => right
  | some (kind, left) => .op kind left right

/-- The rest of a class, with the items since the last operator, latest first. -/
def classBody (verbose : Bool) :
    Nat → PendingOp → List ClassExpr → List Char → Option (ClassExpr × List Char)
  | 0, _, _, _ => none
  | fuel + 1, pending, items, cs =>
    match blanks verbose cs with
    | [] => none
    | ']' :: rest => some (closeOp pending items, rest)
    | '&' :: '&' :: rest => classBody verbose fuel (some (.inter, closeOp pending items)) [] rest
    | '-' :: '-' :: rest => classBody verbose fuel (some (.diff, closeOp pending items)) [] rest
    | '~' :: '~' :: rest => classBody verbose fuel (some (.symmDiff, closeOp pending items)) [] rest
    | '[' :: rest =>
      match asciiClass rest with
      | some (item, rest) => classBody verbose fuel pending (item :: items) rest
      | none => do
        let (negated, first, rest) := classOpening verbose rest
        let (body, rest) ← classBody verbose fuel none first rest
        classBody verbose fuel pending (.bracketed negated body :: items) rest
    | cs => do
      let (item, rest) ← classItem verbose cs
      classBody verbose fuel pending (item :: items) rest

/-- A class after its `[`. -/
def bracketed (verbose : Bool) (cs : List Char) : Option (Expr × List Char) := do
  let (negated, items, rest) := classOpening verbose cs
  let (body, rest) ← classBody verbose (rest.length + 1) none items rest
  return (.bracketed negated body, rest)

/-! ## Groups -/

def flag? : Char → Option Flag
  | 'i' => some .caseInsensitive
  | 'm' => some .multiLine
  | 's' => some .dotAll
  | 'U' => some .swapGreed
  | 'u' => some .unicode
  | 'R' => some .crlf
  | 'x' => some .verbose
  | _ => none

/-- Flags up to a `:` or a `)`; the answer tells whether it was a `:`. A flag stands at most once, a
hyphen too, and the hyphen not at the end. -/
def flagChange (negated : Bool) (acc : FlagChange) :
    List Char → Option (FlagChange × Bool × List Char)
  | [] => none
  | ':' :: rest => some (acc.reverse, true, rest)
  | ')' :: rest => if acc.isEmpty then none else some (acc.reverse, false, rest)
  | '-' :: c :: rest =>
    if negated then none
    else do
      let f ← flag? c
      if acc.any (·.1 == f) then none else flagChange true ((f, false) :: acc) rest
  | c :: rest => do
    let f ← flag? c
    if acc.any (·.1 == f) then none else flagChange negated ((f, !negated) :: acc) rest

/-- The value that a change gives to verbose mode. -/
def verboseAfter (verbose : Bool) (change : FlagChange) : Bool :=
  match change.find? (·.1 == .verbose) with
  | some (_, on) => on
  | none => verbose

def isNameStart (c : Char) : Bool := c = '_' || Property.alphabetic.contains c

def isNamePart (c : Char) : Bool :=
  isNameStart c || number.contains c || c = '.' || c = '[' || c = ']'

/-- The name of a group, up to the closing angle bracket. -/
def groupName (cs : List Char) : Option (List Char × List Char) :=
  let name := cs.takeWhile (· != '>')
  match name, cs.drop name.length with
  | c :: part, _ :: rest =>
    if isNameStart c && part.all isNamePart then some (name, rest) else none
  | _, _ => none

/-- What an opening parenthesis opens. -/
inductive Opening where
  /-- Flags for the rest of the surrounding group. -/
  | flags (change : FlagChange)
  /-- A group, which captures if the place of what it matches is to be kept. -/
  | group (captures : Bool) (change : FlagChange) (name : Option (List Char))

/-- The beginning of a group after its `(`. Groups that look ahead or back are not accepted. -/
def groupOpening (verbose : Bool) (cs : List Char) : Option (Opening × List Char) :=
  match blanks verbose cs with
  | '?' :: '=' :: _ => none
  | '?' :: '!' :: _ => none
  | '?' :: '<' :: '=' :: _ => none
  | '?' :: '<' :: '!' :: _ => none
  | '?' :: 'P' :: '<' :: rest =>
    (groupName rest).map fun (n, rest) => (.group true [] (some n), rest)
  | '?' :: '<' :: rest => (groupName rest).map fun (n, rest) => (.group true [] (some n), rest)
  | '?' :: rest =>
    (flagChange false [] rest).map fun (change, isGroup, rest) =>
      (if isGroup then .group false change none else .flags change, rest)
  | cs => some (.group true [] none, cs)

/-! ## Patterns -/

/-- What can be repeated. -/
def isRepeatable : Expr → Bool
  | .empty | .flags _ => false
  | _ => true

/-- Repeats the item that was read last. -/
def repeatLast (lo : Nat) (hi : Option Nat) (greedy : Bool) : List Expr → Option (List Expr)
  | [] => none
  | x :: rest => if isRepeatable x then some (.repeated lo hi greedy x :: rest) else none

/-- The members since the last `|`, latest first, as one branch. -/
def closeBranch (items : List Expr) : Expr := .ofSequence items.reverse

/-- What has been read of a group: the finished branches and the members of the branch at hand, both
latest first. -/
structure Level where
  branches : List Expr := []
  items : List Expr := []

/-- The group as one pattern. -/
def Level.close (l : Level) : Expr := .ofBranches (closeBranch l.items :: l.branches).reverse

def Level.push (l : Level) (x : Expr) : Level := { l with items := x :: l.items }

def Atom.toExpr : Atom → Expr
  | .char l => .char l
  | .mark m => .mark m
  | .shorthand s negated => .shorthand s negated
  | .property set negated => .property set negated

/-- The rest of a group, up to its closing parenthesis or to the end of the pattern. Returns the
pattern, what is left and the names that have been given to groups. -/
def alternatives : Nat → Bool → List (List Char) → Level → List Char →
    Option (Expr × List Char × List (List Char))
  | 0, _, _, _, _ => none
  | fuel + 1, verbose, names, level, cs =>
    match blanks verbose cs with
    | [] => some (level.close, [], names)
    | ')' :: rest => some (level.close, ')' :: rest, names)
    | '|' :: rest =>
      alternatives fuel verbose names ⟨closeBranch level.items :: level.branches, []⟩ rest
    | '(' :: rest => do
      match ← groupOpening verbose rest with
      | (.flags change, rest) =>
        alternatives fuel (verboseAfter verbose change) names (level.push (.flags change)) rest
      | (.group captures change name, rest) =>
        if name.any names.contains then none
        let (body, rest, names) ← alternatives fuel (verboseAfter verbose change)
          (name.toList ++ names) {} rest
        match rest with
        | ')' :: rest =>
          alternatives fuel verbose names (level.push (.group captures change body)) rest
        | _ => none
    | '[' :: rest => do
      let (x, rest) ← bracketed verbose rest
      alternatives fuel verbose names (level.push x) rest
    | '?' :: rest => do
      let (greedy, rest) := laziness rest
      alternatives fuel verbose names ⟨level.branches, ← repeatLast 0 (some 1) greedy level.items⟩ rest
    | '*' :: rest => do
      let (greedy, rest) := laziness rest
      alternatives fuel verbose names ⟨level.branches, ← repeatLast 0 none greedy level.items⟩ rest
    | '+' :: rest => do
      let (greedy, rest) := laziness rest
      alternatives fuel verbose names ⟨level.branches, ← repeatLast 1 none greedy level.items⟩ rest
    | '{' :: rest => do
      let (lo, hi, greedy, rest) ← counts verbose rest
      alternatives fuel verbose names ⟨level.branches, ← repeatLast lo hi greedy level.items⟩ rest
    | '\\' :: rest => do
      let (a, rest) ← escape verbose rest
      alternatives fuel verbose names (level.push a.toExpr) rest
    | '.' :: rest => alternatives fuel verbose names (level.push .dot) rest
    | '^' :: rest => alternatives fuel verbose names (level.push (.mark .lineStart)) rest
    | '$' :: rest => alternatives fuel verbose names (level.push (.mark .lineEnd)) rest
    | c :: rest => alternatives fuel verbose names (level.push (.char ⟨c, false⟩)) rest

end Read

/-- Reads a pattern. -/
def Expr.read? (text : List Char) : Option Expr := do
  match ← Read.alternatives (text.length + 1) false [] {} text with
  | (e, [], _) => if e.depth ≤ maxDepth then some e else none
  | _ => none

end Polyglot.Pattern
