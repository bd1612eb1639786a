import Polyglot.Pattern.Assertion
import Polyglot.Unicode.Encoding

/-!
# The size of patterns

A pattern is accepted only if its automata are small enough. Their builder works on bytes, is given
the pattern in a simpler shape, and makes two automata of it, one for either direction: a search
goes forward to the end of a match, and back from there to its beginning. It is the states of these
two that are counted here, not the steps of the automata that this library runs.

Counts stay counts in a shape, so a shape is never much longer than its pattern. Every state takes
the same room, and a state with several ways out takes some more for each of them. The builder
shares states between the encodings of a set as far as it remembers them, and forgets some of them
in very large sets. Here it forgets none.
-/

namespace Polyglot.Pattern

open Polyglot.Unicode

/-- The direction in which an automaton reads a text. -/
inductive Direction where
  | forward
  | backward
deriving DecidableEq, Inhabited

/-- The bytes that one state takes. -/
def stateSize : Nat := 32

/-- What a way out adds to a state that has several of them. -/
def wayOutSize : Nat := 4

/-- What a way out by a range of bytes adds to a state that has several of them. -/
def rangeSize : Nat := 8

def totalSize (sizes : List Nat) : Nat := sizes.foldl (· + ·) 0

/-- A state with several ways out. -/
def forkSize (ways : Nat) : Nat := stateSize + wayOutSize * ways

/-- A state with several ways out by ranges of bytes. -/
def switchSize (ways : Nat) : Nat := stateSize + rangeSize * ways

/-! ## Sets and words -/

/-- The states for one character of the set, with one to end at. Beyond ASCII it is decided byte by
byte. Forward, places that leave the same bytes to come are one state, and backward, the bytes that
encodings have in common at their beginning are read by the same states. -/
def setSize (d : Direction) (s : CharSet) : Nat :=
  if s.isAscii then switchSize s.blocks.length + stateSize
  else
    let rows := s.rows
    match d with
    | .forward =>
      let places := (Row.remainders 4 rows).eraseDups
      totalSize (places.map fun left => switchSize (Row.byFirst left).length) + stateSize
    | .backward =>
      let added := List.zipWith Row.added ([] :: rows) rows
      forkSize rows.length + stateSize * totalSize added + stateSize

/-- The bytes of a word in the order in which they are read. -/
def bytesOfWord (d : Direction) (word : List Char) : List UInt8 :=
  let bytes := word.flatMap String.utf8EncodeChar
  match d with
  | .forward => bytes
  | .backward => bytes.reverse

/-- The words before, between and after those that are empty. -/
def stretches : List (List UInt8) → List (List (List UInt8))
  | [] => [[]]
  | word :: rest =>
    if word.isEmpty then [] :: stretches rest
    else
      match stretches rest with
      | first :: later => (word :: first) :: later
      | [] => [[word]]

/-- The states for a choice of words up to the given length, which share their beginnings. An empty
word is a way out to the end. It keeps the words after it apart from those before it, and only the
first one counts if there are none before it. -/
def choiceSize : (length : Nat) → List (List UInt8) → Nat
  | 0, _ => 0
  | length + 1, words =>
    let rest := words.dropWhile List.isEmpty
    if rest.isEmpty then 0
    else
      let parts := stretches rest
      let ends := (if words.head? = some [] then 1 else 0) + (parts.length - 1)
      let parts := parts.filter (!·.isEmpty)
      let sizes := parts.map fun part =>
        let firsts := (part.filterMap List.head?).eraseDups
        let later := firsts.map fun b =>
          choiceSize length (part.filterMap fun w => if w.head? = some b then w.tail? else none)
        (if firsts.length = 1 then stateSize else switchSize firsts.length) + totalSize later
      forkSize (ends + parts.length) + totalSize sizes

/-! ## Shapes -/

/-- A pattern as the builder is given it. The branches of a choice are no choices themselves, and
the members of a sequence no sequences. -/
inductive Shape where
  | empty
  | word (cs : List Char)
  /-- A choice of words. -/
  | words (ws : List (List Char))
  | set (s : CharSet)
  | assert (a : Assertion)
  /-- A group whose place in the text is kept. -/
  | capture (body : Shape)
  | turns (lo : Nat) (hi : Option Nat) (greedy : Bool) (body : Shape)
  /-- A member of a sequence and the members after it. -/
  | cat (first rest : Shape)
  /-- A branch of a choice and the branches after it. -/
  | alt (first rest : Shape)
deriving DecidableEq, Inhabited

namespace Shape

/-- Every match has at least one character. -/
def consumes : Shape → Bool
  | empty | assert _ => false
  | word _ | words _ | set _ => true
  | capture x => x.consumes
  | turns lo _ _ x => x.consumes && 0 < lo
  | cat x y => x.consumes || y.consumes
  | alt x y => x.consumes && y.consumes

/-- No match has any character. -/
def isVacuous : Shape → Bool
  | empty | assert _ => true
  | word _ | words _ | set _ => false
  | capture x | turns _ _ _ x => x.isVacuous
  | cat x y | alt x y => x.isVacuous && y.isVacuous

/-- Some group in it has its place kept. -/
def captures : Shape → Bool
  | empty | assert _ | word _ | words _ | set _ => false
  | capture _ => true
  | turns _ _ _ x => x.captures
  | cat x y | alt x y => x.captures || y.captures

/-! ### Simplification -/

/-- One character of a set. A set of one character is a word. -/
def one (s : CharSet) : Shape :=
  match s.blocks with
  | [⟨a, b⟩] => if a = b then word [.ofNat a] else set s
  | _ => set s

/-- One shape and then another. Words that meet are one word. -/
def append : Shape → Shape → Shape
  | empty, y => y
  | cat x rest, y => cat x (rest.append y)
  | word a, word b => word (a ++ b)
  | word a, cat (word b) rest => cat (word (a ++ b)) rest
  | x, empty => x
  | x, y => cat x y

/-- The members of a sequence. -/
def members : Shape → List Shape
  | empty => []
  | cat x y => x :: y.members
  | x => [x]

def ofMembers : List Shape → Shape
  | [] => empty
  | [x] => x
  | x :: rest => cat x (ofMembers rest)

/-- The branches of a choice. -/
def branches : Shape → List Shape
  | words ws => ws.map word
  | alt x y => x.branches ++ y.branches
  | x => [x]

def ofBranches : List Shape → Shape
  | [] => empty
  | [x] => x
  | x :: rest => alt x (ofBranches rest)

def word? : Shape → Option (List Char)
  | word cs => some cs
  | _ => none

/-- The character that a shape is. -/
def letter? : Shape → Option Char
  | word [c] => some c
  | _ => none

def set? : Shape → Option CharSet
  | set s => some s
  | _ => none

/-- The choice between the branches. Single characters make up a set, sets a larger set, and words
share their beginnings. -/
def choose (bs : List Shape) : Shape :=
  match bs.mapM letter?, bs.mapM set?, bs.mapM word? with
  | some cs, _, _ => one (.ofList cs)
  | _, some sets, _ => one (sets.foldl CharSet.union .empty)
  | _, _, some ws => words ws
  | none, none, none => ofBranches bs

/-- The members that two sequences have in common at their beginning. No two groups are the same if
their places are kept. -/
def sharedStart : List Shape → List Shape → List Shape
  | x :: xs, y :: ys => if x = y && !x.captures then x :: sharedStart xs ys else []
  | _, _ => []

/-- What all of the branches begin with, if all of them are sequences. -/
def commonStart (bs : List (List Shape)) : List Shape :=
  match bs with
  | [] => []
  | first :: rest => if bs.all (1 < ·.length) then rest.foldl sharedStart first else []

/-- The shape with its branches brought together, and what they begin with taken out. -/
def settled (x : Shape) : Shape :=
  match x.branches with
  | [x] => x
  | bs =>
    let start := commonStart (bs.map members)
    let rest := bs.map fun b => ofMembers (b.members.drop start.length)
    (ofMembers start).append (choose (rest.flatMap branches))

/-! ### Sizes -/

/-- The states for turns of something of the given size. A turn that may accept nothing takes a loop
of its own inside an optional one. -/
def turnsSize (consumes : Bool) (size lo : Nat) : Option Nat → Nat
  | none =>
    if lo = 0 && !consumes then size + 2 * forkSize 2 + stateSize
    else size * max lo 1 + forkSize 2
  | some hi =>
    if lo = 0 && hi = 1 then size + forkSize 2 + stateSize
    else if lo = hi then size * lo
    else (if lo = 0 then stateSize else size * lo) + (size + forkSize 2) * (hi - lo) + stateSize

/-- The bytes that the states for a shape take. -/
def size (d : Direction) : Shape → Nat
  | empty | assert _ => stateSize
  | word cs => stateSize * (bytesOfWord d cs).length
  | words ws =>
    let words := ws.map (bytesOfWord d)
    choiceSize ((words.map List.length).max?.getD 0) words + stateSize
  | set s => setSize d s
  | capture x =>
    match d with
    | .forward => x.size d + 2 * stateSize
    | .backward => x.size d
  | turns lo hi _ x => turnsSize x.consumes (x.size d) lo hi
  | cat x y => x.size d + y.size d
  | alt x y =>
    match y with
    | alt _ _ => wayOutSize + x.size d + y.size d
    | _ => forkSize 2 + x.size d + y.size d + stateSize

/-- A match can only begin where the text does, or end where it ends for the other direction. -/
def isAnchored (d : Direction) : Shape → Bool
  | empty | word _ | words _ | set _ => false
  | assert a =>
    match d with
    | .forward => a = .textStart
    | .backward => a = .textEnd
  | capture x => x.isAnchored d
  | turns lo _ _ x => 0 < lo && x.isAnchored d
  | cat x y =>
    match d with
    | .forward => x.isAnchored d || x.isVacuous && y.isAnchored d
    | .backward => y.isAnchored d || y.isVacuous && x.isAnchored d
  | alt x y => x.isAnchored d && y.isAnchored d

/-- The bytes that the whole automaton takes. It accepts in a state of its own, goes forward through
two states that note where a match begins and ends, and first passes over what comes before a match,
if anything can. -/
def automatonSize (d : Direction) (x : Shape) : Nat :=
  let skipping := if x.isAnchored d then stateSize else switchSize 1 + stateSize + forkSize 2
  let noting :=
    match d with
    | .forward => 2 * stateSize
    | .backward => 0
  skipping + noting + x.size d + stateSize

/-- The most bytes that an automaton may take. -/
def sizeLimit : Nat := 0x100000

/-- From so many words on, a choice of words is searched for without an automaton. -/
def manyWords : Nat := 3000

def isManyWords : Shape → Bool
  | words ws => manyWords ≤ ws.length
  | _ => false

/-- The states for the shape leave room for others. If they do not, then no shape of which this is a
part fits. -/
def leavesRoom (x : Shape) : Bool :=
  x.size .forward ≤ sizeLimit && x.size .backward ≤ sizeLimit

/-- The automata of the pattern are small enough, or it has none. -/
def fits (x : Shape) : Bool :=
  x.isManyWords ||
    (x.automatonSize .forward ≤ sizeLimit && x.automatonSize .backward ≤ sizeLimit)

end Shape

end Polyglot.Pattern
