/-!
# Sets of characters

A set of characters is kept as blocks of consecutive code points, in rising order and with a gap
between any two neighbours. The tables of character properties, the bracketed classes of patterns
and the letters that a case-insensitive pattern accepts are all sets of this kind.

Membership reads the blocks from the left and stops at the first block that starts beyond the
character, so asking for an ASCII character is quick in every table.
-/

namespace Polyglot.Unicode

/-- The code points from `first` to `last`, both included. -/
structure Block where
  first : Nat
  last : Nat
deriving DecidableEq, Inhabited

/-- A set of characters: blocks in rising order, no two of them touching. -/
structure CharSet where
  blocks : List Block
deriving DecidableEq, Inhabited

/-- The last code point there is. -/
def lastCode : Nat := 0x10ffff

namespace Block

/-- Some block of a rising list holds the code point `n`. -/
def holds (n : Nat) : List Block → Bool
  | [] => false
  | b :: rest => if n < b.first then false else n ≤ b.last || holds n rest

/-- Adds a block to a rising list, merging it with every block that it overlaps or touches. -/
def insert (b : Block) : List Block → List Block
  | [] => [b]
  | c :: rest =>
    if b.last + 1 < c.first then b :: c :: rest
    else if c.last + 1 < b.first then c :: insert b rest
    else insert ⟨min b.first c.first, max b.last c.last⟩ rest

/-- What a rising list leaves out of the code points from `next` on. -/
def gaps (next : Nat) : List Block → List Block
  | [] => if next ≤ lastCode then [⟨next, lastCode⟩] else []
  | b :: rest =>
    if next < b.first then ⟨next, b.first - 1⟩ :: gaps (b.last + 1) rest
    else gaps (b.last + 1) rest

end Block

namespace CharSet

/-- The set holds the character. -/
def contains (s : CharSet) (c : Char) : Bool := Block.holds c.toNat s.blocks

def empty : CharSet := ⟨[]⟩

/-- The characters from `first` to `last`, both included. -/
def range (first last : Char) : CharSet := ⟨[⟨first.toNat, last.toNat⟩]⟩

def single (c : Char) : CharSet := range c c

/-- Every character. -/
def all : CharSet := ⟨[⟨0, lastCode⟩]⟩

def union (s t : CharSet) : CharSet := ⟨t.blocks.foldl (fun acc b => Block.insert b acc) s.blocks⟩

def complement (s : CharSet) : CharSet := ⟨Block.gaps 0 s.blocks⟩

def inter (s t : CharSet) : CharSet := (s.complement.union t.complement).complement

def diff (s t : CharSet) : CharSet := s.inter t.complement

/-- The characters that are in exactly one of the two sets. -/
def symmDiff (s t : CharSet) : CharSet := (s.union t).diff (s.inter t)

/-- The set of the listed characters. -/
def ofList (cs : List Char) : CharSet := cs.foldl (fun s c => s.union (single c)) empty

/-- Every character of the set is an ASCII character. -/
def isAscii (s : CharSet) : Bool := s.blocks.all fun b => b.last < 128

@[simp] theorem contains_empty (c : Char) : empty.contains c = false := rfl

@[simp] theorem contains_range (a b c : Char) :
    (range a b).contains c = (decide (a.toNat ≤ c.toNat) && decide (c.toNat ≤ b.toNat)) := by
  simp only [contains, range, Block.holds]
  split <;> simp <;> omega

@[simp] theorem contains_single (a c : Char) : (single a).contains c = (c == a) := by
  rw [single, contains_range]
  by_cases h : c = a
  · subst h; simp
  · have : c.toNat ≠ a.toNat := fun e => h (Char.toNat_inj.mp e)
    have hne : (c == a) = false := by simp [h]
    rw [hne]
    simp only [Bool.and_eq_false_iff, decide_eq_false_iff_not]
    omega

theorem lt_of_contains_isAscii {s : CharSet} {c : Char} (ha : s.isAscii) (hc : s.contains c) :
    c.toNat < 128 := by
  obtain ⟨blocks⟩ := s
  simp only [isAscii, contains] at ha hc
  induction blocks with
  | nil => cases hc
  | cons b rest ih =>
    simp only [List.all_cons, Bool.and_eq_true, decide_eq_true_eq] at ha
    rw [Block.holds] at hc
    split at hc
    · cases hc
    · rcases Bool.or_eq_true .. ▸ hc with hc | hc
      · have := of_decide_eq_true hc
        omega
      · exact ih ha.2 hc

/-! ### Written tables -/

/-- A table in the course of being read: the finished blocks, latest first, the first code point
of the block at hand once its `+` has been read, and the number at hand. -/
structure Reading where
  done : List Block := []
  first : Option Nat := none
  number : Nat := 0

/-- The value of a lower-case hexadecimal digit. -/
def hexValue (c : Char) : Nat :=
  if c.toNat < 0x3a then c.toNat - 0x30 else c.toNat - 0x57

/-- Takes the number at hand as the end of the block at hand. -/
def Reading.close (r : Reading) : Reading :=
  match r.first with
  | none => ⟨⟨r.number, r.number⟩ :: r.done, none, 0⟩
  | some first => ⟨⟨first, first + r.number⟩ :: r.done, none, 0⟩

def Reading.step (r : Reading) (c : Char) : Reading :=
  if c = ' ' then r.close
  else if c = '+' then { r with first := some r.number, number := 0 }
  else { r with number := 16 * r.number + hexValue c }

/-- Reads the lines of a written table: blocks in rising order, separated by blanks and line ends,
each the hexadecimal code point of its first character and, after a `+`, how many more characters
follow it. -/
def ofTable (lines : List String) : CharSet :=
  let read (r : Reading) (line : String) := (line.toList.foldl Reading.step r).close
  ⟨(lines.foldl read {}).done.reverse⟩

end CharSet

end Polyglot.Unicode
