import Polyglot.Unicode.CharSet

/-!
# Encoded sets

The UTF-8 encodings of the characters of a set, as rows of byte ranges. A row stands for the strings
that have a byte of each of its ranges, in order. A block of code points is cut where the number of
bytes changes, around the code points that are no characters, and then wherever the bytes at the
end do not run through all of their values.
-/

namespace Polyglot.Unicode

/-- Byte ranges, one for each byte of an encoding. -/
abbrev Row := List Block

/-- Code points whose encodings have the same length and the same mark in their first byte. -/
structure Zone where
  block : Block
  mark : Nat
  /-- How many bytes come after the first. -/
  tail : Nat

def zones : List Zone := [
  ⟨⟨0, 0x7f⟩, 0, 0⟩, ⟨⟨0x80, 0x7ff⟩, 0xc0, 1⟩, ⟨⟨0x800, 0xd7ff⟩, 0xe0, 2⟩,
  ⟨⟨0xe000, 0xffff⟩, 0xe0, 2⟩, ⟨⟨0x10000, lastCode⟩, 0xf0, 3⟩]

/-- The byte of a tail that holds the six bits. -/
def tailByte (bits : Nat) : Nat := 0x80 + bits

namespace Row

/-- The rows for the numbers from `a` to `b`, written with a marked first byte and a tail of the
given length. Numbers that have all but the last byte in common make up one row. Otherwise those
that share their bytes with `a` or `b` are set apart, unless the last byte has all its values. -/
def between (mark : Nat) : (tail a b : Nat) → List Row
  | 0, a, b => [[⟨mark + a, mark + b⟩]]
  | tail + 1, a, b =>
    let rows (first last low high : Nat) : List Row :=
      (between mark tail first last).map (· ++ [⟨tailByte low, tailByte high⟩])
    let (p, q, low, high) := (a / 64, b / 64, a % 64, b % 64)
    if p = q then rows p p low high
    else
      let inner := if low = 0 then p else p + 1
      let outer := if high = 63 then q + 1 else q
      (if low = 0 then [] else rows p p low 63) ++
        (if inner < outer then rows inner (outer - 1) 0 63 else []) ++
        (if high = 63 then [] else rows q q 0 high)

/-- The ranges that a row adds to the one before it, behind the beginning that the two share. -/
def added : (before row : Row) → Nat
  | a :: before, b :: row => if a = b then added before row else row.length + 1
  | _, row => row.length

/-- The rows by their first ranges: neighbours that begin alike are put together. -/
def byFirst : List Row → List (Block × List Row)
  | [] => []
  | [] :: rest => byFirst rest
  | (a :: row) :: rest =>
    match byFirst rest with
    | (b, rows) :: more =>
      if a = b then (a, row :: rows) :: more else (a, [row]) :: (b, rows) :: more
    | [] => [(a, [row])]

/-- What may be left of the rows at the places where some byte is still to come, to the given depth:
the rows themselves, and what their first ranges leave of them. -/
def remainders : (depth : Nat) → List Row → List (List Row)
  | 0, _ => []
  | depth + 1, rows =>
    match byFirst rows with
    | [] => []
    | groups => rows :: groups.flatMap fun g => remainders depth g.2

end Row

namespace CharSet

/-- The rows for the characters of a set, in rising order. -/
def rows (s : CharSet) : List Row :=
  s.blocks.flatMap fun b => zones.flatMap fun z =>
    let (first, last) := (max b.first z.block.first, min b.last z.block.last)
    if first ≤ last then Row.between z.mark z.tail first last else []

end CharSet

end Polyglot.Unicode
