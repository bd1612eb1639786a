/-!
# Shortest decimals

A floating-point number stands for an interval of reals, which are those that are rounded to it. The
decimals that are multiples of one power of ten form a grid. The coarsest grid that has a point in
the interval has the decimals with the fewest digits, and of these the one nearest to the number is
its shortest decimal. If two are equally near, the even one is taken.

All comparisons are between natural numbers, so nothing is rounded on the way.
-/

namespace Polyglot.Decimal

/-- The number `significand * 2 ^ exponent`, as one of the floating-point numbers. -/
structure Binary where
  significand : Nat
  exponent : Int
  /-- The number below is only half as far away as the number above. -/
  narrowBelow : Bool
deriving DecidableEq, Inhabited

/-- The number `significand * 10 ^ exponent`. -/
structure Scientific where
  significand : Nat
  exponent : Int
deriving DecidableEq, Inhabited

/-- The leading bit of a significand, which is stored for none of the numbers. -/
def hiddenBit : Nat := 0x10000000000000

/-- The size of the floating-point number with these 64 bits, without its sign. -/
def Binary.ofBits (bits : UInt64) : Binary :=
  let biased : Nat := bits.toNat / hiddenBit % 2048
  let fraction : Nat := bits.toNat % hiddenBit
  if biased = 0 then ⟨fraction, -1074, false⟩
  else ⟨hiddenBit + fraction, (biased : Int) - 1075, fraction = 0 && 1 < biased⟩

/-- The multiple of `10 ^ k` that is rounded to the number and is nearest to it, if there is one. A
real half-way between two numbers is rounded to the one with the even significand. -/
def Binary.onGrid? (b : Binary) (k : Int) : Option Nat :=
  -- The ends of the interval are multiples of a quarter of the last binary place.
  let place := b.exponent - 2
  let up := (1 <<< place.toNat) * Nat.pow 10 (-k).toNat
  let down := (1 <<< (-place).toNat) * Nat.pow 10 k.toNat
  let value := 4 * b.significand * up
  let low := (4 * b.significand - if b.narrowBelow then 1 else 2) * up
  let high := (4 * b.significand + 2) * up
  let inside (n : Nat) : Bool :=
    if b.significand % 2 = 0 then low ≤ n * down && n * down ≤ high
    else low < n * down && n * down < high
  let n := value / down
  match inside n, inside (n + 1) with
  | true, true =>
    let below := value - n * down
    let above := (n + 1) * down - value
    some (if below < above ∨ (below = above ∧ n % 2 = 0) then n else n + 1)
  | true, false => some n
  | false, true => some (n + 1)
  | false, false => none

/-- The point on the coarsest of the grids from `10 ^ k` down, of which `count` are tried. -/
def Binary.shortestFrom (b : Binary) : (count : Nat) → (k : Int) → Scientific
  | 0, k => ⟨0, k⟩
  | count + 1, k =>
    match b.onGrid? k with
    | some n => ⟨n, k⟩
    | none => b.shortestFrom count (k - 1)

/-- The shortest decimal of a number that is not zero. No number reaches `10 ^ 309`, and on the grid
of `10 ^ (-324)` there is a point for every number. -/
def Binary.shortest (b : Binary) : Scientific := b.shortestFrom 634 309

/-! ## Layout -/

/-- Where a decimal is written out in full. Beyond these ends it is written with an exponent. -/
structure Layout where
  /-- The least exponent of the first digit. -/
  plainFrom : Int
  /-- The greatest exponent of the first digit. -/
  plainTo : Int
deriving DecidableEq, Inhabited

/-- The digits of a number. -/
def digitsOf (n : Nat) : List Char := Nat.toDigits 10 n

def zeros (n : Nat) : List Char := .replicate n '0'

/-- Writes a decimal, with at least one digit after a point or else an exponent with its sign. -/
def Layout.write (layout : Layout) (d : Scientific) : List Char :=
  let ds := digitsOf d.significand
  let first := d.exponent + ds.length - 1
  if layout.plainFrom ≤ first ∧ first ≤ layout.plainTo then
    if 0 ≤ d.exponent then ds ++ zeros d.exponent.toNat ++ ['.', '0']
    else if 0 ≤ first then
      ds.take (first + 1).toNat ++ ['.'] ++ ds.drop (first + 1).toNat
    else ['0', '.'] ++ zeros (-first - 1).toNat ++ ds
  else
    let point := if ds.length = 1 then [] else ['.']
    ds.take 1 ++ point ++ ds.drop 1 ++ ['e', if first < 0 then '-' else '+'] ++
      digitsOf first.natAbs

end Polyglot.Decimal
