import SiteDesk.Number.Double

/-!
Shortest decimal digits of a floating-point number: the fewest digits that read back to it, and of
those the nearest to its value. The candidates of each length are the two neighbours of the value
on the decimal grid of that length.
-/
namespace SiteDesk.Double

/-- Four times the magnitudes that bound the numbers which round to `x`, over a common
denominator. Below a power of two the gap is half as wide. -/
structure Bounds where
  low : Nat
  value : Nat
  high : Nat
  den : Nat
  closed : Bool

/-- The bounds of a positive number; both ends round to it iff its significand is even. -/
def bounds (x : Double) : Bounds :=
  let unit := Nat.pow 2 x.exponent.toNat
  let below :=
    if x.significand = Nat.pow 2 52 && decide (minExponent < x.exponent) then 1 else 2
  { low := (4 * x.significand - below) * unit
    value := 4 * x.significand * unit
    high := (4 * x.significand + 2) * unit
    den := 4 * x.denominator
    closed := x.significand % 2 = 0 }

/-- Whether `n · 10 ^ scale` rounds to the number with these bounds. -/
def Bounds.admits (b : Bounds) (n : Nat) (scale : Int) : Bool :=
  let left := n * Nat.pow 10 scale.toNat * b.den
  let ten := Nat.pow 10 (-scale).toNat
  if b.closed then b.low * ten ≤ left && left ≤ b.high * ten
  else b.low * ten < left && left < b.high * ten

/-- The nearest neighbour of the value on the grid of `10 ^ scale` that reads back, if one does;
of two equally near the even one. -/
def Bounds.nearest? (b : Bounds) (scale : Int) : Option Nat :=
  let num := b.value * Nat.pow 10 (-scale).toNat
  let den := b.den * Nat.pow 10 scale.toNat
  let floor := num / den
  let below := b.admits floor scale && floor ≠ 0
  let above := b.admits (floor + 1) scale
  if below && above then some (roundDiv num den)
  else if below then some floor
  else if above then some (floor + 1)
  else none

/-- Number of decimal digits before the point, less one, of a positive fraction. -/
def decimalExponent (num den : Nat) : Int :=
  if den ≤ num then ((Nat.toDigits 10 (num / den)).length : Int) - 1
  else
    let guess := (Nat.toDigits 10 (den / num)).length
    if den ≤ num * Nat.pow 10 (guess - 1) then 1 - (guess : Int) else -(guess : Int)

/-- The first grid with a neighbour that reads back, from the coarsest of `count` grids. -/
def Bounds.search (b : Bounds) (top : Int) : Nat → Nat → Nat × Int
  | _, 0 => (0, 0)
  | length, count + 1 =>
    let scale := top - length
    match b.nearest? scale with
    | some n => (n, scale)
    | none => b.search top (length + 1) count

def dropTrailingZeros (digits : List Char) : List Char :=
  (digits.reverse.dropWhile (· = '0')).reverse

/-- Shortest digits `d₁d₂…` of a positive number and the exponent of its leading digit, so that
the value read back is `d₁.d₂… · 10 ^ e`. -/
def shortest (x : Double) : List Char × Int :=
  let b := x.bounds
  let top := decimalExponent b.value b.den
  let (n, scale) := b.search top 0 18
  let digits := Nat.toDigits 10 n
  (dropTrailingZeros digits, scale + digits.length - 1)

end SiteDesk.Double
