import SiteDesk.Number.Shortest

/-!
Numbers of a JSON text. A literal without point and exponent that fits 64 bits is an integer; any
other is a floating-point number, read from at most the first digits that fit an unsigned 64-bit
word and one power of ten.
-/
namespace SiteDesk.Json

inductive Number where
  | integer (value : Int)
  | float (value : Double)
  deriving DecidableEq, Repr, Inhabited

/-- A number literal taken apart; the exponent is absent when none was written. -/
structure Literal where
  negative : Bool
  whole : List Nat
  fraction : Option (List Nat)
  exponent : Option Int
  deriving Repr

namespace Literal

def maxWord : Nat := Nat.pow 2 64 - 1

/-- Reads digits before the point while the significand fits a word; every digit after the first
that does not fit counts as a power of ten. -/
def absorbWhole : Nat → Nat → List Nat → Nat × Nat
  | significand, dropped, [] => (significand, dropped)
  | significand, dropped, d :: rest =>
    if dropped = 0 && significand * 10 + d ≤ maxWord then
      absorbWhole (significand * 10 + d) 0 rest
    else absorbWhole significand (dropped + 1) rest

/-- Reads digits after the point while the significand fits a word; the others are ignored. -/
def absorbFraction : Nat → Int → List Nat → Nat × Int
  | significand, scale, [] => (significand, scale)
  | significand, scale, d :: rest =>
    if significand * 10 + d ≤ maxWord then
      absorbFraction (significand * 10 + d) (scale - 1) rest
    else (significand, scale)

/-- The digits that are kept, and the power of ten they are scaled by. -/
def scaled (literal : Literal) : Nat × Int :=
  let (significand, dropped) := absorbWhole 0 0 literal.whole
  let (significand, scale) := absorbFraction significand dropped (literal.fraction.getD [])
  (significand, scale + literal.exponent.getD 0)

def maxStep : Nat := 308

/-- `significand · 10 ^ scale`, rounded at each step; none when it is too large. A scale below the
least power is applied in two steps, and below twice that leaves zero. -/
def magnitude (significand : Nat) (scale : Int) : Option Double := do
  let whole ← Double.ofNat significand
  if whole.isZero then return whole
  if 0 ≤ scale then
    if scale ≤ maxStep then whole.mul (← Double.powerOfTen scale.toNat) else none
  else
    let below := (-scale).toNat
    if below ≤ maxStep then whole.div (← Double.powerOfTen below)
    else if below ≤ 2 * maxStep then
      let reduced ← whole.div (← Double.powerOfTen maxStep)
      reduced.div (← Double.powerOfTen (below - maxStep))
    else return Double.zero false

/-- The number a literal denotes; none when it is out of range. -/
def value? (literal : Literal) : Option Number :=
  let (significand, dropped) := absorbWhole 0 0 literal.whole
  let isWhole := literal.fraction.isNone && literal.exponent.isNone && dropped = 0
  if isWhole && !literal.negative then some (.integer significand)
  else if isWhole && significand ≠ 0 && decide (significand ≤ Nat.pow 2 63) then
    some (.integer (-significand))
  else
    let (significand, scale) := literal.scaled
    (magnitude significand scale).map fun x => .float (x.withSign literal.negative)

end Literal

namespace Number

/-- How a floating-point number is laid out: leading-digit exponents in this range are written
with a point, all others with an exponent. -/
def positionalFrom : Int := -5

def positionalTo : Int := 15

/-- Digits with leading-digit exponent `e`, written with a point and at least one digit on each
side of it. -/
def positional (digits : List Char) (e : Int) : List Char :=
  if e < 0 then ['0', '.'] ++ List.replicate (-e - 1).toNat '0' ++ digits
  else
    let count := e.toNat + 1
    let whole := digits.take count
    let fraction := digits.drop count
    whole ++ List.replicate (count - whole.length) '0' ++ ['.'] ++
      (if fraction.isEmpty then ['0'] else fraction)

/-- Digits with leading-digit exponent `e`, written with that exponent and its sign. -/
def scientific (digits : List Char) (e : Int) : List Char :=
  let mantissa := match digits with
    | d :: rest@(_ :: _) => d :: '.' :: rest
    | _ => digits
  mantissa ++ ['e', if e < 0 then '-' else '+'] ++ Nat.toDigits 10 e.natAbs

def floatText (x : Double) : List Char :=
  let body :=
    if x.isZero then positional ['0'] 0
    else
      let (digits, e) := x.shortest
      if positionalFrom ≤ e ∧ e ≤ positionalTo then positional digits e else scientific digits e
  if x.negative then '-' :: body else body

def integerText (n : Int) : List Char :=
  if n < 0 then '-' :: Nat.toDigits 10 n.natAbs else Nat.toDigits 10 n.natAbs

def text : Number → List Char
  | .integer n => integerText n
  | .float x => floatText x

def asNat? : Number → Option Nat
  | .integer (.ofNat n) => some n
  | _ => none

end Number

end SiteDesk.Json
