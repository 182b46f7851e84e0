
/-!
Finite 64-bit floating-point numbers as a sign, a significand and a power of two. A positive
fraction is rounded to the nearest of them, a tie going to the even significand; products and
quotients are rounded the same way.
-/
namespace SiteDesk

structure Double where
  negative : Bool
  significand : Nat
  exponent : Int
  deriving DecidableEq, Repr, Inhabited

namespace Double

/-- Least power of two, shared by zero and the subnormal numbers. -/
def minExponent : Int := -1074

def maxExponent : Int := 971

def zero (negative : Bool) : Double :=
  ⟨negative, 0, minExponent⟩

def isZero (x : Double) : Bool :=
  x.significand = 0

def withSign (negative : Bool) (x : Double) : Double :=
  { x with negative }

/-- The integer nearest to a fraction, the even one of two. -/
def roundDiv (num den : Nat) : Nat :=
  let floor := num / den
  let rest := num % den
  if 2 * rest < den then floor
  else if den < 2 * rest then floor + 1
  else floor + floor % 2

def scaleDown (num den : Nat) (exponent : Int) : Nat × Nat :=
  (num * Nat.pow 2 (-exponent).toNat, den * Nat.pow 2 exponent.toNat)

/-- The power of two at which a positive fraction has 53 binary digits, but never below the
least. -/
def exponentFor (num den : Nat) : Int :=
  let guess := max ((num.log2 : Int) - den.log2 - 53) minExponent
  let (n, d) := scaleDown num den guess
  if n < d * Nat.pow 2 53 then guess else guess + 1

/-- The positive number nearest to a fraction; none when that lies beyond the largest. -/
def ofFraction (num den : Nat) : Option Double :=
  if num = 0 then some (zero false) else
    let exponent := exponentFor num den
    let (n, d) := scaleDown num den exponent
    let rounded := roundDiv n d
    let (significand, exponent) :=
      if rounded = Nat.pow 2 53 then (Nat.pow 2 52, exponent + 1) else (rounded, exponent)
    if maxExponent < exponent then none else some ⟨false, significand, exponent⟩

def ofNat (n : Nat) : Option Double :=
  ofFraction n 1

def numerator (x : Double) : Nat :=
  x.significand * Nat.pow 2 x.exponent.toNat

def denominator (x : Double) : Nat :=
  Nat.pow 2 (-x.exponent).toNat

def mul (x y : Double) : Option Double :=
  ofFraction (x.numerator * y.numerator) (x.denominator * y.denominator)

def div (x y : Double) : Option Double :=
  ofFraction (x.numerator * y.denominator) (x.denominator * y.numerator)

def powerOfTen (n : Nat) : Option Double :=
  ofNat (Nat.pow 10 n)

end SiteDesk.Double
