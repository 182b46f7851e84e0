/-!
Digits in bases up to sixteen. Letters of either case stand for the digits from ten on.
-/
namespace SiteDesk.Text

def hexValue? (c : Char) : Option Nat :=
  if c.isDigit then some (c.toNat - '0'.toNat)
  else if 'a' ≤ c ∧ c ≤ 'f' then some (c.toNat - 'a'.toNat + 10)
  else if 'A' ≤ c ∧ c ≤ 'F' then some (c.toNat - 'A'.toNat + 10)
  else none

def isDigitIn (base : Nat) (c : Char) : Bool :=
  ((hexValue? c).map fun value => decide (value < base)).getD false

def isHexDigit (c : Char) : Bool :=
  isDigitIn 16 c

def valueIn (base : Nat) (digits : List Char) : Nat :=
  digits.foldl (fun n c => n * base + (hexValue? c).getD 0) 0

end SiteDesk.Text
