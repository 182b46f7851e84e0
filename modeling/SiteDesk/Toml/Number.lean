import SiteDesk.Text.Digit
import SiteDesk.Toml.Scan
import SiteDesk.Toml.Table

/-!
Numbers and points in time. An integer fits 64 bits with a sign; a floating-point number is not so
large that it rounds to infinity; the parts of a date and of a time of day are within their ranges.
-/
namespace SiteDesk.Toml

open Scan Text

/-- Digits with single underscores between them, within a number of steps. -/
def digitsWithin (base : Nat) : Nat → Scan (List Char)
  | 0 => failure
  | steps + 1 => do
    let run ← some1 (isDigitIn base)
    if (← peek) = some '_' then
      char '_'
      return run ++ (← digitsWithin base steps)
    else return run

def digits (base : Nat) : Scan (List Char) := do
  digitsWithin base (← steps)

def sign : Scan (List Char) :=
  orEmpty (markOf ['+', '-'])

/-- Decimal digits that do not start with a zero, or a lone zero. -/
def whole : Scan (List Char) := do
  if (← peek) = some '0' then mark '0' else digits 10

def fits (n : Int) : Bool :=
  -(Nat.pow 2 63 : Int) ≤ n && n < Nat.pow 2 63

def basedInteger (letter : Char) (base : Nat) : Scan Value := do
  word ['0', letter]
  let n := valueIn base (← digits base)
  require (fits n)
  return .integer n

def decimalInteger : Scan Value := do
  let sign ← sign
  let n : Int := valueIn 10 (← whole)
  let n := if sign = ['-'] then -n else n
  require (fits n)
  return .integer n

def integer : Scan Value :=
  basedInteger 'x' 16 <|> basedInteger 'o' 8 <|> basedInteger 'b' 2 <|> decimalInteger

/-- Least number that rounds to infinity: half a unit above the largest double. -/
def infinityFrom : Nat := (Nat.pow 2 54 - 1) * Nat.pow 2 970

/-- Whether digits with a decimal point after the first `point` of them, times a power of ten, reach
infinity. Beyond the first condition the power is small. -/
def reachesInfinity (digits : List Char) (point : Nat) (power : Int) : Bool :=
  let leading := (digits.takeWhile (· = '0')).length
  let exponent := power + point - leading
  if leading = digits.length || exponent < 309 then false
  else if 309 < exponent then true
  else
    let scale := power + point - digits.length
    let n := valueIn 10 digits
    if 0 ≤ scale then infinityFrom ≤ n * Nat.pow 10 scale.toNat
    else infinityFrom * Nat.pow 10 (-scale).toNat ≤ n

def exponent : Scan (List Char × List Char) := do
  let _ ← markOf ['e', 'E']
  return (← sign, ← digits 10)

def decimalFloat : Scan Value := do
  let sign ← sign
  let whole ← whole
  let fraction ← orEmpty (do char '.'; digits 10)
  let (powerSign, power) ← exponent <|> pure ([], [])
  require (!fraction.isEmpty || !power.isEmpty)
  let size : Int := valueIn 10 power
  let scale := if powerSign = ['-'] then -size else size
  require (sign = ['-'] || !reachesInfinity (whole ++ fraction) whole.length scale)
  let point := if fraction.isEmpty then [] else '.' :: fraction
  let tail := if power.isEmpty then [] else 'e' :: powerSign ++ power
  return .float (String.ofList (sign ++ whole ++ point ++ tail))

def specialFloat : Scan Value := do
  let sign ← sign
  let name := ['i', 'n', 'f']
  (do word name; return .float (String.ofList (sign ++ name))) <|> do
    let name := ['n', 'a', 'n']
    word name
    return .float (String.ofList (sign ++ name))

def float : Scan Value :=
  decimalFloat <|> specialFloat

def fixed (count low high : Nat) : Scan (List Char) := do
  let digits := (← get).take count
  require (digits.length = count && digits.all Char.isDigit)
  set ((← get).drop count)
  let n := valueIn 10 digits
  require (low ≤ n && n ≤ high)
  return digits

def lastDay (year month : Nat) : Nat :=
  if month = 2 then
    if year % 4 = 0 && (year % 100 ≠ 0 || year % 400 = 0) then 29 else 28
  else if month = 4 || month = 6 || month = 9 || month = 11 then 30 else 31

def date : Scan (List Char) := do
  let year ← fixed 4 0 9999
  char '-'
  let month ← fixed 2 1 12
  char '-'
  let day ← fixed 2 1 (lastDay (valueIn 10 year) (valueIn 10 month))
  return year ++ '-' :: month ++ '-' :: day

/-- A time of day; the seconds may have a fraction. -/
def timeOfDay : Scan (List Char) := do
  let hour ← fixed 2 0 23
  char ':'
  let minute ← fixed 2 0 59
  char ':'
  let second ← fixed 2 0 60
  let fraction ← orEmpty (do return '.' :: (← do char '.'; some1 Char.isDigit))
  return hour ++ ':' :: minute ++ ':' :: second ++ fraction

def offset : Scan (List Char) :=
  markOf ['Z', 'z'] <|> do
    let sign ← markOf ['+', '-']
    let hour ← fixed 2 0 23
    char ':'
    let minute ← fixed 2 0 59
    return sign ++ hour ++ ':' :: minute

/-- What may follow a date: a time of day, perhaps with an offset. -/
def afterDate : Scan (List Char) := do
  let between ← markOf ['T', 't', ' ']
  let time ← timeOfDay
  return between ++ time ++ (← orEmpty offset)

def time : Scan Value := do
  let text ← (do return (← date) ++ (← orEmpty afterDate)) <|> timeOfDay
  return .time (String.ofList text)

def timeOrNumber : Scan Value :=
  time <|> float <|> integer

end SiteDesk.Toml
