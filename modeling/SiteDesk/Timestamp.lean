import SiteDesk.Text.Blank
import SiteDesk.Text.Digit

/-!
Points in time in UTC, to the nanosecond, and their text: date, `T`, time, as many groups of three
fractional digits as are needed, and `Z`. Reading also accepts other offsets, blanks between the
parts and numbers without leading zeros.
-/
namespace SiteDesk

/-- Seconds since the start of 1970 and nanoseconds within the second; a leap second counts its
nanoseconds from one thousand million on. -/
structure Timestamp where
  seconds : Int
  nanos : Nat
  deriving DecidableEq, Repr, Inhabited

namespace Timestamp

def isAtMost (a b : Timestamp) : Bool :=
  a.seconds < b.seconds || (a.seconds = b.seconds && a.nanos ≤ b.nanos)

def nanosPerSecond : Nat := 1000000000

/-- Days before a date since the start of 1970. Years are counted from March, so that a leap day is
the last of its year. -/
def daysOfDate (year : Int) (month day : Nat) : Int :=
  let year := if month ≤ 2 then year - 1 else year
  let era := Int.fdiv year 400
  let yearOfEra := Int.fmod year 400
  let monthFromMarch := (month + 9) % 12
  let dayOfYear := (153 * monthFromMarch + 2) / 5 + day - 1
  era * 146097 + (yearOfEra * 365 + yearOfEra / 4 - yearOfEra / 100 + dayOfYear) - 719468

/-- The year, month and day of a number of days since the start of 1970. -/
def dateOfDays (days : Int) : Int × Nat × Nat :=
  let shifted := days + 719468
  let era := Int.fdiv shifted 146097
  let dayOfEra := (Int.fmod shifted 146097).toNat
  let yearOfEra :=
    (dayOfEra - dayOfEra / 1460 + dayOfEra / 36524 - dayOfEra / 146096) / 365
  let dayOfYear := dayOfEra - (365 * yearOfEra + yearOfEra / 4 - yearOfEra / 100)
  let monthFromMarch := (5 * dayOfYear + 2) / 153
  let day := dayOfYear - (153 * monthFromMarch + 2) / 5 + 1
  let month := if monthFromMarch < 10 then monthFromMarch + 3 else monthFromMarch - 9
  let year := (yearOfEra : Int) + era * 400
  (if month ≤ 2 then year + 1 else year, month, day)

def isLeapYear (year : Int) : Bool :=
  Int.fmod year 4 = 0 && (Int.fmod year 100 ≠ 0 || Int.fmod year 400 = 0)

def daysInMonth (year : Int) (month : Nat) : Nat :=
  match month with
  | 2 => if isLeapYear year then 29 else 28
  | 4 | 6 | 9 | 11 => 30
  | _ => 31

/-- The decimal digits of a number, filled with zeros to a width. -/
def padded (width n : Nat) : List Char :=
  let digits := Nat.toDigits 10 n
  List.replicate (width - digits.length) '0' ++ digits

/-- A year: four digits, or a sign and at least four digits outside those. -/
def yearText (year : Int) : List Char :=
  if 0 ≤ year ∧ year ≤ 9999 then padded 4 year.toNat
  else (if year < 0 then '-' else '+') :: padded 4 year.natAbs

/-- The fraction of a second in the fewest groups of three digits. -/
def fractionText (nanos : Nat) : List Char :=
  if nanos = 0 then []
  else if nanos % 1000000 = 0 then '.' :: padded 3 (nanos / 1000000)
  else if nanos % 1000 = 0 then '.' :: padded 6 (nanos / 1000)
  else '.' :: padded 9 nanos

def text (t : Timestamp) : String :=
  let (year, month, day) := dateOfDays (Int.fdiv t.seconds 86400)
  let secondOfDay := (Int.fmod t.seconds 86400).toNat
  let second := secondOfDay % 60 + t.nanos / nanosPerSecond
  String.ofList (yearText year ++ '-' :: padded 2 month ++ '-' :: padded 2 day ++
    'T' :: padded 2 (secondOfDay / 3600) ++ ':' :: padded 2 (secondOfDay / 60 % 60) ++
    ':' :: padded 2 second ++ fractionText (t.nanos % nanosPerSecond) ++ ['Z'])

def number? (limit : Nat) (text : List Char) : Option (Nat × List Char) :=
  let digits := (text.take limit).takeWhile Char.isDigit
  if digits.isEmpty then none
  else some (Text.valueIn 10 digits, text.drop digits.length)

/-- What follows a character at the start of a text, blanks before it skipped. -/
def after? (c : Char) (text : List Char) : Option (List Char) :=
  match Text.trimStart text with
  | d :: rest => if d = c then some rest else none
  | [] => none

/-- A year: up to four digits, or a sign and any number of digits. -/
def year? (text : List Char) : Option (Int × List Char) :=
  match Text.trimStart text with
  | '-' :: rest => (number? rest.length rest).map fun (n, rest) => (-(n : Int), rest)
  | '+' :: rest => (number? rest.length rest).map fun (n, rest) => ((n : Int), rest)
  | text => (number? 4 text).map fun (n, rest) => ((n : Int), rest)

def pair? (text : List Char) : Option (Nat × List Char) :=
  number? 2 (Text.trimStart text)

/-- A fraction of a second, in nanoseconds; digits beyond the ninth are ignored. -/
def fraction? (text : List Char) : Option (Nat × List Char) :=
  match text with
  | '.' :: rest =>
    let digits := rest.takeWhile Char.isDigit
    if digits.isEmpty then none
    else
      let kept := digits.take 9
      some (Text.valueIn 10 kept * Nat.pow 10 (9 - kept.length), rest.drop digits.length)
  | text => some (0, text)

def twoDigits? : List Char → Option (Nat × List Char)
  | a :: b :: rest =>
    if a.isDigit && b.isDigit then some (Text.valueIn 10 [a, b], rest) else none
  | _ => none

def skipSeparators (text : List Char) : List Char :=
  text.dropWhile fun c => c = ':' || Text.isBlank c

/-- An offset from UTC in seconds: `Z`, `UTC`, or a sign with hours and minutes. -/
def offset? (text : List Char) : Option (Int × List Char) :=
  match text with
  | 'z' :: rest | 'Z' :: rest => some (0, rest)
  | a :: b :: c :: rest =>
    if [a, b, c].map Char.toUpper = ['U', 'T', 'C'] then some (0, rest)
    else if a = '+' || a = '-' || a = '\u2212' then do
      let (hours, rest) ← twoDigits? (b :: c :: rest)
      let (minutes, rest) ← twoDigits? (skipSeparators rest)
      if 60 ≤ minutes then none
      let seconds : Int := hours * 3600 + minutes * 60
      if 86400 ≤ seconds then none
      return (if a = '+' then seconds else -seconds, rest)
    else none
  | _ => none

def firstYear : Int := -262143

def lastYear : Int := 262142

def yearInRange (year : Int) : Bool :=
  firstYear ≤ year && year ≤ lastYear

def isInRange (t : Timestamp) : Bool :=
  daysOfDate firstYear 1 1 * 86400 ≤ t.seconds &&
    t.seconds < daysOfDate (lastYear + 1) 1 1 * 86400

/-- Reads a point in time, which must lie in a year of the range both where it is written for and
in UTC. -/
def parse? (text : String) : Option Timestamp := do
  let (year, rest) ← year? text.toList
  let rest ← after? '-' rest
  let (month, rest) ← pair? rest
  let rest ← after? '-' rest
  let (day, rest) ← pair? rest
  let rest ← match rest with
    | 't' :: rest | 'T' :: rest | ' ' :: rest => some rest
    | _ => none
  let (hour, rest) ← pair? rest
  let rest ← after? ':' rest
  let (minute, rest) ← pair? rest
  let rest ← after? ':' rest
  let (second, rest) ← pair? rest
  let (nanos, rest) ← fraction? rest
  let (offset, rest) ← offset? (Text.trimStart rest)
  if !(Text.trimStart rest).isEmpty then none
  if !yearInRange year || month < 1 || 12 < month || day < 1 || daysInMonth year month < day then
    none
  if 23 < hour || 59 < minute || 60 < second then none
  let leap : Nat := if second = 60 then 1 else 0
  let time : Timestamp := {
    seconds :=
      daysOfDate year month day * 86400 +
        (hour * 3600 + minute * 60 + (second - leap) : Nat) - offset
    nanos := nanos + leap * nanosPerSecond }
  if time.isInRange then some time else none

end Timestamp

end SiteDesk
