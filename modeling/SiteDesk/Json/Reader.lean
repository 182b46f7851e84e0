import SiteDesk.Json.Cursor
import SiteDesk.Text.Digit

/-!
The JSON reader: numbers, strings, arrays, objects and whole texts. Brackets nest to a fixed
depth, which the reader of a value counts down; within one bracket the number of characters still
to be read bounds the number of items.
-/
namespace SiteDesk.Json

namespace Reading

/-- The exponent digits that are read before the value exceeds 31 bits, counting the digit that
does; none if it never does. -/
def exponentOverflow? : Nat → Nat → List Nat → Option Nat
  | _, _, [] => none
  | value, count, d :: rest =>
    if Nat.pow 2 31 ≤ value * 10 + d then some (count + 1)
    else exponentOverflow? (value * 10 + d) (count + 1) rest

def fraction : Reading (List Nat) := do
  match ← digits with
  | [] => if (← peek).isNone then fail .endOfValue else fail .invalidNumber
  | found => return found

/-- Sign and digits of an exponent, at least one digit, and the offset of the first. -/
def exponent : Reading (Bool × List Nat × Nat) := do
  let sign ← peek
  if sign = some '+' || sign = some '-' then skip
  let begun := (← get).offset
  match ← digits with
  | [] => if (← peek).isNone then fail .endOfValue else fail .invalidNumber
  | found => return (sign = some '-', found, begun)

/-- The digits before the point: a lone zero, or digits that do not start with one. -/
def wholeDigits : Reading (List Nat) := do
  match ← peek with
  | none => fail .endOfValue
  | some '0' =>
    skip
    if ((← peek).map Char.isDigit).getD false then fail .invalidNumber
    return [0]
  | some c => if c.isDigit then digits else fail .invalidNumber

def atExponent : Reading Bool := do
  let next ← peek
  return next = some 'e' || next = some 'E'

/-- A number. An exponent of more than 31 bits is refused at the digit that exceeds them, unless
the number is zero all the same. -/
def number : Reading Number := do
  let negative := (← peek) = some '-'
  if negative then skip
  let whole ← wholeDigits
  let mut fractionDigits := none
  if (← peek) = some '.' then
    skip
    fractionDigits := some (← fraction)
  let mut power := none
  if ← atExponent then
    skip
    let (below, found, begun) ← exponent
    let value : Nat := found.foldl (fun value d => value * 10 + d) 0
    power := some (if below then -(value : Int) else value)
    let zero := (Literal.mk negative whole fractionDigits none).scaled.1 = 0
    match exponentOverflow? 0 0 found with
    | some count => if !below && !zero then throw ⟨.numberOutOfRange, begun + count⟩
    | none => pure ()
  match (Literal.mk negative whole fractionDigits power).value? with
  | some n => return n
  | none => failHere .numberOutOfRange

def fourHex : Reading Nat := do
  let cursor ← get
  let four := cursor.rest.take 4
  let bytes := (String.ofList four).utf8ByteSize
  if bytes < 4 then throw ⟨.endOfString, cursor.offset + bytes⟩
  if !four.all Text.isHexDigit then throw ⟨.invalidEscape, cursor.offset + 4⟩
  set (Cursor.mk (cursor.rest.drop 4) (cursor.offset + 4))
  return Text.valueIn 16 four

def trailingSurrogate (lead : Nat) : Reading Char := do
  for expected in ['\\', 'u'] do
    match ← peek with
    | none => fail .endOfString
    | some c => if c = expected then skip else fail .unfinishedSurrogate
  let trail ← fourHex
  if 0xDC00 ≤ trail ∧ trail ≤ 0xDFFF then
    return Char.ofNat (0x10000 + (lead - 0xD800) * 0x400 + (trail - 0xDC00))
  else failHere .loneSurrogate

/-- The character written by four hexadecimal digits, or by two such escapes in a row. -/
def unicodeEscape : Reading Char := do
  let value ← fourHex
  if 0xDC00 ≤ value ∧ value ≤ 0xDFFF then failHere .loneSurrogate
  else if 0xD800 ≤ value ∧ value ≤ 0xDBFF then trailingSurrogate value
  else return Char.ofNat value

def letterEscape? : Char → Option Char
  | '"' => some '"'
  | '\\' => some '\\'
  | '/' => some '/'
  | 'b' => some '\x08'
  | 'f' => some '\x0c'
  | 'n' => some '\n'
  | 'r' => some '\r'
  | 't' => some '\t'
  | _ => none

/-- An escape, after its backslash; `unicode` reads what follows a `u`. -/
def escape (unicode : Reading Char) : Reading Char := do
  match ← peek with
  | none => fail .endOfString
  | some 'u' =>
    skip
    unicode
  | some c =>
    match letterEscape? c with
    | some meant =>
      skip
      return meant
    | none => fail .invalidEscape

/-- The characters of a string up to and with the closing quote, found within a number of
steps. -/
def stringRest (unicode : Reading Char) : Nat → List Char → Reading (List Char)
  | 0, _ => fail .endOfString
  | steps + 1, read => do
    match ← peek with
    | none => fail .endOfString
    | some '"' =>
      skip
      return read.reverse
    | some '\\' =>
      skip
      let c ← escape unicode
      stringRest unicode steps (c :: read)
    | some c =>
      if c.toNat < 0x20 then fail .controlCharacter
      skip
      stringRest unicode steps (c :: read)

def string : Reading String := do
  skip
  let steps := (← get).rest.length + 1
  return String.ofList (← stringRest unicodeEscape steps [])

/-- Moves to the next item of an array, after its bracket or the item before; false at the closing
bracket. -/
def nextItem (first : Bool) : Reading Bool := do
  match ← peekValue with
  | none => fail .endOfList
  | some ']' => return false
  | some c =>
    if first then return true
    if c ≠ ',' then fail .expectedListEnd
    skip
    match ← peekValue with
    | none => fail .endOfValue
    | some ']' => fail .trailingComma
    | some _ => return true

/-- Moves to the name of the next member of an object, after its brace or the member before; false
at the closing brace. -/
def nextName (first : Bool) : Reading Bool := do
  match ← peekValue with
  | none => fail .endOfObject
  | some '\x7d' => return false
  | some c =>
    if first then
      if c = '"' then return true else fail .keyNotString
    if c ≠ ',' then fail .expectedObjectEnd
    skip
    match ← peekValue with
    | none => fail .endOfValue
    | some '"' => return true
    | some '\x7d' => fail .trailingComma
    | some _ => fail .keyNotString

def colon : Reading Unit := do
  match ← peekValue with
  | none => fail .endOfObject
  | some ':' => skip
  | some _ => fail .expectedColon

/-- The items of an array up to and with the closing bracket, found within a number of steps. -/
def items {α : Type} (item : Reading α) : Nat → Bool → List α → Reading (List α)
  | 0, _, _ => fail .endOfList
  | steps + 1, first, read => do
    if ← nextItem first then
      let value ← item
      items item steps false (value :: read)
    else
      skip
      return read.reverse

/-- The members of an object up to and with the closing brace, folded into a state within a number
of steps. `member` reads what follows a name. -/
def members {σ : Type} (name : Reading String) (member : String → σ → Reading σ) :
    Nat → Bool → σ → Reading σ
  | 0, _, _ => fail .endOfObject
  | steps + 1, first, state => do
    if ← nextName first then
      let key ← name
      let state ← member key state
      members name member steps false state
    else
      skip
      return state

def remaining : Reading Nat := do
  return (← get).rest.length + 1

def arrayOf {α : Type} (item : Reading α) : Reading (List α) := do
  skip
  items item (← remaining) true []

def objectOf {σ : Type} (member : String → σ → Reading σ) (begin : σ) : Reading σ := do
  skip
  members string member (← remaining) true begin

/-- A value whose items and members are read by `inner`, or that may hold none. -/
def valueWith (inner : Option (Reading Json)) : Reading Json := do
  match ← peekValue with
  | none => fail .endOfValue
  | some 'n' =>
    word ['n', 'u', 'l', 'l']
    return .null
  | some 't' =>
    word ['t', 'r', 'u', 'e']
    return .bool true
  | some 'f' =>
    word ['f', 'a', 'l', 's', 'e']
    return .bool false
  | some '"' => return .string (← string)
  | some '[' =>
    match inner with
    | none => fail .tooDeep
    | some inner => return .array (← arrayOf inner)
  | some '\x7b' =>
    match inner with
    | none => fail .tooDeep
    | some inner =>
      let member (name : String) (read : Members) : Reading Members := do
        colon
        return Keyed.set name (← inner) read
      return .object (← objectOf member [])
  | some c =>
    if c = '-' || c.isDigit then return .number (← number)
    fail .expectedValue

def value : Nat → Reading Json
  | 0 => valueWith none
  | depth + 1 => valueWith (some (value depth))

def finish : Reading Unit := do
  if (← peekValue).isSome then fail .trailingCharacters

def onText {α : Type} (reading : Reading α) (text : List Char) : Except ReadError α :=
  (reading.run (Cursor.start text)).map Prod.fst

def maxDepth : Nat := 127

end Reading

def read (text : List Char) : Except ReadError Json :=
  Reading.onText (do
    let value ← Reading.value Reading.maxDepth
    Reading.finish
    return value) text

def parse (text : String) : Except ReadError Json :=
  read text.toList

end SiteDesk.Json
