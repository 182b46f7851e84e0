import SiteDesk.Json.Reader

/-!
Reading a JSON text of a known shape: texts, flags, lists and records. A record is written as an
object with its fields in any order, each at most once, or as an array of its fields in order, in
which the last ones may be absent. Members of other names are skipped; what is skipped need not be a
value in full, since neither the depth of its brackets, nor the size of its numbers, nor its
surrogate escapes are checked.
-/
namespace SiteDesk.Json.Reading

variable {α σ : Type}

/-- A value of another type than the wanted one; a scalar is read before it is refused. -/
def mistyped : Reading α := do
  match ← peekValue with
  | some '[' | some '\x7b' => fail .wrongShape
  | _ =>
    let _ ← valueWith none
    fail .wrongShape

def text : Reading String := do
  if (← peekValue) = some '"' then string else mistyped

def flag : Reading Bool := do
  match ← peekValue with
  | some 't' =>
    word ['t', 'r', 'u', 'e']
    return true
  | some 'f' =>
    word ['f', 'a', 'l', 's', 'e']
    return false
  | _ => mistyped

def list (item : Reading α) : Reading (List α) := do
  if (← peekValue) = some '[' then arrayOf item else mistyped

def skipDigits : Reading Unit := do
  if (← digits).isEmpty then fail .invalidNumber

def skipNumber : Reading Unit := do
  if (← peek) = some '-' then skip
  if (← peek) = some '0' then
    skip
    if ((← peek).map Char.isDigit).getD false then fail .invalidNumber
  else skipDigits
  if (← peek) = some '.' then
    skip
    skipDigits
  if ← atExponent then
    skip
    if (← peek) = some '+' || (← peek) = some '-' then skip
    skipDigits

def skipString : Reading Unit := do
  skip
  let _ ← stringRest (Char.ofNat <$> fourHex) (← remaining) []

/-- Skips a value with at most a number of brackets around each part. -/
def skipValueWithin : Nat → Reading Unit
  | 0 => fail .endOfValue
  | brackets + 1 => do
    match ← peekValue with
    | some '[' =>
      let _ ← arrayOf (skipValueWithin brackets)
    | some '\x7b' =>
      skip
      let name : Reading String := do
        skipString
        return ""
      members name (fun _ _ => do colon; skipValueWithin brackets) (← remaining) true ()
    | some '"' => skipString
    | some c =>
      if c = '-' || c.isDigit then skipNumber
      else
        let _ ← valueWith none
    | none => fail .endOfValue

/-- Skips a value; no value has more brackets than there are characters left. -/
def skipValue : Reading Unit := do
  skipValueWithin (← remaining)

/-- A field of a record: its name, and how its value changes what is read so far. -/
structure Field (σ : Type) where
  name : String
  read : σ → Reading σ

/-- One member of a record written as an object, with the names read so far. -/
def member (fields : List (Field σ)) (name : String) (state : σ × List String) :
    Reading (σ × List String) := do
  match fields.find? (·.name = name) with
  | none =>
    colon
    skipValue
    return state
  | some field =>
    if state.2.contains name then fail .wrongShape
    colon
    return (← field.read state.1, name :: state.2)

/-- The fields of a record written as an array, up to the closing bracket. -/
def inOrder : List (Field σ) → Bool → σ → Reading σ
  | [], _, state => return state
  | field :: rest, first, state => do
    if ← nextItem first then inOrder rest false (← field.read state) else return state

def closeRecord : Reading Unit := do
  match ← peekValue with
  | none => fail .endOfList
  | some ']' => skip
  | some _ => fail .trailingCharacters

def record (fields : List (Field σ)) (begin : σ) : Reading σ := do
  match ← peekValue with
  | some '\x7b' =>
    let (state, _) ← objectOf (member fields) (begin, [])
    return state
  | some '[' =>
    skip
    let state ← inOrder fields true begin
    closeRecord
    return state
  | _ => mistyped

def required (value : Option α) : Reading α :=
  match value with
  | some value => return value
  | none => fail .wrongShape

def document (reading : Reading α) (text : String) : Except ReadError α :=
  onText (do
    let value ← reading
    finish
    return value) text.toList

end SiteDesk.Json.Reading
