import SiteDesk.Json.Basic

/-!
Reading a JSON text from left to right. A cursor is the text still to be read and the number of
bytes before it; a fault carries the byte offset at which it shows, one past the byte that is
wrong, or the end of the text.
-/
namespace SiteDesk.Json

inductive Fault where
  | endOfValue
  | endOfString
  | endOfList
  | endOfObject
  | expectedWord
  | expectedValue
  | expectedColon
  | expectedListEnd
  | expectedObjectEnd
  | invalidNumber
  | numberOutOfRange
  | controlCharacter
  | invalidEscape
  | loneSurrogate
  | unfinishedSurrogate
  | tooDeep
  | trailingComma
  | keyNotString
  | trailingCharacters
  | wrongShape
  deriving DecidableEq, Repr

/-- The three classes of faults: text that breaks the grammar, text that ends early, and a
well-formed value that is not of the wanted shape. -/
inductive FaultClass where
  | grammar
  | ending
  | shape
  deriving DecidableEq, Repr

namespace Fault

def faultClass : Fault → FaultClass
  | .endOfValue | .endOfString | .endOfList | .endOfObject => .ending
  | .wrongShape => .shape
  | _ => .grammar

def wording : Fault → String
  | .endOfValue => "EOF while parsing a value"
  | .endOfString => "EOF while parsing a string"
  | .endOfList => "EOF while parsing a list"
  | .endOfObject => "EOF while parsing an object"
  | .expectedWord => "expected ident"
  | .expectedValue => "expected value"
  | .expectedColon => "expected `:`"
  | .expectedListEnd => "expected `,` or `]`"
  | .expectedObjectEnd => "expected `,` or `\x7d`"
  | .invalidNumber => "invalid number"
  | .numberOutOfRange => "number out of range"
  | .controlCharacter => "control character (\\u0000-\\u001F) found while parsing a string"
  | .invalidEscape => "invalid escape"
  | .loneSurrogate => "lone leading surrogate in hex escape"
  | .unfinishedSurrogate => "unexpected end of hex escape"
  | .tooDeep => "recursion limit exceeded"
  | .trailingComma => "trailing comma"
  | .keyNotString => "key must be a string"
  | .trailingCharacters => "trailing characters"
  | .wrongShape => "unexpected shape"

end Fault

structure ReadError where
  fault : Fault
  offset : Nat
  deriving DecidableEq, Repr

/-- The line of a byte offset, counted from one, and the bytes before it on that line. -/
def lineAndColumn : List Char → Nat → Nat → Nat → Nat × Nat
  | [], _, line, column => (line, column)
  | c :: rest, left, line, column =>
    if left < c.utf8Size then (line, column + left)
    else if c = '\n' then lineAndColumn rest (left - 1) (line + 1) 0
    else lineAndColumn rest (left - c.utf8Size) line (column + c.utf8Size)

def ReadError.message (text : List Char) (error : ReadError) : String :=
  let (line, column) := lineAndColumn text error.offset 1 0
  s!"{error.fault.wording} at line {line} column {column}"

structure Cursor where
  rest : List Char
  offset : Nat
  deriving Repr

namespace Cursor

def start (text : List Char) : Cursor := ⟨text, 0⟩

def next? (cursor : Cursor) : Option Char := cursor.rest.head?

def advance (cursor : Cursor) : Cursor :=
  match cursor.rest with
  | [] => cursor
  | c :: rest => ⟨rest, cursor.offset + c.utf8Size⟩

def fault (cursor : Cursor) (fault : Fault) : ReadError :=
  ⟨fault, if cursor.rest.isEmpty then cursor.offset else cursor.offset + 1⟩

def skipWhile (p : Char → Bool) (cursor : Cursor) : Cursor :=
  let skipped := cursor.rest.takeWhile p
  ⟨cursor.rest.dropWhile p, cursor.offset + (String.ofList skipped).utf8ByteSize⟩

def isJsonBlank (c : Char) : Bool :=
  c = ' ' || c = '\n' || c = '\t' || c = '\r'

def skipBlanks (cursor : Cursor) : Cursor :=
  cursor.skipWhile isJsonBlank

end Cursor

/-- A step that reads something and moves the cursor, or finds a fault. -/
abbrev Reading := StateT Cursor (Except ReadError)

namespace Reading

def peek : Reading (Option Char) := do
  return (← get).next?

def peekValue : Reading (Option Char) := do
  modify Cursor.skipBlanks
  peek

def skip : Reading Unit :=
  modify Cursor.advance

def fail {α : Type} (fault : Fault) : Reading α := do
  throw ((← get).fault fault)

def failHere {α : Type} (fault : Fault) : Reading α := do
  throw ⟨fault, (← get).offset⟩

def word : List Char → Reading Unit
  | [] => pure ()
  | c :: rest => do
    match ← peek with
    | none => fail .endOfValue
    | some d => if d = c then skip; word rest else fail .expectedWord

def digits : Reading (List Nat) := do
  let cursor ← get
  set (cursor.skipWhile Char.isDigit)
  return (cursor.rest.takeWhile Char.isDigit).map fun c => c.toNat - '0'.toNat

end Reading

end SiteDesk.Json
