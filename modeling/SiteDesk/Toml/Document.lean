import SiteDesk.Toml.Number
import SiteDesk.Toml.Quoted

/-!
TOML documents: values, keys, sections and whole texts. Brackets nest, and dotted keys go on, to a
fixed depth.
-/
namespace SiteDesk.Toml

open Scan

/-- Brackets nest, and the parts of a key number, at most this. -/
def maxDepth : Nat := 79

def isBareKeyChar (c : Char) : Bool :=
  c.isAlphanum || c = '-' || c = '_'

def simpleKey : Scan String := do
  let next ← peek
  if next = some '"' || next = some '\'' then lineString
  else return String.ofList (← some1 isBareKeyChar)

/-- The parts of a key, with a dot between each two, within a number of parts. -/
def keyParts : Nat → Scan (List String)
  | 0 => failure
  | parts + 1 => do
    blanks
    let part ← simpleKey
    blanks
    if (← peek) = some '.' then
      char '.'
      return part :: (← keyParts parts)
    else return [part]

def dottedKey : Scan (List String × String) := do
  let parts ← keyParts maxDepth
  match parts.getLast? with
  | some last => return (parts.dropLast, last)
  | none => failure

def pair (value : Scan Value) : Scan Pair := do
  let (steps, key) ← dottedKey
  char '='
  blanks
  return ⟨steps, key, ← value⟩

/-- The items of an array up to and with the closing bracket, within a number of steps. -/
def arrayRest (value : Scan Value) : Nat → Scan (List Value)
  | 0 => failure
  | steps + 1 => do
    space
    if (← peek) = some ']' then
      char ']'
      return []
    let item ← value
    space
    if (← peek) = some ',' then
      char ','
      return item :: (← arrayRest value steps)
    else
      char ']'
      return [item]

/-- The pairs of an inline table up to and with the closing brace, within a number of steps. -/
def inlineRest (value : Scan Value) : Nat → Scan (List Pair)
  | 0 => failure
  | steps + 1 => do
    let first ← pair value
    blanks
    if (← peek) = some ',' then
      char ','
      return first :: (← inlineRest value steps)
    else
      char '\x7d'
      return [first]

def inlineTable (value : Scan Value) : Scan Value := do
  char '\x7b'
  blanks
  let pairs ← (do char '\x7d'; return []) <|> (do inlineRest value (← steps))
  match writeAll pairs [] with
  | some entries => return .table .inline entries
  | none => failure

def plainValue : Scan Value := do
  match ← peek with
  | some '"' | some '\'' => return .string (← string)
  | some 't' =>
    word ['t', 'r', 'u', 'e']
    return .boolean true
  | some 'f' =>
    word ['f', 'a', 'l', 's', 'e']
    return .boolean false
  | _ => timeOrNumber

def value : Nat → Scan Value
  | 0 => plainValue
  | depth + 1 => do
    match ← peek with
    | some '[' =>
      char '['
      return .array (← arrayRest (value depth) (← steps))
    | some '\x7b' => inlineTable (value depth)
    | _ => plainValue

/-- A header in square brackets, in doubled ones for an array of tables. -/
def header : Scan (Bool × List String × String) := do
  let isArray := (← get).take 2 = ['[', '[']
  let width := if isArray then 2 else 1
  word (List.replicate width '[')
  let key ← dottedKey
  word (List.replicate width ']')
  return (isArray, key)

/-- The pairs up to the next header or the end of the text, within a number of steps. -/
def pairs : Nat → Scan (List Pair)
  | 0 => failure
  | steps + 1 => do
    space
    let next ← peek
    if next.isNone || next = some '[' then return []
    let first ← pair (value maxDepth)
    lineEnd
    return first :: (← pairs steps)

/-- The sections up to the end of the text, within a number of steps. -/
def sections : Nat → Scan (List Section)
  | 0 => failure
  | more + 1 => do
    if (← peek).isNone then return []
    let (isArray, path, key) ← header
    lineEnd
    let pairs ← pairs (← steps)
    return ⟨isArray, path, key, pairs⟩ :: (← sections more)

/-- A document; a byte order mark before it is dropped. -/
def document : Scan Entries := do
  char '\ufeff' <|> pure ()
  let first ← pairs (← steps)
  let rest ← sections (← steps)
  match (writeAll first []).bind (enterAll rest) with
  | some entries => return entries
  | none => failure

/-- The entries of a document; none if the text is no TOML. -/
def parse (text : String) : Option Entries :=
  (document.run text.toList).map Prod.fst

end SiteDesk.Toml
