import SiteDesk.Text.Digit
import SiteDesk.Toml.Blank

/-!
Quoted strings. Between double quotes a backslash escapes; between single quotes nothing does. A
string on several lines has three quotes at each end; the line end after the first three is
dropped, a backslash before a line end drops the space after it, and one or two quotes may stand
before the last three.
-/
namespace SiteDesk.Toml

open Scan

def isStringChar (c : Char) : Bool :=
  c = '\t' || (0x20 ≤ c.toNat && c.toNat ≠ 0x7f)

/-- The character with a code of as many hexadecimal digits; no surrogate is one. -/
def codePoint (digits : Nat) : Scan Char := do
  let text ← get
  let code := text.take digits
  require (code.length = digits && code.all Text.isHexDigit)
  set (text.drop digits)
  let value := Text.valueIn 16 code
  if h : value.isValidChar then return Char.ofNatAux value h else failure

def escaped : Scan Char := do
  match ← one fun _ => true with
  | 'b' => return '\x08'
  | 't' => return '\t'
  | 'n' => return '\n'
  | 'f' => return '\x0c'
  | 'r' => return '\r'
  | '"' => return '"'
  | '\\' => return '\\'
  | 'u' => codePoint 4
  | 'U' => codePoint 8
  | _ => failure

def lineRest (quote : Char) : Nat → Scan (List Char)
  | 0 => failure
  | steps + 1 => do
    let c ← one fun _ => true
    if c = quote then return []
    if c = '\\' && quote = '"' then
      let meant ← escaped
      return meant :: (← lineRest quote steps)
    require (isStringChar c)
    return c :: (← lineRest quote steps)

/-- The closing quotes of a string on several lines, with one or two quotes before them. -/
def closingQuotes (quote : Char) : Scan (List Char) := do
  let text ← get
  let count := (text.takeWhile (· = quote)).length
  require (3 ≤ count)
  let extra := min (count - 3) 2
  set (text.drop (3 + extra))
  return List.replicate extra quote

/-- A line end that a backslash escapes, with the blank lines after it. -/
def foldedLine : Scan Unit := do
  blanks
  newline
  skipLines (pure ()) (← steps)

/-- What follows one character of a string on several lines, within a number of steps. -/
def linesRest (quote : Char) : Nat → Scan (List Char)
  | 0 => failure
  | steps + 1 => closingQuotes quote <|> do
    let next ← peek
    if next = some '\n' || next = some '\r' then
      newline
      return '\n' :: (← linesRest quote steps)
    let c ← one isStringChar
    if c ≠ '\\' || quote = '\'' then
      return c :: (← linesRest quote steps)
    if ((← peek).map fun d => isBlank d || d = '\n' || d = '\r').getD false then
      foldedLine
      linesRest quote steps
    else
      let meant ← escaped
      return meant :: (← linesRest quote steps)

def lineString : Scan String := do
  let quote ← one fun c => c = '"' || c = '\''
  return String.ofList (← lineRest quote (← steps))

def string : Scan String := do
  let text ← get
  let quote := text.head?.getD ' '
  if text.take 3 = List.replicate 3 quote then
    require (quote = '"' || quote = '\'')
    set (text.drop 3)
    newline <|> pure ()
    return String.ofList (← linesRest quote (← steps))
  else lineString

end SiteDesk.Toml
