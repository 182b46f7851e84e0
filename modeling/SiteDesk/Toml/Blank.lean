import SiteDesk.Toml.Scan

/-!
Blanks, comments and line ends. A line ends with a line feed, perhaps after a carriage return.
-/
namespace SiteDesk.Toml

open Scan

def isBlank (c : Char) : Bool :=
  c = ' ' || c = '\t'

def isCommentChar (c : Char) : Bool :=
  c = '\t' || (0x20 ≤ c.toNat && c.toNat ≠ 0x7f)

def blanks : Scan Unit := do
  let _ ← many isBlank

def newline : Scan Unit :=
  char '\n' <|> word ['\r', '\n']

def comment : Scan Unit := do
  if (← peek) = some '#' then
    let _ ← many isCommentChar

/-- Takes the rest of a line: blanks, a comment and the end of the line or of the text. -/
def lineEnd : Scan Unit := do
  blanks
  comment
  if (← peek).isSome then newline

/-- Takes blank lines, each of which may hold something else, within a number of steps. -/
def skipLines (inLine : Scan Unit) : Nat → Scan Unit
  | 0 => pure ()
  | steps + 1 => do
    blanks
    inLine
    let next ← peek
    if next = some '\n' || next = some '\r' then
      newline
      skipLines inLine steps

def space : Scan Unit := do
  skipLines comment (← steps)

end SiteDesk.Toml
