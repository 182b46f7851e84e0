/-!
Scanning a text from left to right: a scan takes what it reads from the front of a text and gives
the rest, or gives nothing where the text does not fit.
-/
namespace SiteDesk.Toml

abbrev Scan := StateT (List Char) Option

namespace Scan

variable {α : Type}

def peek : Scan (Option Char) := do
  return (← get).head?

def one (p : Char → Bool) : Scan Char := do
  match ← get with
  | c :: rest => if p c then set rest; return c else failure
  | [] => failure

def char (c : Char) : Scan Unit := do
  let _ ← one (· = c)

def word : List Char → Scan Unit
  | [] => pure ()
  | c :: rest => do
    char c
    word rest

def many (p : Char → Bool) : Scan (List Char) := do
  let text ← get
  set (text.dropWhile p)
  return text.takeWhile p

def some1 (p : Char → Bool) : Scan (List Char) := do
  let first ← one p
  return first :: (← many p)

def orEmpty (scan : Scan (List Char)) : Scan (List Char) :=
  scan <|> pure []

def mark (c : Char) : Scan (List Char) := do
  char c
  return [c]

def markOf (cs : List Char) : Scan (List Char) := do
  return [← one (cs.contains ·)]

def require (condition : Bool) : Scan Unit :=
  if condition then pure () else failure

def steps : Scan Nat := do
  return (← get).length + 1

end Scan

end SiteDesk.Toml
