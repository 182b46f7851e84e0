import SiteDesk.Json.Basic

/-!
The two written forms of a JSON value: the compact form without blanks, and the indented form with
one member or item a line. Both escape the quote, the backslash and the control characters, and
nothing else.
-/
namespace SiteDesk.Json

def hexDigit (n : Nat) : Char :=
  Nat.digitChar (n % 16)

def escapeChar (c : Char) : List Char :=
  if c = '"' then ['\\', '"']
  else if c = '\\' then ['\\', '\\']
  else if c = '\x08' then ['\\', 'b']
  else if c = '\t' then ['\\', 't']
  else if c = '\n' then ['\\', 'n']
  else if c = '\x0c' then ['\\', 'f']
  else if c = '\r' then ['\\', 'r']
  else if c.toNat < 0x20 then
    ['\\', 'u', '0', '0', hexDigit (c.toNat / 16), hexDigit c.toNat]
  else [c]

def quoteRest : List Char → List Char
  | [] => ['"']
  | c :: rest => escapeChar c ++ quoteRest rest

def quote (text : String) : List Char :=
  '"' :: quoteRest text.toList

mutual

def compact : Json → List Char
  | .null => ['n', 'u', 'l', 'l']
  | .bool true => ['t', 'r', 'u', 'e']
  | .bool false => ['f', 'a', 'l', 's', 'e']
  | .number n => n.text
  | .string s => quote s
  | .array [] => ['[', ']']
  | .array (first :: rest) => '[' :: (compact first ++ compactItems rest)
  | .object [] => ['\x7b', '\x7d']
  | .object ((name, value) :: rest) =>
    '\x7b' :: (quote name ++ ':' :: (compact value ++ compactMembers rest))

/-- The items after the first one, up to and with the closing bracket. -/
def compactItems : List Json → List Char
  | [] => [']']
  | item :: rest => ',' :: (compact item ++ compactItems rest)

/-- The members after the first one, up to and with the closing brace. -/
def compactMembers : List (String × Json) → List Char
  | [] => ['\x7d']
  | (name, value) :: rest =>
    ',' :: (quote name ++ ':' :: (compact value ++ compactMembers rest))

end

def lineBreak (level : Nat) : List Char :=
  '\n' :: List.replicate (2 * level) ' '

mutual

/-- The indented form of a value that stands at some level of nesting. -/
def indented (level : Nat) : Json → List Char
  | .array (first :: rest) =>
    '[' :: (lineBreak (level + 1) ++ indented (level + 1) first ++ indentedItems level rest)
  | .object ((name, value) :: rest) =>
    '\x7b' :: (lineBreak (level + 1) ++ quote name ++ ':' :: ' ' ::
      (indented (level + 1) value ++ indentedMembers level rest))
  | .null => compact .null
  | .bool b => compact (.bool b)
  | .number n => compact (.number n)
  | .string s => compact (.string s)
  | .array [] => compact (.array [])
  | .object [] => compact (.object [])

/-- The items after the first one, up to and with the closing bracket. -/
def indentedItems (level : Nat) : List Json → List Char
  | [] => lineBreak level ++ [']']
  | item :: rest =>
    ',' :: (lineBreak (level + 1) ++ indented (level + 1) item ++ indentedItems level rest)

/-- The members after the first one, up to and with the closing brace. -/
def indentedMembers (level : Nat) : List (String × Json) → List Char
  | [] => lineBreak level ++ ['\x7d']
  | (name, value) :: rest =>
    ',' :: (lineBreak (level + 1) ++ quote name ++ ':' :: ' ' ::
      (indented (level + 1) value ++ indentedMembers level rest))

end

def compactText (value : Json) : String :=
  String.ofList (compact value)

def indentedText (value : Json) : String :=
  String.ofList (indented 0 value)

end SiteDesk.Json
