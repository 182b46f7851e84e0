import SiteDesk.Keyed

/-!
TOML values and the tables they are entered into. A table is written once: a header may open a
table that so far was only implied by the headers of tables inside it, a dotted key may enter a
table that dotted keys made, and nothing may enter an inline table or write a key twice.
-/
namespace SiteDesk.Toml

/-- How a table came to be: by its own header, by a header below it, by a dotted key, or inline. -/
inductive Origin where
  | header
  | implied
  | dotted
  | inline
  deriving DecidableEq, Repr

/-- A value. Floating-point numbers and points in time are kept as they are written; `tables` is an
array whose items have headers. -/
inductive Value where
  | string (text : String)
  | integer (value : Int)
  | float (text : String)
  | boolean (value : Bool)
  | time (text : String)
  | array (items : List Value)
  | table (origin : Origin) (entries : List (String × Value))
  | tables (items : List Value)
  deriving Inhabited

abbrev Entries := List (String × Value)

def updateLast (update : Entries → Option Entries) : List Value → Option (List Value)
  | [] => none
  | [.table origin entries] => (update entries).map fun entries => [.table origin entries]
  | [_] => none
  | item :: rest => (updateLast update rest).map (item :: ·)

/-- Changes the entries of the table under a key; `enter` says which tables may be entered. A missing
table is made with an origin. -/
def updateTable (made : Origin) (enter : Origin → Bool) (update : Entries → Option Entries)
    (key : String) (entries : Entries) : Option Entries :=
  match Keyed.get? key entries with
  | none => (update []).map fun inner => Keyed.set key (.table made inner) entries
  | some (.table origin inner) =>
    if enter origin then
      (update inner).map fun inner => Keyed.set key (.table origin inner) entries
    else none
  | some (.tables items) =>
    (updateLast update items).map fun items => Keyed.set key (.tables items) entries
  | some _ => none

def write (key : String) (value : Value) (entries : Entries) : Option Entries :=
  if Keyed.contains key entries then none else some (Keyed.set key value entries)

def dottedPasses (origin : Origin) : Bool :=
  origin = .implied || origin = .dotted

/-- Whether there is a table under a key that only a dotted key could have made, or none. -/
def isDottedOrNew (key : String) (entries : Entries) : Bool :=
  match Keyed.get? key entries with
  | none => true
  | some (.table origin _) => origin = .dotted
  | some _ => false

/-- Writes a value under a dotted key, given as the steps before the last and the last. -/
def writeDotted : List String → String → Value → Entries → Option Entries
  | [], key, value, entries => write key value entries
  | [step], key, value, entries =>
    if isDottedOrNew step entries then
      updateTable .dotted dottedPasses (write key value) step entries
    else none
  | step :: next :: rest, key, value, entries =>
    updateTable .dotted dottedPasses (writeDotted (next :: rest) key value) step entries

structure Pair where
  steps : List String
  key : String
  value : Value

def writeAll : List Pair → Entries → Option Entries
  | [], entries => some entries
  | pair :: rest, entries =>
    (writeDotted pair.steps pair.key pair.value entries).bind (writeAll rest)

/-- A section: its header, with a mark for an array of tables, and the values under it. -/
structure Section where
  isArray : Bool
  steps : List String
  key : String
  pairs : List Pair

/-- Opens the table of a section under the last part of its header. -/
def openTable (part : Section) (entries : Entries) : Option Entries :=
  if part.isArray then
    match Keyed.get? part.key entries with
    | none =>
      (writeAll part.pairs []).map fun inner =>
        Keyed.set part.key (.tables [.table .header inner]) entries
    | some (.tables items) =>
      (writeAll part.pairs []).map fun inner =>
        Keyed.set part.key (.tables (items ++ [.table .header inner])) entries
    | some _ => none
  else
    match Keyed.get? part.key entries with
    | none =>
      (writeAll part.pairs []).map fun inner =>
        Keyed.set part.key (.table .header inner) entries
    | some (.table .implied inner) =>
      (writeAll part.pairs inner).map fun inner =>
        Keyed.set part.key (.table .header inner) entries
    | some _ => none

def enterSection (part : Section) : List String → Entries → Option Entries
  | [], entries => openTable part entries
  | step :: rest, entries =>
    updateTable .implied (· ≠ .inline) (enterSection part rest) step entries

def enterAll : List Section → Entries → Option Entries
  | [], entries => some entries
  | part :: rest, entries => (enterSection part part.steps entries).bind (enterAll rest)

end SiteDesk.Toml
