import SiteDesk.Keyed
import SiteDesk.Json.Number

/-!
JSON values. An object is a list of named values, read and written by `Keyed`.
-/
namespace SiteDesk

inductive Json where
  | null
  | bool (value : Bool)
  | number (value : Json.Number)
  | string (value : String)
  | array (items : List Json)
  | object (members : List (String × Json))
  deriving Inhabited

namespace Json

abbrev Members := List (String × Json)

inductive Kind where
  | null
  | boolean
  | number
  | string
  | array
  | object
  deriving DecidableEq, Repr

def Kind.name : Kind → String
  | .null => "null"
  | .boolean => "boolean"
  | .number => "number"
  | .string => "string"
  | .array => "array"
  | .object => "object"

def kind : Json → Kind
  | .null => .null
  | .bool _ => .boolean
  | .number _ => .number
  | .string _ => .string
  | .array _ => .array
  | .object _ => .object

def empty : Json := .object []

def ofMembers (members : Members) : Json :=
  .object (Keyed.ofList members)

def ofNat (n : Nat) : Json := .number (.integer n)

def ofString? : Option String → Json
  | none => .null
  | some s => .string s

def ofStrings (texts : List String) : Json :=
  .array (texts.map .string)

def isNull : Json → Bool
  | .null => true
  | _ => false

def asString? : Json → Option String
  | .string s => some s
  | _ => none

def asBool? : Json → Option Bool
  | .bool b => some b
  | _ => none

def asArray? : Json → Option (List Json)
  | .array items => some items
  | _ => none

def asMembers? : Json → Option Members
  | .object members => some members
  | _ => none

def asNat? : Json → Option Nat
  | .number n => n.asNat?
  | _ => none

/-- The member of an object with a name; a value of another type has none. -/
def member? (name : String) : Json → Option Json
  | .object members => Keyed.get? name members
  | _ => none

@[simp] theorem member?_object (name : String) (members : Members) :
    member? name (.object members) = Keyed.get? name members := rfl

end Json

end SiteDesk
