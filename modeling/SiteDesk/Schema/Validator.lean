import SiteDesk.Schema.Issue
import SiteDesk.Text.Blank
import SiteDesk.Text.Fold

/-!
Validators: the executable form of a props schema. A check walks a validator and a value together,
rebuilds the value from what its parts accept and collects every issue. Object members that no
field declares pass through.
-/
namespace SiteDesk.Schema

/-- What a leaf accepts; a tag that names no type accepts everything. -/
inductive Primitive where
  | string
  | number
  | boolean
  | any
  | unknown (tag : String)
  deriving DecidableEq, Repr

namespace Primitive

/-- The leaf a tag names, blanks around it and the case of ASCII letters ignored. -/
def ofTag (tag : List Char) : Primitive :=
  let name := Text.trim tag
  if Text.sameIgnoringCase name "string".toList then .string
  else if Text.sameIgnoringCase name "number".toList then .number
  else if Text.sameIgnoringCase name "boolean".toList then .boolean
  else if Text.sameIgnoringCase name "any".toList then .any
  else .unknown (String.ofList name)

def name : Primitive → String
  | .string => "string"
  | .number => "number"
  | .boolean => "boolean"
  | .any => "any"
  | .unknown tag => tag

def isPermissive : Primitive → Bool
  | .any | .unknown _ => true
  | _ => false

def accepts : Primitive → Json → Bool
  | .string, value => value.kind = .string
  | .number, value => value.kind = .number
  | .boolean, value => value.kind = .boolean
  | .any, _ | .unknown _, _ => true

end Primitive

/-- A validator; the flag says whether its value may be absent. -/
inductive Validator where
  | primitive (kind : Primitive) (optional : Bool)
  | array (element : Validator) (optional : Bool)
  | object (fields : List (String × Validator)) (optional : Bool)
  deriving Inhabited

/-- The outcome of a check: the value rebuilt, where one was accepted, and the issues. -/
structure Checked (α : Type) where
  value : α
  issues : List Issue

namespace Validator

def any : Validator := .primitive .any false

def isOptional : Validator → Bool
  | .primitive _ optional | .array _ optional | .object _ optional => optional

def isObject : Validator → Bool
  | .object _ _ => true
  | _ => false

def fields? : Validator → Option (List (String × Validator))
  | .object fields _ => some fields
  | _ => none

/-- Whether the value may be absent: it is optional, or a leaf that accepts everything. -/
def acceptsMissing : Validator → Bool
  | .primitive kind optional => optional || kind.isPermissive
  | .array _ optional | .object _ optional => optional

def checkMissing (validator : Validator) (path : List String) : Checked (Option Json) :=
  ⟨none, if validator.acceptsMissing then [] else [Issue.required path]⟩

def indexSegment (index : Nat) : String :=
  String.ofList (Nat.toDigits 10 index)

def collectItems (found : List (Checked (Option Json))) : Checked (Option Json) :=
  ⟨some (.array (found.filterMap (·.value))), found.flatMap (·.issues)⟩

mutual

def check : Validator → List String → Option Json → Checked (Option Json)
  | .primitive kind optional, path, candidate =>
    match candidate with
    | none => checkMissing (.primitive kind optional) path
    | some value =>
      if kind.accepts value then ⟨some value, []⟩
      else ⟨none, [Issue.mismatch path kind.name value.kind]⟩
  | .array element optional, path, candidate =>
    match candidate with
    | none => checkMissing (.array element optional) path
    | some (.array items) =>
      collectItems (items.zipIdx.map fun entry =>
        check element (path ++ [indexSegment entry.2]) (some entry.1))
    | some value => ⟨none, [Issue.mismatch path "array" value.kind]⟩
  | .object fields optional, path, candidate =>
    match candidate with
    | none => checkMissing (.object fields optional) path
    | some (.object members) =>
      let found := checkFields fields path members members
      ⟨some (.object found.value), found.issues⟩
    | some value => ⟨none, [Issue.mismatch path "object" value.kind]⟩

/-- Checks the declared fields of an object against its members, and writes what they accept into
the members rebuilt so far. -/
def checkFields : List (String × Validator) → List String → Json.Members → Json.Members →
    Checked Json.Members
  | [], _, _, rebuilt => ⟨rebuilt, []⟩
  | (name, field) :: rest, path, members, rebuilt =>
    let found := check field (path ++ [name]) (Keyed.get? name members)
    let rebuilt := match found.value with
      | some value => Keyed.set name value rebuilt
      | none => rebuilt
    let later := checkFields rest path members rebuilt
    ⟨later.value, found.issues ++ later.issues⟩

end

def validate (validator : Validator) (value : Json) : Except (List Issue) Json :=
  let found := validator.check [] (some value)
  if found.issues.isEmpty then .ok (found.value.getD .null) else .error found.issues

end Validator

end SiteDesk.Schema
