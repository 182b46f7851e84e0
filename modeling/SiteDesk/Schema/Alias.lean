import SiteDesk.Schema.Definition

/-!
Legacy props give one `backgroundImage` where a schema declares `images`. If the definition
declares `images` as a string or an array and the props have none, the old value stands in for it,
a string as a list of one. Nothing else in the props changes.
-/
namespace SiteDesk.Schema.Alias

def sourceField : String := "backgroundImage"

def targetField : String := "images"

structure Unsupported where
  found : Json.Kind
  deriving DecidableEq, Repr

def Unsupported.message (error : Unsupported) : String :=
  s!"{sourceField} must be a string or array to alias {targetField}, received {error.found.name}"

def isTargetTag (tag : List Char) : Bool :=
  let name := (splitOptional (Text.trim tag)).1
  Text.sameIgnoringCase name "string".toList || isArrayName name

def declaresTarget : Json → Bool
  | .string tag => isTargetTag tag.toList
  | .array _ => true
  | .object members =>
    isLeaf members &&
      (Keyed.contains "items" members ||
        (((Keyed.get? "type" members).bind Json.asString?).map fun tag =>
          isTargetTag tag.toList).getD false)
  | _ => false

/-- Whether a definition declares the target field as a string or an array. -/
def isDeclared (definition : Json) : Bool :=
  ((definition.member? targetField).map declaresTarget).getD false

def isVacant (name : String) (members : Json.Members) : Bool :=
  ((Keyed.get? name members).map Json.isNull).getD true

def promotedValue : Json → Except Unsupported (Option Json)
  | .null => .ok none
  | .string "" => .ok none
  | .string s => .ok (some (.array [.string s]))
  | .array items => .ok (some (.array items))
  | other => .error ⟨other.kind⟩

def promote (definition props : Json) : Except Unsupported (Option Json) :=
  match props with
  | .object members =>
    if isDeclared definition && isVacant targetField members then
      match promotedValue ((Keyed.get? sourceField members).getD .null) with
      | .error e => .error e
      | .ok none => .ok none
      | .ok (some list) => .ok (some (.object (Keyed.set targetField list members)))
    else .ok none
  | _ => .ok none

/-- The props after promotion; props that cannot be promoted stay as they are. -/
def normalize (definition props : Json) : Json :=
  match promote definition props with
  | .ok (some promoted) => promoted
  | _ => props

end SiteDesk.Schema.Alias
