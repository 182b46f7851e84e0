import Std.Data.ExtTreeMap
import SiteDesk.Json.Basic
import SiteDesk.Text.Blank
import SiteDesk.Timestamp

/-!
Component types: what a block may be, its name in the desk and the schema of its props. The
registry keeps one component for each type, and a registered component never changes.
-/
namespace SiteDesk

/-- What a store answers instead of a record: it is missing, collides with another one, or could
not be reached. -/
inductive StoreError where
  | notFound (message : String)
  | conflict (message : String)
  | backend (message : String)
  deriving DecidableEq, Repr

def StoreError.message : StoreError → String
  | .notFound message => message
  | .conflict message => message
  | .backend message => s!"storage backend error: {message}"

/-- A component type to be registered; a blank display name stands for the type itself. -/
structure NewComponent where
  type : String
  displayName : String := ""
  propsSchema : Option Json := none

structure Component where
  id : String
  type : String
  displayName : String
  propsSchema : Option Json
  createdAt : Timestamp

/-- The schema in a JSON value, where null stands for none. -/
def schemaOf : Option Json → Option Json
  | some .null => none
  | schema => schema

def schemaToJson (schema : Option Json) : Json :=
  schema.getD .null

namespace NewComponent

def effectiveDisplayName (component : NewComponent) : String :=
  let name := Text.trim component.displayName.toList
  if name.isEmpty then component.type else String.ofList name

def toJson (component : NewComponent) : Json :=
  .object [("displayName", .string component.displayName),
    ("propsSchema", schemaToJson component.propsSchema), ("type", .string component.type)]

def displayNameOf? : Option Json → Option String
  | none => some ""
  | some value => value.asString?

/-- Reads a component from an object with its fields, or from an array of them in order. -/
def ofJson? : Json → Option NewComponent
  | .object members => do
    let type ← (← Keyed.get? "type" members).asString?
    let displayName ← displayNameOf? (Keyed.get? "displayName" members)
    return ⟨type, displayName, schemaOf (Keyed.get? "propsSchema" members)⟩
  | .array (type :: rest) => do
    let type ← type.asString?
    let displayName ← displayNameOf? rest[0]?
    if rest.length ≤ 2 then some ⟨type, displayName, schemaOf rest[1]?⟩ else none
  | _ => none

end NewComponent

namespace Component

def ofNew (id : String) (now : Timestamp) (component : NewComponent) : Component where
  id := id
  type := component.type
  displayName := component.effectiveDisplayName
  propsSchema := component.propsSchema
  createdAt := now

/-- The schema that props must meet, if there is one; null is none. -/
def schema? (component : Component) : Option Json :=
  schemaOf component.propsSchema

def toJson (component : Component) : Json :=
  .object [("createdAt", .string component.createdAt.text),
    ("displayName", .string component.displayName), ("id", .string component.id),
    ("propsSchema", schemaToJson component.propsSchema), ("type", .string component.type)]

end Component

structure Registry where
  components : Std.ExtTreeMap String Component := ∅

namespace Registry

def taken (type : String) : StoreError := .conflict s!"Component type already exists: {type}"

def find (type : String) (registry : Registry) : Option Component :=
  registry.components[type]?

def size (registry : Registry) : Nat :=
  registry.components.size

/-- Registers a component under a new id, unless its type is taken. -/
def create (id : String) (now : Timestamp) (component : NewComponent) (registry : Registry) :
    Except StoreError (Component × Registry) :=
  if registry.components.contains component.type then .error (taken component.type)
  else
    let record := Component.ofNew id now component
    .ok (record, ⟨registry.components.insert component.type record⟩)

end Registry

end SiteDesk
