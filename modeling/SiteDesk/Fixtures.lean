import SiteDesk.Desk
import SiteDesk.Json.Record

/-!
Fixtures: the components and contacts that a desk starts with, read from a JSON text.
-/
namespace SiteDesk

structure ContactFixture where
  name : String
  email : String
  message : String
  read : Bool := false
  deriving DecidableEq, Repr

structure Fixtures where
  components : List NewComponent := []
  contacts : List ContactFixture := []

namespace Fixtures

open Json.Reading

structure ComponentFields where
  type : Option String := none
  displayName : String := ""
  propsSchema : Option Json := none

/-- Brackets around the schema of a component: the document, the list and the component. -/
def schemaLevel : Nat := 3

def component : Json.Reading NewComponent := do
  let fields ← record [
    ⟨"type", fun fields => do return { fields with type := some (← text) }⟩,
    ⟨"displayName", fun fields => do return { fields with displayName := ← text }⟩,
    ⟨"propsSchema", fun fields => do
      return { fields with propsSchema := schemaOf (some (← value (maxDepth - schemaLevel))) }⟩]
    ({} : ComponentFields)
  return ⟨← required fields.type, fields.displayName, fields.propsSchema⟩

structure ContactFields where
  name : Option String := none
  email : Option String := none
  message : Option String := none
  read : Bool := false

def contact : Json.Reading ContactFixture := do
  let fields ← record [
    ⟨"name", fun fields => do return { fields with name := some (← text) }⟩,
    ⟨"email", fun fields => do return { fields with email := some (← text) }⟩,
    ⟨"message", fun fields => do return { fields with message := some (← text) }⟩,
    ⟨"read", fun fields => do return { fields with read := ← flag }⟩]
    ({} : ContactFields)
  return ⟨← required fields.name, ← required fields.email, ← required fields.message, fields.read⟩

/-- The whole document; both lists may be absent. -/
def fixtures : Json.Reading Fixtures :=
  record [
    ⟨"components", fun fixtures => do return { fixtures with components := ← list component }⟩,
    ⟨"contacts", fun fixtures => do return { fixtures with contacts := ← list contact }⟩]
    ({} : Fixtures)

def parse (text : String) : Except Json.ReadError Fixtures :=
  document fixtures text

/-- Registers components in order, up to the first that is refused. -/
def seedComponents (stamp : Stamp) : List NewComponent → Desk → Except StoreError Desk
  | [], desk => .ok desk
  | component :: rest, desk =>
    match desk.answer stamp (.createComponent component) with
    | (.ok _, desk) => seedComponents stamp rest desk
    | (.error error, _) => .error error

def seedContact (stamp : Stamp) (desk : Desk) (fixture : ContactFixture) : Desk :=
  { desk.insertContact ⟨stamp.id desk.issued, fixture.name, fixture.email, fixture.message,
      fixture.read, stamp.now⟩ with issued := desk.issued + 1 }

/-- A desk that starts with the fixtures, unless they repeat a component type. -/
def desk (fixtures : Fixtures) (config : Config) (stamp : Stamp) : Except StoreError Desk :=
  (seedComponents stamp fixtures.components (.empty config)).map fun desk =>
    fixtures.contacts.foldl (seedContact stamp) desk

end Fixtures

end SiteDesk
