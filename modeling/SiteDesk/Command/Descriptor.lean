import SiteDesk.Command.Action
import SiteDesk.Json.Basic

/-!
Commands ready to run: a descriptor has a known action, its arguments and the text it came from. A
request comes from a program instead of a text; its action is any string, checked when it is turned
into a descriptor.
-/
namespace SiteDesk.Command

structure Descriptor where
  action : Action
  payload : Json.Members
  raw : String

structure UnsupportedAction where
  action : String
  deriving DecidableEq, Repr

def UnsupportedAction.message (_ : UnsupportedAction) : String :=
  "Unsupported action"

structure Request where
  action : String
  payload : Json.Members := []
  raw : Option String := none

def Descriptor.toJson (descriptor : Descriptor) : Json :=
  .object [("action", .string descriptor.action.tag), ("payload", .object descriptor.payload),
    ("raw", .string descriptor.raw)]

namespace Request

/-- The text recorded for a request: its own, or the name of its action. -/
def commandText (request : Request) : String :=
  request.raw.getD request.action

def descriptor (request : Request) : Except UnsupportedAction Descriptor :=
  match Action.ofName? request.action with
  | some action => .ok ⟨action, request.payload, request.commandText⟩
  | none => .error ⟨request.action⟩

/-- The request as a JSON object; the text is left out when there is none. -/
def toJson (request : Request) : Json :=
  .object ([("action", .string request.action), ("payload", .object request.payload)] ++
    match request.raw with
    | some raw => [("raw", .string raw)]
    | none => [])

/-- The payload in a JSON value: an object, or nothing when absent. -/
def payloadOf? : Option Json → Option Json.Members
  | none => some []
  | some value => value.asMembers?

/-- The text in a JSON value: a string, or nothing when absent or null. -/
def rawOf? : Option Json → Option (Option String)
  | none => some none
  | some .null => some none
  | some value => value.asString?.map some

/-- Reads a request from an object with its fields, or from an array of them in order. -/
def ofJson? : Json → Option Request
  | .object members => do
    let action ← (← Keyed.get? "action" members).asString?
    let payload ← payloadOf? (Keyed.get? "payload" members)
    let raw ← rawOf? (Keyed.get? "raw" members)
    return ⟨action, payload, raw⟩
  | .array (action :: rest) => do
    let action ← action.asString?
    let payload ← payloadOf? rest[0]?
    let raw ← rawOf? rest[1]?
    if rest.length ≤ 2 then some ⟨action, payload, raw⟩ else none
  | _ => none

end Request

end SiteDesk.Command
