import SiteDesk.Command.Plan
import SiteDesk.Config
import SiteDesk.Schema.Alias
import SiteDesk.Schema.Cache

/-!
The plan of each action. A page is created only after every block of its layout was accepted, block
by block from the first; the first failure ends the plan. A page is published or deleted under the
id that its target was found to have.
-/
namespace SiteDesk.Command

abbrev Handler := ExceptT Failure Plan

namespace Handler

variable {α : Type}

/-- A call on a store; what the store refuses is a failure. -/
def ofStore (plan : Plan (Except StoreError α)) : Handler α :=
  ExceptT.mk (plan.bind fun reply => .done (reply.mapError Failure.ofStore))

def orFail (failure : Failure) : Option α → Handler α
  | some value => pure value
  | none => throw failure

end Handler

open Handler

def text? (name : String) (payload : Json.Members) : Option String :=
  ((Keyed.get? name payload).bind Json.asString?).bind fun text =>
    let trimmed := Text.trim text.toList
    if trimmed.isEmpty then none else some (String.ofList trimmed)

def requiredText (name : String) (missing : PayloadError) (payload : Json.Members) :
    Handler String :=
  orFail (.invalidPayload missing) (text? name payload)

def blockType? (raw : Json) : Option String :=
  ((raw.member? "type").bind Json.asString?).filter (· ≠ "")

/-- The props of a raw block; absent and null props are empty. -/
def blockProps (raw : Json) : Json :=
  match raw.member? "props" with
  | none | some .null => Json.empty
  | some props => props

def refusesTags (config : Config) (schema : Schema.Compiled) : Bool :=
  config.rejectUnknownTags && schema.hasUnknownTags

/-- Accepts or refuses the props of a block under a compiled schema. -/
def judge (config : Config) (context : Schema.BlockContext) (schema : Schema.Compiled)
    (props : Json) : Except Failure Block :=
  if refusesTags config schema then
    .error (.invalidPayload (.unknownTags context.blockType schema.unknownTags))
  else
    match schema.run props context with
    | .ok validated => .ok ⟨context.blockType, validated.data⟩
    | .error failure => .error (.invalidProps failure)

/-- Validates a block of a known component. A component without schema, or with one that does not
compile, takes any props. -/
def validateProps (config : Config) (context : Schema.BlockContext) (component : Component)
    (props : Json) : Handler Block :=
  match component.schema? with
  | none => pure ⟨context.blockType, props⟩
  | some definition => do
    let props := Schema.Alias.normalize definition props
    match ← ExceptT.lift (Plan.ask (.compileSchema definition)) with
    | .error _ => pure ⟨context.blockType, props⟩
    | .ok schema => ExceptT.mk (.done (judge config context schema props))

def validateBlock (config : Config) (index : Nat) (raw : Json) : Handler Block := do
  let type ← orFail (.invalidPayload (.blockWithoutType index)) (blockType? raw)
  let found ← ofStore (Plan.ask (.findComponent type))
  let component ← orFail (.unknownComponent type index) found
  validateProps config ⟨type, index⟩ component (blockProps raw)

def validateLayout (config : Config) : Nat → List Json → Handler (List Block)
  | _, [] => pure []
  | index, raw :: rest => do
    let block ← validateBlock config index raw
    let blocks ← validateLayout config (index + 1) rest
    return block :: blocks

def layout? (payload : Json.Members) : Option (List Json) :=
  (Keyed.get? "layout" payload).bind Json.asArray?

/-- The draft that a payload asks for; its title is its slug unless it has one of its own. -/
def draft (path : String) (payload : Json.Members) (layout : List Block) : NewPage where
  path := path
  slug := slug path
  title := (text? "title" payload).getD (slug path)
  status := .draft
  layout := layout

def createPage (config : Config) (actor : Option String) (payload : Json.Members) :
    Handler Output := do
  let path ← requiredText "path" .missingPath payload
  let raw ← orFail (.invalidPayload .layoutNotArray) (layout? payload)
  let layout ← validateLayout config 0 raw
  let page ← ofStore (Plan.ask (.createPage (draft path payload layout) actor))
  return .page page

def lookUp : PageTarget → Plan (Except StoreError (Option Page))
  | .id id => Plan.ask (.findPageById id)
  | .path path => Plan.ask (.findPageByPath path)

def resolvePage (payload : Json.Members) : Handler Page := do
  let target ← requiredText "target" .missingTarget payload
  let found ← ofStore (lookUp (PageTarget.ofText target))
  orFail (.notFound "Page not found") found

def publishPage (actor : Option String) (payload : Json.Members) : Handler Output := do
  let page ← resolvePage payload
  let published ← ofStore (Plan.ask (.publishPage page.id actor))
  return .page published

def deletePage (payload : Json.Members) : Handler Output := do
  let page ← resolvePage payload
  ofStore (Plan.ask (.deletePage page.id))
  return .deletedPage page.id page.path

/-- Refuses a schema for its unknown tags; one that does not compile is accepted. -/
def vetSchema (config : Config) (type : String) (definition : Json) : Handler Unit := do
  match ← ExceptT.lift (Plan.ask (.compileSchema definition)) with
  | .error _ => pure ()
  | .ok schema =>
    if refusesTags config schema then
      throw (.invalidPayload (.unknownTags type schema.unknownTags))

def newSchema (config : Config) (type : String) (payload : Json.Members) :
    Handler (Option Json) :=
  match Keyed.get? "propsSchema" payload with
  | none | some .null => pure none
  | some (.object members) => do
    vetSchema config type (.object members)
    return some (.object members)
  | some _ => throw (.invalidPayload .schemaNotObject)

def createComponent (config : Config) (payload : Json.Members) : Handler Output := do
  let type ← requiredText "type" .missingType payload
  let schema ← newSchema config type payload
  let displayName := (text? "displayName" payload).getD type
  let component ← ofStore (Plan.ask (.createComponent ⟨type, displayName, schema⟩))
  return .component component

def listContacts (config : Config) (payload : Json.Members) : Handler Output := do
  let limit := config.contactLimit ((Keyed.get? "limit" payload).bind Json.asNat?)
  let contacts ← ofStore (Plan.ask (.listContacts limit))
  return .contacts contacts

def markContactRead (payload : Json.Members) : Handler Output := do
  let id ← requiredText "id" .missingContactId payload
  let found ← ofStore (Plan.ask (.markContactRead id))
  let contact ← orFail (.notFound "Contact submission not found") found
  return .contact contact

def handle (config : Config) (actor : Option String) (descriptor : Descriptor) : Handler Output :=
  match descriptor.action with
  | .createPage => createPage config actor descriptor.payload
  | .publishPage => publishPage actor descriptor.payload
  | .deletePage => deletePage descriptor.payload
  | .createComponent => createComponent config descriptor.payload
  | .listContacts => listContacts config descriptor.payload
  | .markContactRead => markContactRead descriptor.payload

end SiteDesk.Command
