import SiteDesk.Command.Argument
import SiteDesk.Command.Descriptor
import SiteDesk.Json.Reader

/-!
The command grammar:

  create page <path> [title=...] [components=<JSON array>]
  publish page <path or id>
  delete page <path or id>
  create component <type> [displayName=...] [propsSchema=<JSON object>]

Verbs match in any case, arguments keep theirs. A JSON argument takes the rest of the text, less
one semicolon at its end.
-/
namespace SiteDesk.Command

inductive Verb where
  | createPage
  | publishPage
  | deletePage
  | createComponent
  deriving DecidableEq, Repr

def Verb.action : Verb → Action
  | .createPage => .createPage
  | .publishPage => .publishPage
  | .deletePage => .deletePage
  | .createComponent => .createComponent

inductive JsonArgument where
  | components
  | propsSchema
  deriving DecidableEq, Repr

namespace JsonArgument

def name : JsonArgument → String
  | .components => "components"
  | .propsSchema => "propsSchema"

def expected : JsonArgument → Json.Kind
  | .components => .array
  | .propsSchema => .object

end JsonArgument

inductive SyntaxError where
  | unsupported
  | missingTarget (verb : Verb)
  | invalidJson (argument : JsonArgument) (reason : String)
  | wrongShape (argument : JsonArgument)
  deriving DecidableEq, Repr

def SyntaxError.message : SyntaxError → String
  | .unsupported => "Unsupported CLI command"
  | .missingTarget .createPage => "Page path is required"
  | .missingTarget .publishPage => "Page path or id is required"
  | .missingTarget .deletePage => "Page path or id is required"
  | .missingTarget .createComponent => "Component type is required"
  | .invalidJson argument reason => s!"Invalid {argument.name} JSON: {reason}"
  | .wrongShape argument => s!"{argument.name} must be a JSON {argument.expected.name}"

/-- The verb phrase of two words. Both verbs for an existing page are matched under simple case
folding; what is not `publish` in ASCII letters is then a deletion. -/
def verb? (first second : List Char) : Option Verb :=
  if Text.foldsTo "create".toList first && Text.foldsTo "page".toList second then
    some .createPage
  else if (Text.foldsTo "publish".toList first || Text.foldsTo "delete".toList first) &&
      Text.foldsTo "page".toList second then
    if Text.sameIgnoringCase first "publish".toList then some .publishPage else some .deletePage
  else if Text.foldsTo "create".toList first && Text.foldsTo "component".toList second then
    some .createComponent
  else none

def verbPhrase? (text : List Char) : Option (Verb × List Char) :=
  let (first, afterFirst) := Text.firstWord (Text.trim text)
  let (second, rest) := Text.firstWord (Text.trimStart afterFirst)
  (verb? first second).map fun verb => (verb, Text.trim rest)

def dropSemicolon (text : List Char) : List Char :=
  if text.getLast? = some ';' then text.dropLast else text

/-- The JSON text of an argument: trimmed, without one semicolon at its end. -/
def jsonText (text : List Char) : List Char :=
  Text.trimEnd (dropSemicolon (Text.trim text))

def readArgument (argument : JsonArgument) (text : List Char) : Except SyntaxError Json :=
  match Json.read (jsonText text) with
  | .error e => .error (.invalidJson argument (e.message (jsonText text)))
  | .ok value => if value.kind = argument.expected then .ok value else .error (.wrongShape argument)

def readArgument? (argument : JsonArgument) : Option (List Char) → Except SyntaxError (Option Json)
  | none => .ok none
  | some text => (readArgument argument text).map some

def optionalMember (name : String) : Option Json → Json.Members
  | none => []
  | some value => [(name, value)]

def textValue (text : List Char) : Json :=
  .string (String.ofList text)

def pagePayload (text : List Char) : Except SyntaxError Json.Members :=
  let (head, json) := splitArgument JsonArgument.components.name text
  match target? head with
  | none => .error (.missingTarget .createPage)
  | some (path, options) =>
    (readArgument? .components json).map fun layout =>
      ("layout", layout.getD (.array [])) :: ("path", textValue path) ::
        optionalMember "title" ((option? "title" options).map textValue)

def componentPayload (text : List Char) : Except SyntaxError Json.Members :=
  let (head, json) := splitArgument JsonArgument.propsSchema.name text
  match target? head with
  | none => .error (.missingTarget .createComponent)
  | some (type, options) =>
    (readArgument? .propsSchema json).map fun schema =>
      optionalMember "displayName" ((option? "displayName" options).map textValue) ++
        optionalMember "propsSchema" schema ++ [("type", textValue type)]

/-- The arguments of a command on an existing page; what follows the target is ignored. -/
def targetPayload (verb : Verb) (text : List Char) : Except SyntaxError Json.Members :=
  match target? text with
  | none => .error (.missingTarget verb)
  | some (target, _) => .ok [("target", textValue target)]

def payload (verb : Verb) (text : List Char) : Except SyntaxError Json.Members :=
  match verb with
  | .createPage => pagePayload text
  | .publishPage => targetPayload .publishPage text
  | .deletePage => targetPayload .deletePage text
  | .createComponent => componentPayload text

def parse (text : String) : Except SyntaxError Descriptor :=
  match verbPhrase? text.toList with
  | none => .error .unsupported
  | some (verb, rest) => (payload verb rest).map fun members => ⟨verb.action, members, text⟩

end SiteDesk.Command
