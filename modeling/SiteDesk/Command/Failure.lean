import SiteDesk.Command.Grammar
import SiteDesk.Schema.Attempt
import SiteDesk.Schema.Encoding
import SiteDesk.Site.Component

/-!
Why a command fails, with the message, the status and the details that are reported. Only a failure
of a store's backend is worth a retry.
-/
namespace SiteDesk.Command

inductive PayloadError where
  | missingPath
  | layoutNotArray
  | blockWithoutType (index : Nat)
  | unknownTags (type : String) (tags : List Schema.UnknownTag)
  | missingTarget
  | missingType
  | schemaNotObject
  | missingContactId
  deriving DecidableEq, Repr

namespace PayloadError

def message : PayloadError → String
  | .missingPath => "Page path is required"
  | .layoutNotArray => "layout must be an array"
  | .blockWithoutType index => s!"Block at index {index} is missing a type"
  | .unknownTags type _ => s!"Props schema for {type} uses unknown types"
  | .missingTarget => "Page path or id is required"
  | .missingType => "Component type is required"
  | .schemaNotObject => "propsSchema must be a JSON object"
  | .missingContactId => "Contact id is required"

/-- The structured form of an error, where there is more to say than its message. -/
def details : PayloadError → Option Json
  | .unknownTags _ tags => some (.object [("unknownTags", Schema.unknownTagsToJson tags)])
  | _ => none

end PayloadError

inductive Failure where
  | unparsed (error : SyntaxError)
  | unsupportedAction (error : UnsupportedAction)
  | invalidPayload (error : PayloadError)
  | unknownComponent (type : String) (index : Nat)
  | notFound (message : String)
  | invalidProps (failure : Schema.ValidationFailure)
  | conflict (message : String)
  | internal (message : String)
  deriving DecidableEq, Repr

namespace Failure

def ofStore : StoreError → Failure
  | .notFound message => .notFound message
  | .conflict message => .conflict message
  | .backend message => .internal (StoreError.backend message).message

def message : Failure → String
  | .unparsed error => error.message
  | .unsupportedAction error => error.message
  | .invalidPayload error => error.message
  | .unknownComponent type index => s!"Unknown component type \"{type}\" at block {index}"
  | .notFound message => message
  | .invalidProps failure => failure.message
  | .conflict message => message
  | .internal message => message

def status : Failure → Nat
  | .notFound _ => 404
  | .internal _ => 500
  | _ => 400

def details : Failure → Option Json
  | .unsupportedAction error => some (.object [("action", .string error.action)])
  | .invalidPayload error => error.details
  | .invalidProps failure => some failure.details
  | _ => none

def isRetryable : Failure → Bool
  | .internal _ => true
  | _ => false

def toJson (failure : Failure) : Json :=
  .object ((match failure.details with
    | some details => [("details", details)]
    | none => []) ++
    [("message", .string failure.message), ("status", .ofNat failure.status)])

end Failure

end SiteDesk.Command
