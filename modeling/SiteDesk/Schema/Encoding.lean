import SiteDesk.Schema.Definition

/-!
The JSON forms of validators and compiled schemas.
-/
namespace SiteDesk.Schema

def Primitive.toJson : Primitive → Json
  | .unknown tag => .object [("unknown", .string tag)]
  | kind => .string kind.name

namespace Validator

mutual

def toJson : Validator → Json
  | .primitive kind optional =>
    .object [("kind", kind.toJson), ("optional", .bool optional), ("shape", .string "primitive")]
  | .array element optional =>
    .object [("element", toJson element), ("optional", .bool optional), ("shape", .string "array")]
  | .object fields optional =>
    .object [("fields", .ofMembers (fieldsToJson fields)), ("optional", .bool optional),
      ("shape", .string "object")]

def fieldsToJson : List (String × Validator) → Json.Members
  | [] => []
  | (name, field) :: rest => (name, toJson field) :: fieldsToJson rest

end

end Validator

def Form.toJson : Form → Json
  | .direct => .object [("kind", .string "object")]
  | .wrapped field => .object [("field", .string field), ("kind", .string "wrapped")]

def UnknownTag.toJson (unknown : UnknownTag) : Json :=
  .object [("path", .string (Issue.dotted unknown.path)), ("tag", .string unknown.tag)]

def unknownTagsToJson (unknown : List UnknownTag) : Json :=
  .array (unknown.map UnknownTag.toJson)

end SiteDesk.Schema
