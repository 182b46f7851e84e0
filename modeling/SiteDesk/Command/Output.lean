import SiteDesk.Site.Component
import SiteDesk.Site.Contact
import SiteDesk.Site.Page

/-!
What a command that succeeds has done, as it is reported and as it is summed up for the audit log.
-/
namespace SiteDesk.Command

inductive Output where
  | page (record : Page)
  | component (record : Component)
  | contacts (records : List Contact)
  | contact (record : Contact)
  | deletedPage (id path : String)

namespace Output

def resourceId? : Output → Option String
  | .page record => some record.id
  | .component record => some record.id
  | .contacts _ => none
  | .contact record => some record.id
  | .deletedPage id _ => some id

def summary : Output → Json
  | .page record =>
    .object [("path", .string record.path), ("status", .string record.status.name)]
  | .component record => .object [("type", .string record.type)]
  | .contacts records => .object [("count", .ofNat records.length)]
  | .contact record => .object [("read", .bool record.read)]
  | .deletedPage _ path => .object [("path", .string path)]

def kindName : Output → String
  | .page _ => "page"
  | .component _ => "component"
  | .contacts _ => "contacts"
  | .contact _ => "contact"
  | .deletedPage _ _ => "deleted_page"

def data : Output → Json
  | .page record => record.toJson
  | .component record => record.toJson
  | .contacts records => .array (records.map Contact.toJson)
  | .contact record => record.toJson
  | .deletedPage id path => .object [("id", .string id), ("path", .string path)]

def toJson (output : Output) : Json :=
  .object [("data", output.data), ("kind", .string output.kindName)]

end Output

end SiteDesk.Command
