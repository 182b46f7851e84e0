import SiteDesk.Json.Basic
import SiteDesk.Site.Slug
import SiteDesk.Text.Digit
import SiteDesk.Timestamp

/-!
Pages and the blocks they are made of, with their JSON forms, and the ways to name a page.
-/
namespace SiteDesk

structure Block where
  type : String
  props : Json

def Block.toJson (block : Block) : Json :=
  .object [("props", block.props), ("type", .string block.type)]

inductive PageStatus where
  | draft
  | published
  deriving DecidableEq, Repr

def PageStatus.name : PageStatus → String
  | .draft => "draft"
  | .published => "published"

structure NewPage where
  path : String
  slug : String
  title : String
  status : PageStatus
  layout : List Block

structure Page where
  id : String
  path : String
  slug : String
  title : String
  status : PageStatus
  layout : List Block
  createdBy : Option String
  updatedBy : Option String
  createdAt : Timestamp
  publishedAt : Option Timestamp

namespace Page

def ofNew (id : String) (now : Timestamp) (actor : Option String) (page : NewPage) : Page where
  id := id
  path := page.path
  slug := page.slug
  title := page.title
  status := page.status
  layout := page.layout
  createdBy := actor
  updatedBy := actor
  createdAt := now
  publishedAt := none

def publish (now : Timestamp) (actor : Option String) (page : Page) : Page :=
  { page with status := .published, publishedAt := some now, updatedBy := actor }

def toJson (page : Page) : Json :=
  .object [("createdAt", .string page.createdAt.text), ("createdBy", .ofString? page.createdBy),
    ("id", .string page.id), ("layout", .array (page.layout.map Block.toJson)),
    ("path", .string page.path), ("publishedAt", .ofString? (page.publishedAt.map Timestamp.text)),
    ("slug", .string page.slug), ("status", .string page.status.name),
    ("title", .string page.title), ("updatedBy", .ofString? page.updatedBy)]

end Page

inductive PageTarget where
  | id (id : String)
  | path (path : String)
  deriving DecidableEq, Repr

def idLength : Nat := 24

def isId (text : String) : Bool :=
  text.length = idLength && text.toList.all Text.isHexDigit

/-- A text of the form of an id is one, any other text is a path. -/
def PageTarget.ofText (text : String) : PageTarget :=
  if isId text then .id text else .path text

end SiteDesk
