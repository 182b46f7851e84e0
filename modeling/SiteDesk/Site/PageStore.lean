import Std.Data.ExtTreeMap
import SiteDesk.Site.Component
import SiteDesk.Site.Page

/-!
The page store: pages by id, and the id of the page at each path. No two stored pages have one
path.
-/
namespace SiteDesk

structure PageStore where
  pages : Std.ExtTreeMap String Page := ∅
  paths : Std.ExtTreeMap String String := ∅

namespace PageStore

def missing : StoreError := .notFound "Page not found"

def taken (path : String) : StoreError := .conflict s!"Page path already exists: {path}"

def findById (id : String) (store : PageStore) : Option Page :=
  store.pages[id]?

def findByPath (path : String) (store : PageStore) : Option Page :=
  store.paths[path]?.bind fun id => store.findById id

/-- Stores a page under a new id, unless its path is taken. -/
def create (id : String) (now : Timestamp) (actor : Option String) (page : NewPage)
    (store : PageStore) : Except StoreError (Page × PageStore) :=
  if store.paths.contains page.path then .error (taken page.path)
  else
    let record := Page.ofNew id now actor page
    .ok (record, ⟨store.pages.insert id record, store.paths.insert page.path id⟩)

def publish (now : Timestamp) (actor : Option String) (id : String) (store : PageStore) :
    Except StoreError (Page × PageStore) :=
  match store.findById id with
  | none => .error missing
  | some page =>
    let record := page.publish now actor
    .ok (record, { store with pages := store.pages.insert id record })

def delete (id : String) (store : PageStore) : Except StoreError PageStore :=
  match store.findById id with
  | none => .error missing
  | some page => .ok ⟨store.pages.erase id, store.paths.erase page.path⟩

end PageStore

end SiteDesk
