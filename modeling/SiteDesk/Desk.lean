import SiteDesk.Command.Execution

/-!
The desk over stores in memory. Its state is the site, which is the components, the pages and the
contacts, together with the audit log and the schema cache; it answers every call at once. An id
is used up only by a page or a component that is in fact created.
-/
namespace SiteDesk

open SiteDesk.Command

structure Site where
  components : Registry := {}
  pages : PageStore := {}
  contacts : ContactStore := {}

/-- What a store adds to a new record: one of the ids that are given out in order, and the time. -/
structure Stamp where
  id : Nat → String
  now : Timestamp

/-- The stores, the audit log from its oldest entry on, the schema cache and the number of ids that
were given out. -/
structure Desk where
  site : Site := {}
  log : List Audit.Entry := []
  schemas : Schema.Cache
  issued : Nat := 0

namespace Desk

def empty (config : Config) : Desk where
  schemas := { capacity := config.schemaCacheCapacity }

variable {α β : Type}

/-- The answer of a store that uses up an id, and the desk after it. -/
def created (desk : Desk) (store : Site → α → Site) :
    Except StoreError (β × α) → Except StoreError β × Desk
  | .ok (record, changed) =>
    (.ok record, { desk with site := store desk.site changed, issued := desk.issued + 1 })
  | .error error => (.error error, desk)

def answer (stamp : Stamp) : (c : Call) → Desk → c.Reply × Desk
  | .findComponent type, desk => (.ok (desk.site.components.find type), desk)
  | .createComponent component, desk =>
    desk.created (fun site components => { site with components })
      (desk.site.components.create (stamp.id desk.issued) stamp.now component)
  | .createPage page actor, desk =>
    desk.created (fun site pages => { site with pages })
      (desk.site.pages.create (stamp.id desk.issued) stamp.now actor page)
  | .publishPage id actor, desk =>
    match desk.site.pages.publish stamp.now actor id with
    | .ok (page, pages) => (.ok page, { desk with site := { desk.site with pages } })
    | .error error => (.error error, desk)
  | .findPageById id, desk => (.ok (desk.site.pages.findById id), desk)
  | .findPageByPath path, desk => (.ok (desk.site.pages.findByPath path), desk)
  | .deletePage id, desk =>
    match desk.site.pages.delete id with
    | .ok pages => (.ok (), { desk with site := { desk.site with pages } })
    | .error error => (.error error, desk)
  | .listContacts limit, desk => (.ok (desk.site.contacts.list limit), desk)
  | .markContactRead id, desk =>
    match desk.site.contacts.markRead id with
    | some (contact, contacts) =>
      (.ok (some contact), { desk with site := { desk.site with contacts } })
    | none => (.ok none, desk)
  | .compileSchema definition, desk =>
    let (schema, schemas) := desk.schemas.compile definition
    (schema, { desk with schemas })
  | .record note, desk => (.ok (), { desk with log := desk.log ++ [⟨note, stamp.now⟩] })

def insertContact (contact : Contact) (desk : Desk) : Desk :=
  { desk with site := { desk.site with contacts := desk.site.contacts.insert contact } }

def execute (config : Config) (stamp : Stamp) (actor : Option String) (text : String)
    (desk : Desk) : Outcome × Desk :=
  (Command.execute config actor text).run (answer stamp) desk

def executeRequest (config : Config) (stamp : Stamp) (actor : Option String) (request : Request)
    (desk : Desk) : Outcome × Desk :=
  (Command.executeRequest config actor request).run (answer stamp) desk

def perform (config : Config) (stamp : Stamp) (actor : Option String) (descriptor : Descriptor)
    (desk : Desk) : Outcome × Desk :=
  (Command.perform config actor descriptor).run (answer stamp) desk

end Desk

end SiteDesk
