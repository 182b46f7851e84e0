import Std.Data.ExtTreeMap
import SiteDesk.Json.Basic
import SiteDesk.Timestamp

/-!
Contact submissions. The store lists them newest first, those of one moment by ascending id.
-/
namespace SiteDesk

structure Contact where
  id : String
  name : String
  email : String
  message : String
  read : Bool := false
  createdAt : Timestamp
  deriving DecidableEq

namespace Contact

def toJson (contact : Contact) : Json :=
  .object [("createdAt", .string contact.createdAt.text), ("email", .string contact.email),
    ("id", .string contact.id), ("message", .string contact.message),
    ("name", .string contact.name), ("read", .bool contact.read)]

def readOf? : Option Json → Option Bool
  | none => some false
  | some value => value.asBool?

def ofFields? (id name email message : Json) (read : Option Json) (createdAt : Json) :
    Option Contact := do
  return {
    id := ← id.asString?
    name := ← name.asString?
    email := ← email.asString?
    message := ← message.asString?
    read := ← readOf? read
    createdAt := ← Timestamp.parse? (← createdAt.asString?) }

/-- Reads a contact from an object with its fields, or from an array of them in order. -/
def ofJson? : Json → Option Contact
  | .object members => do
    ofFields? (← Keyed.get? "id" members) (← Keyed.get? "name" members)
      (← Keyed.get? "email" members) (← Keyed.get? "message" members)
      (Keyed.get? "read" members) (← Keyed.get? "createdAt" members)
  | .array [id, name, email, message, read, createdAt] =>
    ofFields? id name email message (some read) createdAt
  | _ => none

/-- Whether one contact is listed before another, or is that contact. -/
def isListedBefore (a b : Contact) : Bool :=
  if a.createdAt = b.createdAt then decide (a.id ≤ b.id) else b.createdAt.isAtMost a.createdAt

end Contact

structure ContactStore where
  contacts : Std.ExtTreeMap String Contact := ∅

namespace ContactStore

def find (id : String) (store : ContactStore) : Option Contact :=
  store.contacts[id]?

def insert (contact : Contact) (store : ContactStore) : ContactStore :=
  ⟨store.contacts.insert contact.id contact⟩

def all (store : ContactStore) : List Contact :=
  store.contacts.toList.map Prod.snd

/-- The first contacts in listing order, at most `limit` of them. -/
def list (limit : Nat) (store : ContactStore) : List Contact :=
  (store.all.mergeSort Contact.isListedBefore).take limit

def markRead (id : String) (store : ContactStore) : Option (Contact × ContactStore) :=
  (store.find id).map fun contact =>
    let contact := { contact with read := true }
    (contact, ⟨store.contacts.insert id contact⟩)

end ContactStore

end SiteDesk
