import SiteDesk.Json.Basic

/-!
What a validator finds wrong with a value: a path from the root of the value, with array indices in
decimal digits, and a message.
-/
namespace SiteDesk.Schema

structure Issue where
  path : List String
  message : String
  deriving DecidableEq, Repr

namespace Issue

def required (path : List String) : Issue :=
  ⟨path, "Required"⟩

def mismatch (path : List String) (expected : String) (received : Json.Kind) : Issue :=
  ⟨path, s!"Expected {expected}, received {received.name}"⟩

def dotted (path : List String) : String :=
  ".".intercalate path

def display (issue : Issue) : String :=
  if issue.path.isEmpty then issue.message else s!"{dotted issue.path}: {issue.message}"

def startsWith (issue : Issue) (field : String) : Bool :=
  issue.path.head? = some field

def toJson (issue : Issue) : Json :=
  .object [("message", .string issue.message), ("path", .ofStrings issue.path)]

end Issue

end SiteDesk.Schema
