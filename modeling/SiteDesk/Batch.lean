import SiteDesk.Desk

/-!
Batches: command texts executed in order, each whether or not the ones before it succeeded.
-/
namespace SiteDesk.Batch

open SiteDesk.Command

structure Entry where
  command : String
  outcome : Outcome

def isOk : Outcome → Bool
  | .ok _ => true
  | .error _ => false

def outcomeToJson : Outcome → Json
  | .ok output => output.toJson
  | .error failure => failure.toJson

def Entry.isOk (entry : Entry) : Bool :=
  Batch.isOk entry.outcome

def Entry.toJson (entry : Entry) : Json :=
  .object [("command", .string entry.command), ("ok", .bool entry.isOk),
    ("result", outcomeToJson entry.outcome)]

def run (config : Config) (stamp : Stamp) (actor : Option String) :
    List String → Desk → List Entry × Desk
  | [], desk => ([], desk)
  | text :: rest, desk =>
    let (outcome, desk) := desk.execute config stamp actor text
    let (entries, desk) := run config stamp actor rest desk
    (⟨text, outcome⟩ :: entries, desk)

/-- The report on a batch, with the audit log where it is asked for. -/
def report (entries : List Entry) (log : Option (List Audit.Entry)) : Json :=
  .object ((match log with
    | some log => [("audit", .array (log.map Audit.Entry.toJson))]
    | none => []) ++ [("outcomes", .array (entries.map Entry.toJson))])

end SiteDesk.Batch
