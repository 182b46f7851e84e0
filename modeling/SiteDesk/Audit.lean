import SiteDesk.Command.Failure
import SiteDesk.Command.Output

/-!
The audit log: one entry for each command, whether it succeeded or not.
-/
namespace SiteDesk.Audit

open SiteDesk.Command

structure Note where
  actor : Option String
  action : String
  resource : Option Resource
  resourceId : Option String
  command : String
  success : Bool
  details : Json

structure Entry extends Note where
  createdAt : Timestamp

def unparsedAction : String := "unparsed_command"

/-- The note on a command with a certain outcome: a summary of the output, or the reported form of
the failure. -/
def Note.ofOutcome (actor : Option String) (action : String) (resource : Option Resource)
    (command : String) : Except Failure Output → Note
  | .ok output => ⟨actor, action, resource, output.resourceId?, command, true, output.summary⟩
  | .error failure => ⟨actor, action, resource, none, command, false, failure.toJson⟩

def Entry.toJson (entry : Entry) : Json :=
  .object [("action", .string entry.action), ("actor", .ofString? entry.actor),
    ("command", .string entry.command), ("createdAt", .string entry.createdAt.text),
    ("details", entry.details), ("resourceId", .ofString? entry.resourceId),
    ("resourceType", .ofString? (entry.resource.map Resource.name)),
    ("success", .bool entry.success)]

end SiteDesk.Audit
