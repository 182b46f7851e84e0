import SiteDesk.Command.Handler

/-!
Executing a command, which may come as text, as a request or as a descriptor. Whatever comes of it,
one note is recorded at the end; whether the log accepts the note makes no difference to the
outcome.
-/
namespace SiteDesk.Command

abbrev Outcome := Except Failure Output

def audited (actor : Option String) (action : String) (resource : Option Resource)
    (command : String) (outcome : Outcome) : Plan Outcome :=
  .call (.record (Audit.Note.ofOutcome actor action resource command outcome)) fun _ =>
    .done outcome

def perform (config : Config) (actor : Option String) (descriptor : Descriptor) : Plan Outcome :=
  Plan.bind (handle config actor descriptor).run
    (audited actor descriptor.action.name (some descriptor.action.resource) descriptor.raw)

def execute (config : Config) (actor : Option String) (text : String) : Plan Outcome :=
  match parse text with
  | .ok descriptor => perform config actor descriptor
  | .error error => audited actor Audit.unparsedAction none text (.error (.unparsed error))

def executeRequest (config : Config) (actor : Option String) (request : Request) : Plan Outcome :=
  match request.descriptor with
  | .ok descriptor => perform config actor descriptor
  | .error error =>
    audited actor request.action none request.commandText (.error (.unsupportedAction error))

end SiteDesk.Command
