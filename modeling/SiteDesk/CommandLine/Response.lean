import SiteDesk.Batch
import SiteDesk.CommandLine.Arguments
import SiteDesk.Fixtures

/-!
What the program answers: an exit code, a document or text for the standard output, and a text for
the standard error. The exit code is 1 when a command or the whole task fails, and 2 when the
arguments are out of place.
-/
namespace SiteDesk.CommandLine

inductive Printed where
  | nothing
  | plain (text : String)
  | document (value : Json)

def Printed.render : Printed → String
  | .nothing => ""
  | .plain text => text
  | .document value => value.indentedText ++ "\n"

structure Response where
  exitCode : Nat
  printed : Printed
  complaint : Option String := none

namespace Response

def failed (reason : String) : Response :=
  ⟨1, .nothing, some s!"Error: {reason}\n"⟩

def document (ok : Bool) (value : Json) : Response :=
  ⟨if ok then 0 else 1, .document value, none⟩

end Response

def versionText : String := "cms-admin 0.1.0\n"

def helpLines : List String :=
  ["Run CMS admin commands against in-memory stores",
    "",
    "Usage: cms-admin [OPTIONS] <COMMAND>",
    "",
    "Commands:",
    "  parse    Parse a command and print its descriptor",
    "  compile  Compile a props schema and print the result",
    "  run      Execute commands in order against seeded in-memory stores",
    "  help     Print this message or the help of the given subcommand(s)",
    "",
    "Options:",
    "      --config <config>          TOML configuration file",
    "      --log-format <log-format>  Log output format [possible values: text, json]",
    "  -h, --help                     Print help",
    "  -V, --version                  Print version"]

def helpText : String :=
  String.join (helpLines.map (· ++ "\n"))

def misuseText : String :=
  "error: invalid arguments\n\nFor more information, try '--help'.\n"

def Halt.response : Halt → Response
  | .help => ⟨0, .plain helpText, none⟩
  | .version => ⟨0, .plain versionText, none⟩
  | .misuse => ⟨2, .nothing, some misuseText⟩

def parseText (text : String) : Response :=
  match Command.parse text with
  | .ok descriptor => .document true descriptor.toJson
  | .error error => .document false (Command.Failure.unparsed error).toJson

def compileText (text : String) : Response :=
  match Json.parse text with
  | .error _ => .failed "schema is not valid JSON"
  | .ok definition =>
    match Schema.compile definition with
    | .error error => .document false (.object [("error", .string error.message)])
    | .ok schema => .document true (.object [
        ("hash", .string (Schema.definitionHash definition)), ("kind", schema.form.toJson),
        ("unknownTags", Schema.unknownTagsToJson schema.unknownTags),
        ("validator", schema.validator.toJson)])

def loadFixtures (read : String → Option String) : Option String → Except Response Fixtures
  | none => .ok {}
  | some path =>
    match (read path).map Fixtures.parse with
    | some (.ok fixtures) => .ok fixtures
    | _ => .error (.failed s!"loading fixtures from {path}")

/-- The configuration in a file, or the usual one without a file. -/
def loadConfig (read : String → Option String) : Option String → Except Response Config
  | none => .ok {}
  | some path =>
    match (read path).map Config.parse with
    | some (.ok config) => .ok config
    | _ => .error (.failed s!"loading config from {path}")

def runCommands (config : Config) (stamp : Stamp) (fixtures : Fixtures) (actor : Option String)
    (audit : Bool) (commands : List String) : Response :=
  match fixtures.desk config stamp with
  | .error error => .failed error.message
  | .ok desk =>
    let (entries, desk) := Batch.run config stamp actor commands desk
    .document (entries.all Batch.Entry.isOk)
      (Batch.report entries (if audit then some desk.log else none))

def perform (read : String → Option String) (stamp : Stamp) (config : Config) : Task → Response
  | .parse text => parseText text
  | .compile schema => compileText schema
  | .run fixtures actor audit commands =>
    match loadFixtures read fixtures with
    | .error response => response
    | .ok fixtures => runCommands config stamp fixtures actor audit commands

def Request.respond (read : String → Option String) (stamp : Stamp) (request : Request) :
    Response :=
  match loadConfig read request.config with
  | .error response => response
  | .ok config => perform read stamp config request.task

def respond (read : String → Option String) (stamp : Stamp) (args : List String) : Response :=
  match Request.ofArguments args with
  | .error halt => halt.response
  | .ok request => request.respond read stamp

end SiteDesk.CommandLine
