/-!
The arguments of the program:

  cms-admin OPTIONS parse TEXT
  cms-admin OPTIONS compile SCHEMA
  cms-admin OPTIONS run [--fixtures FILE] [--actor ID] [--audit] TEXT...

where OPTIONS are [--config FILE] [--log-format text|json]. They may also stand after the name of
the task, where they take precedence; each is given at most once on either side. What follows `--`
is text. Arguments are read from left to right, up to the first that asks for help or the version or
that is out of place.
-/
namespace SiteDesk.CommandLine

inductive Setting where
  | config
  | logFormat
  | fixtures
  | actor
  deriving DecidableEq, Repr

/-- Whether an option takes a value: file names are not empty, and there are two log formats. -/
def Setting.accepts : Setting → String → Bool
  | .config, value => value ≠ ""
  | .logFormat, value => value = "text" || value = "json"
  | .fixtures, value => value ≠ ""
  | .actor, _ => true

inductive Halt where
  | help
  | version
  | misuse
  deriving DecidableEq, Repr

/-- What may be given at a place: options with a value, the flags, and texts up to a number, if
that is bounded. -/
structure Place where
  settings : List (String × Setting)
  hasAudit : Bool
  hasVersion : Bool
  maxTexts : Option Nat

/-- What was given at a place. The last option may still wait for its value to be settled. -/
structure Given where
  settings : List (Setting × String) := []
  unsettled : Option (Setting × String) := none
  audit : Bool := false
  texts : List String := []
  deriving Repr

namespace Given

def setting? (setting : Setting) (given : Given) : Option String :=
  given.settings.lookup setting

def settle (given : Given) : Except Halt Given :=
  match given.unsettled with
  | none => .ok given
  | some (setting, value) =>
    if (given.setting? setting).isSome || !setting.accepts value then .error .misuse
    else .ok { given with settings := (setting, value) :: given.settings, unsettled := none }

def await (setting : Setting) (value : String) (given : Given) : Given :=
  { given with unsettled := some (setting, value) }

def addText (place : Place) (text : String) (given : Given) : Except Halt Given :=
  if (place.maxTexts.map fun limit => decide (given.texts.length < limit)).getD true then
    .ok { given with texts := given.texts ++ [text] }
  else .error .misuse

def addTexts (place : Place) : List String → Given → Except Halt Given
  | [], given => .ok given
  | text :: rest, given => given.addText place text >>= addTexts place rest

end Given

inductive Form where
  | separator
  | long (name : String) (attached : Option String)
  | short (letter : Char)
  | text
  deriving DecidableEq, Repr

def splitAttached (body : List Char) : String × Option String :=
  let name := body.takeWhile (· ≠ '=')
  match body.drop name.length with
  | [] => (String.ofList name, none)
  | _ :: value => (String.ofList name, some (String.ofList value))

/-- The form of an argument; a lone hyphen is a text. -/
def Form.of (arg : String) : Form :=
  match arg.toList with
  | ['-', '-'] => .separator
  | '-' :: '-' :: body =>
    let (name, attached) := splitAttached body
    .long name attached
  | '-' :: letter :: _ => .short letter
  | _ => .text

/-- What an argument is at its place: a text, the separator, an option that is complete, or one that
takes the next argument as its value. -/
inductive Taken where
  | text
  | separator
  | complete (given : Given)
  | awaits (setting : Setting) (given : Given)

def takeLong (place : Place) (name : String) (attached : Option String) (given : Given) :
    Except Halt Taken := do
  match place.settings.lookup name, attached with
  | some setting, none => return .awaits setting (← given.settle)
  | some setting, some value =>
    let given ← given.settle
    return .complete (← (given.await setting value).settle)
  | none, some _ => throw .misuse
  | none, none =>
    let given ← given.settle
    if name = "help" then throw .help
    else if name = "version" && place.hasVersion then throw .version
    else if name = "audit" && place.hasAudit && !given.audit then
      return .complete { given with audit := true }
    else throw .misuse

def takeShort (place : Place) (letter : Char) (given : Given) : Except Halt Taken := do
  let _ ← given.settle
  if letter = 'h' then throw .help
  else if letter = 'V' && place.hasVersion then throw .version
  else throw .misuse

def take (place : Place) (arg : String) (given : Given) : Except Halt Taken :=
  match Form.of arg with
  | .text => .ok .text
  | .separator => .ok .separator
  | .long name attached => takeLong place name attached given
  | .short letter => takeShort place letter given

/-- Reads the options before the name of a task: what is given, the name and the arguments after
it. -/
def readOptions (place : Place) : List String → Given → Except Halt (Given × String × List String)
  | [], _ => .error .misuse
  | arg :: rest, given =>
    match take place arg given, rest with
    | .error halt, _ => .error halt
    | .ok .text, rest => .ok (given, arg, rest)
    | .ok .separator, _ => .error .misuse
    | .ok (.complete given), rest => readOptions place rest given
    | .ok (.awaits _ _), [] => .error .misuse
    | .ok (.awaits setting given), value :: rest =>
      if Form.of value = Form.text then readOptions place rest (given.await setting value)
      else .error .misuse

def readTask (place : Place) : List String → Given → Except Halt Given
  | [], given => given.settle
  | arg :: rest, given =>
    match take place arg given, rest with
    | .error halt, _ => .error halt
    | .ok .text, rest =>
      match given.settle.bind (Given.addText place arg) with
      | .error halt => .error halt
      | .ok given => readTask place rest given
    | .ok .separator, rest => given.settle.bind (Given.addTexts place rest)
    | .ok (.complete given), rest => readTask place rest given
    | .ok (.awaits _ _), [] => .error .misuse
    | .ok (.awaits setting given), value :: rest =>
      if Form.of value = Form.text then readTask place rest (given.await setting value)
      else .error .misuse

def commonSettings : List (String × Setting) :=
  [("config", .config), ("log-format", .logFormat)]

def frontPlace : Place := ⟨commonSettings, false, true, some 0⟩

def singlePlace : Place := ⟨commonSettings, false, false, some 1⟩

def runPlace : Place :=
  ⟨commonSettings ++ [("fixtures", .fixtures), ("actor", .actor)], true, false, none⟩

inductive Task where
  | parse (text : String)
  | compile (schema : String)
  | run (fixtures actor : Option String) (audit : Bool) (commands : List String)
  deriving DecidableEq, Repr

structure Request where
  config : Option String
  task : Task
  deriving DecidableEq, Repr

def taskNames : List String := ["parse", "compile", "run", "help"]

def helpOn : List String → Halt
  | [] => .help
  | [name] => if taskNames.contains name then .help else .misuse
  | _ => .misuse

/-- What is given after the name of a task, and the task, which takes at least one text. -/
def taskOf (name : String) (rest : List String) : Except Halt (Given × Task) := do
  let place := if name = "run" then runPlace else singlePlace
  if name = "help" then throw (helpOn rest)
  if !taskNames.contains name then throw .misuse
  let given ← readTask place rest {}
  match given.texts with
  | [] => throw .misuse
  | text :: more =>
    let task := if name = "parse" then Task.parse text
      else if name = "compile" then Task.compile text
      else Task.run (given.setting? .fixtures) (given.setting? .actor) given.audit (text :: more)
    return (given, task)

def Request.ofArguments (args : List String) : Except Halt Request := do
  let (front, name, rest) ← readOptions frontPlace args {}
  let (given, task) ← taskOf name rest
  let front ← front.settle
  return ⟨given.setting? .config <|> front.setting? .config, task⟩

def Request.files (request : Request) : List String :=
  request.config.toList ++ match request.task with
    | .run fixtures _ _ _ => fixtures.toList
    | _ => []

end SiteDesk.CommandLine
