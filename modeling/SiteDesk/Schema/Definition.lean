import SiteDesk.Schema.Validator
import SiteDesk.Json.Printer

/-!
Schema definitions: a JSON value read as a validator. A string names a leaf or an array; an object
with a string under `type`, or with `items`, is the long form of the same; any other object
declares fields. Tags that name nothing are kept as leaves that accept everything, and recorded
with the path at which they stand.
-/
namespace SiteDesk.Schema

def maxDepth : Nat := 64

/-- The field under which a root that declares no fields is wrapped. -/
def wrapperField : String := "value"

def elementSegment : String := "*"

inductive CompileError where
  | notAnObject (found : Json.Kind)
  | tooDeep
  deriving DecidableEq, Repr

def CompileError.message : CompileError → String
  | .notAnObject found => s!"schema definition must be an object, got {found.name}"
  | .tooDeep => s!"schema definition exceeds maximum depth of {maxDepth}"

/-- A tag that names no type, and where it stands. -/
structure UnknownTag where
  path : List String
  tag : String
  deriving DecidableEq, Repr

/-- How candidates meet the compiled root: as they are, or under a wrapper field. -/
inductive Form where
  | direct
  | wrapped (field : String)
  deriving DecidableEq, Repr

/-- A compiled definition; its validator is always an object validator. -/
structure Compiled where
  validator : Validator
  form : Form
  unknownTags : List UnknownTag

def Compiled.hasUnknownTags (schema : Compiled) : Bool :=
  !schema.unknownTags.isEmpty

/-- What a node compiles to: a validator, and the unknown tags in it from left to right. -/
abbrev Node := Validator × List UnknownTag

/-- Whether the members of an object are the long form of a leaf or an array. -/
def isLeaf (members : Json.Members) : Bool :=
  ((Keyed.get? "type" members).bind Json.asString?).isSome || Keyed.contains "items" members

/-- A trimmed tag without one `?` at its end, and whether there was one. -/
def splitOptional (tag : List Char) : List Char × Bool :=
  if tag.getLast? = some '?' then (tag.dropLast, true) else (tag, false)

def dropMarks (tag : List Char) : List Char :=
  (tag.reverse.dropWhile (· = '?')).reverse

def isArrayName (name : List Char) : Bool :=
  Text.sameIgnoringCase name "array".toList

def leafNode (kind : Primitive) (optional : Bool) (path : List String) : Node :=
  match kind with
  | .unknown tag => (.primitive (.unknown tag) optional, [⟨path, tag⟩])
  | kind => (.primitive kind optional, [])

/-- The node a tag stands for; `optional` is set from outside or by a `?` at the end. -/
def tagNode (tag : List Char) (optional : Bool) (path : List String) : Node :=
  let (name, marked) := splitOptional (Text.trim tag)
  if isArrayName name then (.array .any (marked || optional), [])
  else leafNode (Primitive.ofTag name) (marked || optional) path

/-- The tag under `type`, empty if there is none. -/
def declaredTag (members : Json.Members) : List Char :=
  (((Keyed.get? "type" members).bind Json.asString?).getD "").toList

def declaredOptional (members : Json.Members) : Bool :=
  ((Keyed.get? "optional" members).bind Json.asBool?).getD false

def declaresArray (members : Json.Members) : Bool :=
  Keyed.contains "items" members || isArrayName (dropMarks (Text.trim (declaredTag members)))

def arrayOptional (members : Json.Members) : Bool :=
  declaredOptional members || (splitOptional (Text.trim (declaredTag members))).2

def isOpen : Json → Bool
  | .null => true
  | .object [] => true
  | _ => false

def strayNode (node : Json) (path : List String) : Node :=
  leafNode (.unknown node.compactText) false path

mutual

def compileNode : Json → Nat → List String → Except CompileError Node
  | node, level, path =>
    if maxDepth < level then .error .tooDeep else
      match node with
      | .string tag => .ok (tagNode tag.toList false path)
      | .null => .ok (.any, [])
      | .object members =>
        if isLeaf members then
          if declaresArray members then
            match compileItems members level path with
            | .error e => .error e
            | .ok (element, unknown) => .ok (.array element (arrayOptional members), unknown)
          else .ok (tagNode (declaredTag members) (declaredOptional members) path)
        else
          match compileFields members level path with
          | .error e => .error e
          | .ok (fields, unknown) => .ok (.object fields false, unknown)
      | .bool b => .ok (strayNode (.bool b) path)
      | .number n => .ok (strayNode (.number n) path)
      | .array items => .ok (strayNode (.array items) path)

/-- Compiles the elements of an array from the first member named `items`. -/
def compileItems : List (String × Json) → Nat → List String → Except CompileError Node
  | [], _, _ => .ok (.any, [])
  | (name, node) :: rest, level, path =>
    if name = "items" then
      if isOpen node then .ok (.any, [])
      else compileNode node (level + 1) (path ++ [elementSegment])
    else compileItems rest level path

def compileFields : List (String × Json) → Nat → List String →
    Except CompileError (List (String × Validator) × List UnknownTag)
  | [], _, _ => .ok ([], [])
  | (name, node) :: rest, level, path =>
    match compileNode node (level + 1) (path ++ [name]) with
    | .error e => .error e
    | .ok (field, unknown) =>
      match compileFields rest level path with
      | .error e => .error e
      | .ok (fields, later) => .ok ((name, field) :: fields, unknown ++ later)

end

/-- Whether a definition may stand at the root. -/
def isRoot (definition : Json) : Bool :=
  definition.kind = .object || definition.kind = .string

/-- The compiled form of a root node: wrapped, unless it declares fields. -/
def Compiled.ofRoot (root : Node) : Compiled :=
  if root.1.isObject then ⟨root.1, .direct, root.2⟩
  else ⟨.object [(wrapperField, root.1)] false, .wrapped wrapperField, root.2⟩

def compile (definition : Json) : Except CompileError Compiled :=
  if isRoot definition then
    match compileNode definition 0 [] with
    | .error e => .error e
    | .ok root => .ok (Compiled.ofRoot root)
  else .error (.notAnObject definition.kind)

def compile? (definition : Json) : Option Compiled :=
  (compile definition).toOption

end SiteDesk.Schema
