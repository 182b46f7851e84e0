import SiteDesk.Schema.Definition

/-!
Validating the props of a block against a compiled schema. Props are tried as they are; where the
schema wraps its root they are tried once more under the wrapper field and unwrapped again.
-/
namespace SiteDesk.Schema

structure BlockContext where
  blockType : String
  index : Nat
  deriving DecidableEq, Repr

inductive Attempt where
  | direct
  | wrapped
  deriving DecidableEq, Repr

structure Validated where
  data : Json
  attempt : Attempt

/-- Props that no attempt accepted, with the issues of the last one. -/
structure ValidationFailure where
  context : BlockContext
  received : Json.Kind
  issues : List Issue
  deriving DecidableEq, Repr

namespace ValidationFailure

def summary (failure : ValidationFailure) : String :=
  if failure.issues.isEmpty then
    s!"no validator error available for value of type {failure.received.name}"
  else "; ".intercalate (failure.issues.map Issue.display)

def message (failure : ValidationFailure) : String :=
  let { blockType, index } := failure.context
  s!"Invalid props for block {index} ({blockType}): {failure.summary}"

def details (failure : ValidationFailure) : Json :=
  .object [("blockType", .string failure.context.blockType),
    ("index", .ofNat failure.context.index),
    ("issues", .array (failure.issues.map Issue.toJson))]

end ValidationFailure

def Compiled.check (schema : Compiled) (candidate : Json) : Except (List Issue) Json :=
  schema.validator.validate candidate

def wrap (field : String) (candidate : Json) : Json :=
  .object [(field, candidate)]

/-- The value under a field, null if there is none. -/
def unwrap (field : String) (value : Json) : Json :=
  (value.member? field).getD .null

def Compiled.run (schema : Compiled) (candidate : Json) (context : BlockContext) :
    Except ValidationFailure Validated :=
  match schema.check candidate with
  | .ok data => .ok ⟨data, .direct⟩
  | .error issues =>
    match schema.form with
    | .direct => .error ⟨context, candidate.kind, issues⟩
    | .wrapped field =>
      match schema.check (wrap field candidate) with
      | .ok data => .ok ⟨unwrap field data, .wrapped⟩
      | .error issues => .error ⟨context, candidate.kind, issues⟩

end SiteDesk.Schema
