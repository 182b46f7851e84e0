import SiteDesk.Proofs.WrappedRoots

/-!
What is told about props that are refused. A refusal comes after the last attempt, on the props as
they are or under the wrapper field, and its issues are those that the check of this attempt
reports. There is at least one, and under the wrapper field every issue stands below that field.
-/
namespace SiteDesk.Schema

variable {definition candidate : Json} {schema : Compiled} {context : BlockContext}
  {failure : ValidationFailure} {root : Validator} {field : String} {issues : List Issue}
  {issue : Issue}

/-- What the last attempt checks: the candidate as it is, or under the wrapper field. -/
def Compiled.lastTried (schema : Compiled) (candidate : Json) : Json :=
  match schema.form with
  | .direct => candidate
  | .wrapped field => wrap field candidate

/-- Props are refused exactly if the check fails on the candidate and on what is tried last, and the
issues are those of the latter. -/
theorem Compiled.run_eq_error_iff :
    schema.run candidate context = .error failure ↔
      (∃ issues, schema.check candidate = .error issues) ∧
        schema.check (schema.lastTried candidate) = .error failure.issues ∧
          failure.context = context ∧ failure.received = candidate.kind := by
  obtain ⟨place, received, reported⟩ := failure
  unfold run lastTried
  cases hc : schema.check candidate with
  | ok data => simp
  | error found =>
    cases schema.form with
    | direct => simp [hc, eq_comm, and_left_comm, and_comm]
    | wrapped field =>
      dsimp only
      cases schema.check (wrap field candidate) with
      | ok data => simp
      | error found => simp [eq_comm, and_left_comm, and_comm]

theorem Compiled.issues_ne_nil (refused : schema.check candidate = .error issues) : issues ≠ [] :=
  (Validator.validate_eq_error_iff.1 refused).2

theorem ValidationFailure.summary_of_issues (h : failure.issues ≠ []) :
    failure.summary = "; ".intercalate (failure.issues.map Issue.display) := by
  unfold summary
  rw [if_neg (by simpa using h)]

/-- The wrapped candidate is an object, so nothing is wrong with it but below its one field. -/
theorem wrapped_issue_path (validator : schema.validator = .object [(field, root)] false)
    (refused : schema.check (wrap field candidate) = .error issues) (reported : issue ∈ issues) :
    ∃ path, issue.path = field :: path := by
  unfold Compiled.check at refused
  rw [validator, Validator.validate_eq_error_iff] at refused
  rw [← refused.1, Validator.mem_check_issues] at reported
  obtain ⟨path, found, here, hpath, reached, fault⟩ := reported
  cases reached with
  | here => simp [Validator.fault?, Validator.wanted?, wrap, Json.kind] at fault
  | down step rest =>
    obtain rfl := List.mem_singleton.1 step
    exact ⟨_, hpath⟩

/-- Every refusal names its block and gives all issues of the last attempt, in its message and in
its details. There is at least one, and those of a wrapped candidate stand below the wrapper field.
-/
theorem refusals_explained (definition candidate : Json) (schema : Compiled)
    (context : BlockContext) (failure : ValidationFailure)
    (compiled : compile definition = .ok schema)
    (refused : schema.run candidate context = .error failure) :
    failure.issues ≠ [] ∧ failure.context = context ∧
      failure.message = s!"Invalid props for block {context.index} ({context.blockType}): " ++
        "; ".intercalate (failure.issues.map Issue.display) ∧
      failure.details = .object [("blockType", .string context.blockType),
        ("index", .ofNat context.index), ("issues", .array (failure.issues.map fun issue =>
          .object [("message", .string issue.message),
            ("path", .array (issue.path.map Json.string))]))] ∧
      (schema.form = .direct → schema.check candidate = .error failure.issues) ∧
      ∀ field, schema.form = .wrapped field →
        schema.check (wrap field candidate) = .error failure.issues ∧
          ∀ issue ∈ failure.issues, ∃ path, issue.path = field :: path := by
  obtain ⟨-, last, rfl, -⟩ := Compiled.run_eq_error_iff.1 refused
  have some_issue := Compiled.issues_ne_nil last
  refine ⟨some_issue, rfl, ?_, rfl, fun direct => ?_, fun field wrapped => ?_⟩
  · rw [← ValidationFailure.summary_of_issues some_issue]
    rfl
  · rwa [Compiled.lastTried, direct] at last
  · rw [Compiled.lastTried, wrapped] at last
    obtain ⟨-, root, unknown, -, validator⟩ := wrapped_root compiled wrapped
    exact ⟨last, fun issue reported => wrapped_issue_path validator last reported⟩

/-- Of three pictures the second has a number for its source, and the third is null. -/
theorem refusals_explained_gallery :
    let candidate : Json := .array [.object [("src", .string "/a.jpg")],
      .object [("src", .ofNat 7)], .null]
    let context : BlockContext := ⟨"Gallery", 3⟩
    ∃ schema failure, compile (.object [("items", .object [("src", .string "string")])]) =
        .ok schema ∧
      schema.form = .wrapped "value" ∧ schema.run candidate context = .error failure ∧
      failure.message = "Invalid props for block 3 (Gallery): value.1.src: Expected string, " ++
        "received number; value.2: Expected object, received null" ∧
      ∀ issue ∈ failure.issues, ∃ path, issue.path = "value" :: path := by
  intro candidate context
  let schema : Compiled := ⟨.object [("value",
    .array (.object [("src", .primitive .string false)] false) false)] false, .wrapped "value", []⟩
  let failure : ValidationFailure := ⟨context, .array,
    [⟨["value", "1", "src"], "Expected string, received number"⟩,
      ⟨["value", "2"], "Expected object, received null"⟩]⟩
  have compiled : compile (.object [("items", .object [("src", .string "string")])]) =
      .ok schema := by
    rfl
  have refused : schema.run candidate context = .error failure := by
    rfl
  obtain ⟨-, -, message, -, -, wrapped⟩ :=
    refusals_explained _ candidate schema context failure compiled refused
  refine ⟨schema, failure, compiled, rfl, refused, message.trans ?_, (wrapped "value" rfl).2⟩
  decide +kernel

end SiteDesk.Schema
