import SiteDesk.Proofs.CompiledNodes
import SiteDesk.Proofs.Diagnostics

/-!
What a schema accepts whose root declares no fields. A candidate is tried as it is before it is
wrapped, as an object that may hold the wrapper field. Members that no field declares pass through,
so if the root may be absent, every object without the wrapper field is accepted, whatever its
members are.
-/
namespace SiteDesk.Schema

variable {definition candidate value : Json} {schema : Compiled} {root : Validator}
  {field : String} {context : BlockContext}

theorem Validator.exists_validate_iff {validator : Validator} :
    (∃ data, validator.validate value = .ok data) ↔ validator.admits (some value) = true := by
  simp [validate_eq_ok_iff, check_issues_iff]

theorem Validator.admits_none_eq (validator : Validator) :
    validator.admits none = validator.acceptsMissing := by
  cases validator <;> simp [admits, acceptsMissing]

theorem Compiled.exists_run_iff :
    (∃ validated, schema.run candidate context = .ok validated) ↔
      schema.admits candidate = true := by
  constructor
  · rintro ⟨validated, accepted⟩
    exact (admits_of_run accepted).1
  · intro admitted
    obtain ⟨attempt, accepted⟩ := run_of_admits context admitted
    exact ⟨_, accepted⟩

/-- A schema of the wrapped form has the validator of a root without fields under the wrapper
field. -/
theorem wrapped_root (compiled : compile definition = .ok schema)
    (wrapped : schema.form = .wrapped field) :
    field = wrapperField ∧ ∃ root unknown, compileNode definition 0 [] = .ok (root, unknown) ∧
      schema.validator = .object [(field, root)] false := by
  obtain ⟨-, ⟨root, unknown⟩, hn, rfl⟩ := compile_eq_ok_iff.1 compiled
  unfold Compiled.ofRoot at wrapped ⊢
  cases ho : root.isObject with
  | true => simp [ho] at wrapped
  | false =>
    simp only [ho, Bool.false_eq_true, if_false, Form.wrapped.injEq] at wrapped ⊢
    subst wrapped
    exact ⟨rfl, root, unknown, hn, rfl⟩

/-- The root is tried on the member under the wrapper field, which may be missing, and then on the
candidate itself. -/
theorem Compiled.admits_wrapped_iff (validator : schema.validator = .object [(field, root)] false)
    (wrapped : schema.form = .wrapped field) :
    schema.admits candidate = true ↔
      root.admits (some candidate) = true ∨
        ∃ members, candidate = .object members ∧
          root.admits (Keyed.get? field members) = true := by
  have second : schema.validator.admits (some (wrap field candidate)) =
      root.admits (some candidate) := by
    simp [validator, wrap, Validator.admits, Validator.admitsFields, Keyed.get?]
  have first : schema.validator.admits (some candidate) = true ↔
      ∃ members, candidate = .object members ∧ root.admits (Keyed.get? field members) = true := by
    rw [validator]
    cases candidate <;> simp [Validator.admits, Validator.admitsFields]
  unfold admits
  rw [wrapped]
  dsimp only
  rw [Bool.or_eq_true, first, second, or_comm]

/-- A schema that wraps its root accepts what the root accepts, an object with such a value under
the wrapper field and, if the root may be absent, every object without that field; and it accepts
nothing else. -/
theorem wrapped_accepts_iff (definition : Json) (schema : Compiled) (field : String)
    (compiled : compile definition = .ok schema) (wrapped : schema.form = .wrapped field) :
    field = wrapperField ∧ ∃ root unknown, compileNode definition 0 [] = .ok (root, unknown) ∧
      schema.validator = .object [(field, root)] false ∧
      ∀ candidate context, (∃ validated, schema.run candidate context = .ok validated) ↔
        (∃ data, root.validate candidate = .ok data) ∨
        (∃ members value, candidate = .object members ∧ Keyed.get? field members = some value ∧
          ∃ data, root.validate value = .ok data) ∨
        root.acceptsMissing = true ∧
          ∃ members, candidate = .object members ∧ Keyed.get? field members = none := by
  obtain ⟨hfield, root, unknown, hn, hv⟩ := wrapped_root compiled wrapped
  refine ⟨hfield, root, unknown, hn, hv, fun candidate context => ?_⟩
  rw [Compiled.exists_run_iff, Compiled.admits_wrapped_iff hv wrapped,
    Validator.exists_validate_iff]
  refine or_congr_right ⟨?_, ?_⟩
  · rintro ⟨members, rfl, admitted⟩
    cases hg : Keyed.get? field members with
    | some value =>
      rw [hg] at admitted
      exact .inl ⟨members, value, rfl, hg, Validator.exists_validate_iff.2 admitted⟩
    | none =>
      rw [hg, Validator.admits_none_eq] at admitted
      exact .inr ⟨admitted, members, rfl, hg⟩
  · rintro (⟨members, value, rfl, hg, accepted⟩ | ⟨absent, members, rfl, hg⟩)
    · exact ⟨members, rfl, by rw [hg]; exact Validator.exists_validate_iff.1 accepted⟩
    · exact ⟨members, rfl, by rw [hg, Validator.admits_none_eq]; exact absent⟩

/-- An optional number takes props that hold no number at all, but not such props under the wrapper
field. -/
theorem wrapped_accepts_iff_number :
    let props : Json := .object [("count", .string "seven")]
    let context : BlockContext := ⟨"Counter", 0⟩
    ∃ schema, compile (.string "number?") = .ok schema ∧ schema.form = .wrapped "value" ∧
      (∃ validated, schema.run props context = .ok validated) ∧
      ¬ ∃ validated, schema.run (wrap "value" props) context = .ok validated := by
  intro props context
  have compiled : compile (.string "number?") =
      .ok ⟨.object [("value", .primitive .number true)] false, .wrapped "value", []⟩ := by
    rfl
  obtain ⟨-, root, unknown, -, hv, accepts⟩ :=
    wrapped_accepts_iff _ _ "value" compiled rfl
  obtain rfl : .primitive .number true = root := by simpa using hv
  refine ⟨_, compiled, rfl, (accepts props context).2 (.inr (.inr ⟨rfl, _, rfl, rfl⟩)), ?_⟩
  rw [accepts]
  simp [Validator.exists_validate_iff, Validator.admits, Primitive.accepts, Json.kind, wrap, props,
    Keyed.get?]

/-- An object that is not empty is accepted where the root is an optional text, though it is no text
and holds none under the wrapper field. -/
theorem unwrapped_object_accepted :
    ¬ ∀ (definition : Json) (schema : Compiled) (field : String) (root : Validator)
        (unknown : List UnknownTag) (candidate : Json) (context : BlockContext)
        (validated : Validated),
      compile definition = .ok schema → schema.form = .wrapped field →
      compileNode definition 0 [] = .ok (root, unknown) →
      schema.run candidate context = .ok validated →
        (∃ data, root.validate candidate = .ok data) ∨
        (∃ members value, candidate = .object members ∧ Keyed.get? field members = some value ∧
          ∃ data, root.validate value = .ok data) ∨
        root.acceptsMissing = true ∧ candidate = .empty := by
  intro h
  have claimed := h (.string "string?")
    ⟨.object [("value", .primitive .string true)] false, .wrapped "value", []⟩ "value"
    (.primitive .string true) [] (.object [("text", .ofNat 7)]) ⟨"Note", 0⟩
    ⟨.object [("text", .ofNat 7)], .direct⟩ rfl rfl rfl rfl
  simp [Validator.exists_validate_iff, Validator.admits, Primitive.accepts, Json.kind, Json.empty,
    Keyed.get?] at claimed

end SiteDesk.Schema
