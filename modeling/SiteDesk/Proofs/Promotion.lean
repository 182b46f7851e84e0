import SiteDesk.Proofs.Admission
import SiteDesk.Schema.Alias

/-!
Promotion of the legacy field against validation. Promotion reads only the definition and always
puts a list under the target field, so it can take away what a schema accepted, but only where the
compiled target field refuses that list; every other part of the props is judged as before.
-/
namespace SiteDesk.Schema

/-- A compiled schema has declared fields at its root, or wraps a root that declares none. -/
theorem compile_shape {definition : Json} {schema : Compiled}
    (h : compile definition = .ok schema) :
    (∃ fields optional, schema.validator = .object fields optional ∧ schema.form = .direct) ∨
      ∃ root, root.isObject = false ∧
        schema.validator = .object [(wrapperField, root)] false ∧
        schema.form = .wrapped wrapperField := by
  unfold compile at h
  split at h
  · cases hn : compileNode definition 0 [] with
    | error e => simp [hn] at h
    | ok node =>
      obtain ⟨root, unknown⟩ := node
      simp only [hn, Except.ok.injEq] at h
      subst h
      unfold Compiled.ofRoot
      cases hr : root.isObject with
      | false => exact Or.inr ⟨root, hr, by simp, by simp⟩
      | true =>
        cases root with
        | object fields optional => exact Or.inl ⟨fields, optional, by simp, by simp⟩
        | primitive kind optional => simp [Validator.isObject] at hr
        | array element optional => simp [Validator.isObject] at hr
  · simp at h

namespace Validator

/-- A field that takes no list, or no list with these items: a leaf of some type, an object, or an
array whose elements do not admit one of the items. -/
def RefusesList : Validator → List Json → Prop
  | .primitive kind _, _ => kind.isPermissive = false
  | .array element _, items => ∃ item ∈ items, element.admits (some item) = false
  | .object _ _, _ => True

theorem admits_list_iff {field : Validator} {items : List Json} :
    field.admits (some (.array items)) = true ↔ ¬ field.RefusesList items := by
  cases field with
  | primitive kind optional =>
    cases kind <;> simp [admits, RefusesList, Primitive.accepts, Primitive.isPermissive, Json.kind]
  | array element optional => simp [admits_array, RefusesList]
  | object fields optional => simp [admits, RefusesList]

theorem admitsFields_set {fields : List (String × Validator)} {members : Json.Members}
    (target : String) (value : Json) (h : admitsFields fields members = true) :
    admitsFields fields (Keyed.set target value members) = true ↔
      ∀ field, (target, field) ∈ fields → field.admits (some value) = true := by
  rw [admitsFields_iff] at h ⊢
  constructor
  · intro hs field hf
    simpa using hs (target, field) hf
  · intro ht entry he
    obtain ⟨name, field⟩ := entry
    by_cases hn : name = target
    · subst hn
      simpa using ht field he
    · simpa [Keyed.get?_set_of_ne hn] using h (name, field) he

theorem admits_object_congr {root : Validator} (h : root.isObject = false)
    (members others : Json.Members) :
    root.admits (some (.object members)) = root.admits (some (.object others)) := by
  cases root with
  | primitive kind optional => cases kind <;> simp [admits, Primitive.accepts, Json.kind]
  | array element optional => simp [admits]
  | object fields optional => simp [isObject] at h

end Validator

namespace Alias

theorem promotedValue_eq_some {value list : Json} (h : promotedValue value = .ok (some list)) :
    ∃ items, list = .array items := by
  unfold promotedValue at h
  split at h <;> simp only [Except.ok.injEq, Option.some.injEq, reduceCtorEq] at h
  · exact ⟨_, h.symm⟩
  · exact ⟨_, h.symm⟩

theorem promote_eq_some {definition props promoted : Json}
    (h : promote definition props = .ok (some promoted)) :
    ∃ members items, props = .object members ∧
      promoted = .object (Keyed.set targetField (.array items) members) := by
  unfold promote at h
  split at h
  · next members =>
    split at h
    · split at h <;> simp only [Except.ok.injEq, Option.some.injEq, reduceCtorEq] at h
      next list hl =>
      obtain ⟨items, rfl⟩ := promotedValue_eq_some hl
      exact ⟨members, items, rfl, h.symm⟩
    · simp at h
  · simp at h

/-- The promoted list stands in the way of acceptance: a declared target field refuses it. -/
def Obstructs (definition props : Json) (schema : Compiled) : Prop :=
  ∃ promoted items fields field, promote definition props = .ok (some promoted) ∧
    promoted.member? targetField = some (.array items) ∧
    schema.validator.fields? = some fields ∧ (targetField, field) ∈ fields ∧
    field.RefusesList items

theorem obstructs_iff {definition props : Json} {schema : Compiled} {members : Json.Members}
    {items : List Json} {fields : List (String × Validator)}
    (hp : promote definition props =
      .ok (some (.object (Keyed.set targetField (.array items) members))))
    (hv : schema.validator.fields? = some fields) :
    Obstructs definition props schema ↔
      ∃ field, (targetField, field) ∈ fields ∧ field.RefusesList items := by
  constructor
  · rintro ⟨promoted, found, declared, field, hpromoted, hfound, hdeclared, hm, hr⟩
    rw [hp] at hpromoted
    rw [hv] at hdeclared
    cases hpromoted
    cases hdeclared
    have hi : items = found := by simpa using hfound
    exact ⟨field, hm, hi ▸ hr⟩
  · rintro ⟨field, hm, hr⟩
    exact ⟨_, items, fields, field, hp, by simp, hv, hm, hr⟩

/-- Without declared fields at the root, promotion makes no difference. -/
theorem admits_promoted_of_wrapped {schema : Compiled} {root : Validator} {members : Json.Members}
    {items : List Json} (hr : root.isObject = false)
    (hv : schema.validator = .object [(wrapperField, root)] false)
    (hf : schema.form = .wrapped wrapperField) :
    schema.admits (.object (Keyed.set targetField (.array items) members)) =
      schema.admits (.object members) := by
  have hne : wrapperField ≠ targetField := by decide
  have hw := Validator.admits_object_congr hr (Keyed.set targetField (.array items) members) members
  simp [Compiled.admits, hv, hf, wrap, Validator.admits, Validator.admitsFields, Keyed.get?,
    Keyed.get?_set_of_ne hne, hw]

/-- With declared fields at the root, a promoted list has to suit the declared target fields. -/
theorem admits_promoted_of_direct {schema : Compiled} {fields : List (String × Validator)}
    {optional : Bool} {members : Json.Members} {items : List Json}
    (hv : schema.validator = .object fields optional) (hf : schema.form = .direct)
    (h : schema.admits (.object members) = true) :
    schema.admits (.object (Keyed.set targetField (.array items) members)) = true ↔
      ∀ field, (targetField, field) ∈ fields → ¬ field.RefusesList items := by
  have hm : Validator.admitsFields fields members = true := by
    simpa [Compiled.admits, hv, hf, Validator.admits] using h
  have hs := Validator.admitsFields_set targetField (.array items) hm
  simpa [Compiled.admits, hv, hf, Validator.admits, Validator.admits_list_iff] using hs

/-- What a schema accepts it still accepts after promotion, unless the promoted list stands in the
way; and then it does not. -/
theorem accepted_normalize_iff {definition props : Json} {schema : Compiled}
    {context : BlockContext} {validated : Validated} (hc : compile definition = .ok schema)
    (hr : schema.run props context = .ok validated) :
    (∃ kept, schema.run (normalize definition props) context = .ok kept) ↔
      ¬ Obstructs definition props schema := by
  have ha := (Compiled.admits_of_run hr).1
  have hk : ∀ candidate, (∃ kept, schema.run candidate context = .ok kept) ↔
      schema.admits candidate = true := by
    intro candidate
    constructor
    · rintro ⟨kept, hkept⟩
      exact (Compiled.admits_of_run hkept).1
    · intro h
      obtain ⟨attempt, hrun⟩ := Compiled.run_of_admits context h
      exact ⟨_, hrun⟩
  rw [hk]
  cases hp : promote definition props with
  | error e => simp [normalize, Obstructs, hp, ha]
  | ok outcome =>
    cases outcome with
    | none => simp [normalize, Obstructs, hp, ha]
    | some promoted =>
      obtain ⟨members, items, rfl, rfl⟩ := promote_eq_some hp
      rw [normalize, hp]
      rcases compile_shape hc with ⟨fields, optional, hv, hf⟩ | ⟨root, hroot, hv, hf⟩
      · rw [obstructs_iff hp (congrArg Validator.fields? hv), admits_promoted_of_direct hv hf ha]
        simp only [not_exists, not_and]
      · have hne : targetField ≠ wrapperField := by decide
        rw [obstructs_iff hp (congrArg Validator.fields? hv),
          admits_promoted_of_wrapped hroot hv hf]
        simp [ha, hne]

/-- An optional list of texts takes a promoted text. -/
theorem accepted_normalize_optional_list :
    let definition := Json.object
      [("images", .object [("items", .string "string"), ("type", .string "array?")])]
    let props := Json.object [("backgroundImage", .string "/a.jpg")]
    ∃ schema validated, compile definition = .ok schema ∧
      schema.run props ⟨"Hero", 0⟩ = .ok validated ∧
      ∃ kept, schema.run (normalize definition props) ⟨"Hero", 0⟩ = .ok kept := by
  refine ⟨⟨.object [("images", .array (.primitive .string false) true)] false, .direct, []⟩,
    ⟨.object [("backgroundImage", .string "/a.jpg")], .direct⟩, rfl, rfl, ?_⟩
  refine (accepted_normalize_iff rfl rfl).2 ?_
  rw [obstructs_iff rfl rfl]
  simp [targetField, Validator.RefusesList, Validator.admits, Primitive.accepts, Json.kind]

/-- An optional text refuses the list that the legacy text is promoted to, so props that were
accepted are rejected after promotion. -/
theorem normalize_not_advisory :
    ¬ ∀ (definition props : Json) (schema : Compiled) (context : BlockContext)
        (validated : Validated),
      compile definition = .ok schema → schema.run props context = .ok validated →
        ∃ kept, schema.run (normalize definition props) context = .ok kept := by
  intro h
  obtain ⟨kept, hk⟩ := h (.object [("images", .string "string?")])
    (.object [("backgroundImage", .string "/a.jpg")])
    ⟨.object [("images", .primitive .string true)] false, .direct, []⟩ ⟨"Hero", 0⟩
    ⟨.object [("backgroundImage", .string "/a.jpg")], .direct⟩ rfl rfl
  cases hk

end Alias

end SiteDesk.Schema
