import SiteDesk.Proofs.Explanations

/-!
Loosening a schema. A validator relaxes another one if it asks for nothing, or has the same shape
with relaxed parts, maybe fewer of them, and may be absent wherever the other one may. Whatever path
leads down the looser validator leads down the stricter one as well, to a validator that finds at
least the same fault there. So the looser one accepts what the stricter one accepts, and reports
nothing that the stricter one does not report.
-/
namespace SiteDesk.Schema

@[simp] theorem Primitive.wanted?_of_isPermissive {kind : Primitive} (free : kind.isPermissive = true) :
    kind.wanted? = none := by
  cases kind with
  | any => rfl
  | unknown tag => rfl
  | _ => cases free

namespace Validator

variable {relaxed strict found : Validator} {candidate here : Option Json}
  {fields declared : List (String × Validator)} {path : List String} {message : String}
  {place : Place}

mutual

/-- One validator relaxes another: it is a leaf that asks for nothing, or both have one shape, the
parts of the first relax parts of the second, and the first may be absent if the second may. -/
inductive Relaxes : Validator → Validator → Prop
  | permissive {kind : Primitive} (free : kind.isPermissive = true) (flag : Bool)
      (strict : Validator) : Relaxes (.primitive kind flag) strict
  | primitive (kind : Primitive) {flag flag' : Bool} (absent : flag' = true → flag = true) :
      Relaxes (.primitive kind flag) (.primitive kind flag')
  | array {element inner : Validator} {flag flag' : Bool} (elements : Relaxes element inner)
      (absent : flag' = true → flag = true) : Relaxes (.array element flag) (.array inner flag')
  | object {fields declared : List (String × Validator)} {flag flag' : Bool}
      (parts : FieldsRelax fields declared) (absent : flag' = true → flag = true) :
      Relaxes (.object fields flag) (.object declared flag')

inductive FieldsRelax : List (String × Validator) → List (String × Validator) → Prop
  | nil (declared : List (String × Validator)) : FieldsRelax [] declared
  | cons {name : String} {field inner : Validator} {rest declared : List (String × Validator)}
      (member : (name, inner) ∈ declared) (first : Relaxes field inner)
      (later : FieldsRelax rest declared) : FieldsRelax ((name, field) :: rest) declared

end

theorem FieldsRelax.of_mem (h : FieldsRelax fields declared) {entry : String × Validator}
    (he : entry ∈ fields) :
    ∃ inner, (entry.1, inner) ∈ declared ∧ entry.2.Relaxes inner := by
  induction fields with
  | nil => cases he
  | cons head rest ih =>
    cases h with
    | cons member first later =>
      rcases List.mem_cons.1 he with rfl | he
      · exact ⟨_, member, first⟩
      · exact ih later he

theorem fault?_mono (fault : relaxed.fault? candidate = some message)
    (wanted : relaxed.wanted? = strict.wanted?)
    (absent : strict.isOptional = true → relaxed.isOptional = true) :
    strict.fault? candidate = some message := by
  unfold fault? at fault ⊢
  rw [wanted] at fault
  cases candidate with
  | some value => exact fault
  | none =>
    dsimp only at fault ⊢
    split at fault
    · cases fault
    · next needed =>
      rw [if_neg (fun free => needed ?_), fault]
      simp only [Bool.or_eq_true] at free ⊢
      exact free.imp_left absent

theorem Relaxes.fault? (h : relaxed.Relaxes strict)
    (fault : relaxed.fault? candidate = some message) :
    strict.fault? candidate = some message := by
  cases h with
  | permissive free flag strict =>
    have wanted := Primitive.wanted?_of_isPermissive free
    cases candidate <;> simp [Validator.fault?, wanted?, wanted] at fault
  | primitive kind absent => exact fault?_mono fault rfl absent
  | array elements absent => exact fault?_mono fault rfl absent
  | object parts absent => exact fault?_mono fault rfl absent

/-- Wherever the looser validator looks, the stricter one looks too. -/
theorem Relaxes.part (h : relaxed.Relaxes strict) (hp : place ∈ relaxed.parts candidate) :
    ∃ met : Validator, (⟨place.segment, met, place.candidate⟩ : Place) ∈ strict.parts candidate ∧
      place.validator.Relaxes met := by
  cases h with
  | permissive free flag strict => simp [parts] at hp
  | primitive kind absent => simp [parts] at hp
  | array elements absent =>
    unfold parts at hp
    split at hp
    · next items he =>
      cases he
      obtain ⟨entry, hm, rfl⟩ := List.mem_map.1 hp
      exact ⟨_, List.mem_map_of_mem hm, elements⟩
    · next he => cases he
    · cases hp
  | object parts absent =>
    unfold Validator.parts at hp
    split at hp
    · next he => cases he
    · next members he =>
      cases he
      obtain ⟨entry, hm, rfl⟩ := List.mem_map.1 hp
      obtain ⟨inner, member, relaxes⟩ := parts.of_mem hm
      exact ⟨inner, List.mem_map_of_mem member, relaxes⟩
    · cases hp

/-- Every path down the looser validator leads down the stricter one, to a stricter part of it. -/
theorem Relaxes.reaches (h : relaxed.Relaxes strict)
    (reached : relaxed.Reaches candidate path found here) :
    ∃ met, strict.Reaches candidate path met here ∧ found.Relaxes met := by
  induction reached generalizing strict with
  | here validator candidate => exact ⟨strict, .here _ _, h⟩
  | down step rest ih =>
    obtain ⟨next, step', inner⟩ := h.part step
    obtain ⟨met, reached', last⟩ := ih inner
    have below := Reaches.down step' reached'
    exact ⟨met, below, last⟩

theorem Relaxes.check_issues (h : relaxed.Relaxes strict) (path : List String)
    (candidate : Option Json) :
    (relaxed.check path candidate).issues ⊆ (strict.check path candidate).issues := by
  intro issue reported
  obtain ⟨path', found, here, hpath, reached, fault⟩ := (mem_check_issues issue).1 reported
  obtain ⟨met, reached', last⟩ := h.reaches reached
  exact (mem_check_issues issue).2 ⟨path', met, here, hpath, reached', last.fault? fault⟩

theorem Relaxes.validate_ok (h : relaxed.Relaxes strict) {value data : Json}
    (accepted : strict.validate value = .ok data) : relaxed.validate value = .ok data := by
  obtain ⟨faultless, rfl⟩ := validate_eq_ok_iff.1 accepted
  have fewer := h.check_issues [] (some data)
  rw [faultless] at fewer
  exact validate_eq_ok_iff.2 ⟨List.subset_nil.1 fewer, rfl⟩

theorem Relaxes.validate_error (h : relaxed.Relaxes strict) {value : Json} {issues : List Issue}
    (refused : relaxed.validate value = .error issues) :
    ∃ more, strict.validate value = .error more ∧ issues ⊆ more := by
  obtain ⟨rfl, some_issue⟩ := validate_eq_error_iff.1 refused
  have more := h.check_issues [] (some value)
  refine ⟨_, validate_eq_error_iff.2 ⟨rfl, fun none => ?_⟩, more⟩
  rw [none] at more
  exact some_issue (List.subset_nil.1 more)

end Validator

variable {schema looser : Compiled} {candidate : Json} {context : BlockContext}

/-- What the looser schema refuses, the stricter one refuses too, for the same reasons at least. -/
theorem Compiled.run_error_of_relaxes (h : looser.validator.Relaxes schema.validator)
    (form : looser.form = schema.form) {failure : ValidationFailure}
    (refused : looser.run candidate context = .error failure) :
    ∃ more, schema.run candidate context = .error more ∧ failure.issues ⊆ more.issues := by
  obtain ⟨⟨issues, first⟩, last, -, -⟩ := run_eq_error_iff.1 refused
  have same : looser.lastTried candidate = schema.lastTried candidate := by
    unfold lastTried
    rw [form]
  -- Both attempts fail on the stricter schema; only the issues of the last one are told.
  obtain ⟨others, first', -⟩ := h.validate_error first
  obtain ⟨more, last', subset⟩ := h.validate_error last
  rw [same] at last'
  exact ⟨⟨context, candidate.kind, more⟩,
    run_eq_error_iff.2 ⟨⟨others, first'⟩, last', rfl, rfl⟩, subset⟩

theorem Compiled.run_ok_of_relaxes (h : looser.validator.Relaxes schema.validator)
    (form : looser.form = schema.form) {validated : Validated}
    (accepted : schema.run candidate context = .ok validated) :
    ∃ attempt, looser.run candidate context = .ok ⟨validated.data, attempt⟩ := by
  cases hr : looser.run candidate context with
  | error failure =>
    obtain ⟨more, refused, -⟩ := run_error_of_relaxes h form hr
    cases accepted.symm.trans refused
  | ok found =>
    have same : validated.data = found.data :=
      (admits_of_run accepted).2.trans (admits_of_run hr).2.symm
    exact ⟨found.attempt, by rw [same]⟩

/-- A relaxed validator accepts whatever the strict one accepts, as it is, and each issue that it
reports the strict one reports too. So does a schema of the same form with such a validator. -/
theorem relaxed_accepts_more (relaxed strict : Validator) (h : relaxed.Relaxes strict) :
    (∀ value data, strict.validate value = .ok data → relaxed.validate value = .ok data) ∧
    (∀ value issues, relaxed.validate value = .error issues →
      ∃ more, strict.validate value = .error more ∧ issues ⊆ more) ∧
    ∀ schema looser : Compiled, schema.validator = strict → looser.validator = relaxed →
      looser.form = schema.form → ∀ candidate context,
        (∀ validated, schema.run candidate context = .ok validated →
          ∃ attempt, looser.run candidate context = .ok ⟨validated.data, attempt⟩) ∧
        ∀ failure, looser.run candidate context = .error failure →
          ∃ more, schema.run candidate context = .error more ∧ failure.issues ⊆ more.issues := by
  refine ⟨fun _ _ => h.validate_ok, fun _ _ => h.validate_error, ?_⟩
  rintro schema looser rfl rfl form candidate context
  exact ⟨fun _ => Compiled.run_ok_of_relaxes h form,
    fun _ => Compiled.run_error_of_relaxes h form⟩

/-- A list of pictures whose texts may be left out, and whose likes are not looked at any more. -/
theorem relaxed_accepts_more_pictures :
    let strict : Validator := .object [("value", .array (.object [("alt", .primitive .string false),
      ("likes", .primitive .number false), ("src", .primitive .string false)] false) false)] false
    let relaxed : Validator := .object [("value", .array (.object
      [("src", .primitive .any false), ("alt", .primitive .string true)] false) true)] false
    let schema : Compiled := ⟨strict, .wrapped "value", []⟩
    let looser : Compiled := ⟨relaxed, .wrapped "value", []⟩
    let context : BlockContext := ⟨"Pictures", 0⟩
    let pictures : Json := .array [.object [("alt", .string "a boat"), ("likes", .ofNat 3),
      ("src", .string "/boat.jpg")]]
    let misread : Json := .array [.object [("alt", .ofNat 3)]]
    relaxed.Relaxes strict ∧
      relaxed.validate (wrap "value" pictures) = .ok (wrap "value" pictures) ∧
      (∃ attempt, looser.run pictures context = .ok ⟨pictures, attempt⟩) ∧
      ∃ more, schema.run misread context = .error more ∧
        ⟨["value", "0", "alt"], "Expected string, received number"⟩ ∈ more.issues := by
  intro strict relaxed schema looser context pictures misread
  have picture : Validator.FieldsRelax
      [("src", .primitive .any false), ("alt", .primitive .string true)]
      [("alt", .primitive .string false), ("likes", .primitive .number false),
        ("src", .primitive .string false)] :=
    .cons (.tail _ (.tail _ (.head _))) (.permissive rfl false _)
      (.cons (.head _) (.primitive .string fun _ => rfl) (.nil _))
  have relaxes : relaxed.Relaxes strict :=
    .object (.cons (.head _) (.array (.object picture id) fun _ => rfl) (.nil _)) id
  obtain ⟨accepts, -, runs⟩ := relaxed_accepts_more relaxed strict relaxes
  have run := runs schema looser rfl rfl rfl
  refine ⟨relaxes, accepts _ _ rfl, (run pictures context).1 ⟨pictures, .wrapped⟩ rfl, ?_⟩
  obtain ⟨more, refused, subset⟩ := (run misread context).2 ⟨context, .array,
    [⟨["value", "0", "alt"], "Expected string, received number"⟩]⟩ rfl
  exact ⟨more, refused, subset (List.mem_singleton_self _)⟩

end SiteDesk.Schema
