import Mathlib.Data.List.Basic
import SiteDesk.Schema.Attempt

/-!
What a validator admits, read off its shape without paths, issues or a rebuilt value. A check finds
no issue exactly on what is admitted, and then rebuilds the value it was given, so a schema accepts
a candidate exactly when it admits it, as it is or under the wrapper field, and hands it back.
-/
namespace SiteDesk.Schema

namespace Validator

mutual

/-- Whether a validator admits a candidate, which may be absent. -/
def admits : Validator → Option Json → Bool
  | .primitive kind optional, candidate =>
    match candidate with
    | none => (primitive kind optional).acceptsMissing
    | some value => kind.accepts value
  | .array element optional, candidate =>
    match candidate with
    | none => optional
    | some (.array items) => items.all fun item => admits element (some item)
    | some _ => false
  | .object fields optional, candidate =>
    match candidate with
    | none => optional
    | some (.object members) => admitsFields fields members
    | some _ => false

def admitsFields : List (String × Validator) → Json.Members → Bool
  | [], _ => true
  | (name, field) :: rest, members =>
    admits field (Keyed.get? name members) && admitsFields rest members

end

@[simp] theorem admits_array {element : Validator} {optional : Bool} {items : List Json} :
    (array element optional).admits (some (.array items)) = true ↔
      ∀ item ∈ items, element.admits (some item) = true := by
  simp [admits]

theorem admits_array_iff {element : Validator} {optional : Bool} {value : Json} :
    (array element optional).admits (some value) = true ↔
      ∃ items, value = .array items ∧ ∀ item ∈ items, element.admits (some item) = true := by
  cases value <;> simp [admits]

theorem admits_object_iff {fields : List (String × Validator)} {optional : Bool} {value : Json} :
    (object fields optional).admits (some value) = true ↔
      ∃ members, value = .object members ∧ admitsFields fields members = true := by
  cases value <;> simp [admits]

@[simp] theorem admits_any (value : Json) : any.admits (some value) = true := rfl

theorem admitsFields_iff {fields : List (String × Validator)} {members : Json.Members} :
    admitsFields fields members = true ↔
      ∀ entry ∈ fields, entry.2.admits (Keyed.get? entry.1 members) = true := by
  induction fields with
  | nil => simp [admitsFields]
  | cons entry rest ih => simp [admitsFields, ih]

/-- No validator asks for null, so one that admits it admits every value. -/
theorem admits_of_admits_null {validator : Validator} (h : validator.admits (some .null) = true)
    (value : Json) : validator.admits (some value) = true := by
  cases validator with
  | primitive kind optional => cases kind <;> simp_all [admits, Primitive.accepts, Json.kind]
  | array element optional => simp [admits] at h
  | object fields optional => simp [admits] at h

theorem admits_none (validator : Validator) :
    validator.admits none = (validator.isOptional || validator.admits (some .null)) := by
  cases validator with
  | primitive kind optional =>
    cases kind <;> simp [admits, acceptsMissing, isOptional, Primitive.isPermissive,
      Primitive.accepts, Json.kind]
  | array element optional => simp [admits, isOptional]
  | object fields optional => simp [admits, isOptional]

/-- Absence is admitted by an optional validator, and by one that admits every value. -/
theorem admits_none_iff (validator : Validator) :
    validator.admits none = true ↔
      validator.isOptional = true ∨ ∀ value, validator.admits (some value) = true := by
  rw [admits_none, Bool.or_eq_true]
  exact or_congr_right ⟨admits_of_admits_null, fun h => h .null⟩

@[simp] theorem checkMissing_issues_iff (validator : Validator) (path : List String) :
    (validator.checkMissing path).issues = [] ↔ validator.acceptsMissing = true := by
  unfold checkMissing
  split <;> simp_all

theorem collectItems_eq {found : List (Checked (Option Json))} {items : List Json}
    (hv : found.map (·.value) = items.map some) :
    (collectItems found).value = some (.array items) := by
  have h : found.filterMap (·.value) = items := by
    have := congrArg (List.filterMap id) hv
    simpa [List.filterMap_map] using this
  simp [collectItems, h]

mutual

/-- A check finds no issue exactly on what the validator admits, wherever the value stands. -/
theorem check_issues_iff (validator : Validator) (path : List String) (candidate : Option Json) :
    (validator.check path candidate).issues = [] ↔ validator.admits candidate = true := by
  cases validator with
  | primitive kind optional =>
    cases candidate with
    | none => simp [check, admits, acceptsMissing]
    | some value =>
      by_cases h : kind.accepts value = true <;> simp [check, admits, h]
  | array element optional =>
    cases candidate with
    | none => simp [check, admits, acceptsMissing]
    | some value =>
      cases value with
      | array items =>
        have ih := fun entry : Json × Nat =>
          check_issues_iff element (path ++ [indexSegment entry.2]) (some entry.1)
        simp only [check, collectItems, List.flatMap_eq_nil_iff, List.mem_map, admits_array,
          forall_exists_index, and_imp, forall_apply_eq_imp_iff₂, ih]
        constructor
        · intro h item hi
          obtain ⟨n, hn⟩ := List.getElem?_of_mem hi
          exact h (item, n) (List.mem_zipIdx_iff_getElem?.2 hn)
        · intro h entry he
          exact h entry.1 (List.fst_mem_of_mem_zipIdx he)
      | _ => simp [check, admits]
  | object fields optional =>
    cases candidate with
    | none => simp [check, admits, acceptsMissing]
    | some value =>
      cases value with
      | object members =>
        simpa [check, admits] using checkFields_issues_iff fields path members members
      | _ => simp [check, admits]

theorem checkFields_issues_iff (fields : List (String × Validator)) (path : List String)
    (members rebuilt : Json.Members) :
    (checkFields fields path members rebuilt).issues = [] ↔ admitsFields fields members = true := by
  cases fields with
  | nil => simp [checkFields, admitsFields]
  | cons entry rest =>
    obtain ⟨name, field⟩ := entry
    simp only [checkFields, admitsFields, List.append_eq_nil_iff, Bool.and_eq_true,
      check_issues_iff field, checkFields_issues_iff rest]

end

mutual

theorem check_value {validator : Validator} {candidate : Option Json} (path : List String)
    (h : validator.admits candidate = true) :
    (validator.check path candidate).value = candidate := by
  cases validator with
  | primitive kind optional =>
    cases candidate with
    | none => simp [check, checkMissing]
    | some value =>
      have hk : kind.accepts value = true := by simpa [admits] using h
      simp [check, hk]
  | array element optional =>
    cases candidate with
    | none => simp [check, checkMissing]
    | some value =>
      cases value with
      | array items =>
        have ha := admits_array.1 h
        rw [check]
        apply collectItems_eq
        conv_rhs => rw [← List.zipIdx_map_fst 0 items]
        rw [List.map_map, List.map_map]
        apply List.map_congr_left
        intro entry he
        exact check_value _ (ha entry.1 (List.fst_mem_of_mem_zipIdx he))
      | _ => simp [admits] at h
  | object fields optional =>
    cases candidate with
    | none => simp [check, checkMissing]
    | some value =>
      cases value with
      | object members =>
        have hf : admitsFields fields members = true := by simpa [admits] using h
        simp [check, checkFields_value path hf]
      | _ => simp [admits] at h

theorem checkFields_value {fields : List (String × Validator)} {members : Json.Members}
    (path : List String) (h : admitsFields fields members = true) :
    (checkFields fields path members members).value = members := by
  cases fields with
  | nil => simp [checkFields]
  | cons entry rest =>
    obtain ⟨name, field⟩ := entry
    simp only [admitsFields, Bool.and_eq_true] at h
    have hv := check_value (path ++ [name]) h.1
    simp only [checkFields, hv]
    cases hg : Keyed.get? name members with
    | none => exact checkFields_value path h.2
    | some value =>
      simp only [Keyed.set_get? hg]
      exact checkFields_value path h.2

end

theorem validate_of_admits {validator : Validator} {value : Json}
    (h : validator.admits (some value) = true) : validator.validate value = .ok value := by
  have hi := (check_issues_iff validator [] (some value)).2 h
  simp [validate, hi, check_value [] h]

theorem validate_of_not_admits {validator : Validator} {value : Json}
    (h : validator.admits (some value) = false) :
    ∃ issues, validator.validate value = .error issues := by
  have hi : (validator.check [] (some value)).issues ≠ [] := by
    rw [Ne, check_issues_iff, h]
    decide
  exact ⟨(validator.check [] (some value)).issues, by simp [validate, hi]⟩

end Validator

/-- Whether a schema admits a candidate, as it is or under its wrapper field. -/
def Compiled.admits (schema : Compiled) (candidate : Json) : Bool :=
  schema.validator.admits (some candidate) ||
    match schema.form with
    | .direct => false
    | .wrapped field => schema.validator.admits (some (wrap field candidate))

theorem Compiled.run_of_admits {schema : Compiled} {candidate : Json} (context : BlockContext)
    (h : schema.admits candidate = true) :
    ∃ attempt, schema.run candidate context = .ok ⟨candidate, attempt⟩ := by
  unfold run check
  cases hd : schema.validator.admits (some candidate) with
  | true => exact ⟨.direct, by simp [Validator.validate_of_admits hd]⟩
  | false =>
    obtain ⟨issues, hi⟩ := Validator.validate_of_not_admits hd
    cases hf : schema.form with
    | direct => simp [admits, hd, hf] at h
    | wrapped field =>
      have hw : schema.validator.admits (some (wrap field candidate)) = true := by
        simpa [admits, hd, hf] using h
      have hu : unwrap field (wrap field candidate) = candidate := by
        simp [unwrap, wrap, Keyed.get?]
      exact ⟨.wrapped, by simp [hi, Validator.validate_of_admits hw, hu]⟩

theorem Compiled.run_of_not_admits {schema : Compiled} {candidate : Json} (context : BlockContext)
    (h : schema.admits candidate = false) :
    ∃ failure, schema.run candidate context = .error failure := by
  unfold run check
  simp only [admits, Bool.or_eq_false_iff] at h
  obtain ⟨issues, hi⟩ := Validator.validate_of_not_admits h.1
  cases hf : schema.form with
  | direct => exact ⟨⟨context, candidate.kind, issues⟩, by simp [hi]⟩
  | wrapped field =>
    obtain ⟨later, hl⟩ := Validator.validate_of_not_admits (by simpa [hf] using h.2)
    exact ⟨⟨context, candidate.kind, later⟩, by simp [hi, hl]⟩

/-- What a run accepts is the candidate itself, and the schema admits it. -/
theorem Compiled.admits_of_run {schema : Compiled} {candidate : Json} {context : BlockContext}
    {validated : Validated} (h : schema.run candidate context = .ok validated) :
    schema.admits candidate = true ∧ validated.data = candidate := by
  cases ha : schema.admits candidate with
  | false =>
    obtain ⟨failure, hf⟩ := run_of_not_admits context ha
    simp [hf] at h
  | true =>
    obtain ⟨attempt, hr⟩ := run_of_admits context ha
    rw [hr, Except.ok.injEq] at h
    exact ⟨rfl, by rw [← h]⟩

/-- A schema that declares fields at its root is tried on a candidate as it is and in no other way. -/
theorem Compiled.attempt_of_direct {schema : Compiled} {candidate : Json} {context : BlockContext}
    {validated : Validated} (direct : schema.form = .direct)
    (h : schema.run candidate context = .ok validated) : validated.attempt = .direct := by
  unfold run at h
  cases hc : schema.check candidate with
  | ok data =>
    simp only [hc, Except.ok.injEq] at h
    rw [← h]
  | error issues => simp [hc, direct] at h

end SiteDesk.Schema
