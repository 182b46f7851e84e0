import Mathlib.Data.List.Nodup
import Std.Data.String.ToNat
import SiteDesk.Proofs.Admission

/-!
What a check reports. A validator and a candidate are walked together: down from an object validator
to the member under each field it declares, and from an array validator to each item. A place that
is reached this way is at fault if a value is needed there and missing, or has another type than the
one asked for. A check reports one issue for each place at fault, in the order of the fields and the
items, and nothing else.
-/
namespace SiteDesk.Schema

def Primitive.wanted? : Primitive → Option Json.Kind
  | .string => some .string
  | .number => some .number
  | .boolean => some .boolean
  | .any | .unknown _ => none

namespace Validator

variable {validator found other : Validator} {candidate here : Option Json}
  {path later : List String} {message : String}

def wanted? : Validator → Option Json.Kind
  | .primitive kind _ => kind.wanted?
  | .array _ _ => some .array
  | .object _ _ => some .object

/-- What is wrong with a candidate, no matter what is inside it. -/
def fault? (validator : Validator) : Option Json → Option String
  | none =>
    if validator.isOptional || validator.wanted?.isNone then none else some "Required"
  | some value =>
    match validator.wanted? with
    | none => none
    | some kind =>
      if value.kind = kind then none
      else some s!"Expected {kind.name}, received {value.kind.name}"

structure Place where
  segment : String
  validator : Validator
  candidate : Option Json

/-- The places one step down, in order. There are some only where an object validator meets an
object or an array validator an array. -/
def parts : Validator → Option Json → List Place
  | .array element _, some (.array items) =>
    items.zipIdx.map fun entry => ⟨indexSegment entry.2, element, some entry.1⟩
  | .object fields _, some (.object members) =>
    fields.map fun entry => ⟨entry.1, entry.2, Keyed.get? entry.1 members⟩
  | _, _ => []

/-- A path leads down from a validator and a candidate to a validator and what it meets. -/
inductive Reaches : Validator → Option Json → List String → Validator → Option Json → Prop
  | here (validator : Validator) (candidate : Option Json) :
      Reaches validator candidate [] validator candidate
  | down {validator found : Validator} {candidate here : Option Json} {place : Place}
      {path : List String} (step : place ∈ validator.parts candidate)
      (rest : Reaches place.validator place.candidate path found here) :
      Reaches validator candidate (place.segment :: path) found here

/-- One path comes before another when all places below are walked from the first on, each down to
its end before the next. -/
inductive Before : Validator → Option Json → List String → List String → Prop
  | apart {validator : Validator} {candidate : Option Json} {place next : Place}
      (order : [place, next].Sublist (validator.parts candidate)) (path later : List String) :
      Before validator candidate (place.segment :: path) (next.segment :: later)
  | within {validator : Validator} {candidate : Option Json} {place : Place}
      {path later : List String} (step : place ∈ validator.parts candidate)
      (rest : Before place.validator place.candidate path later) :
      Before validator candidate (place.segment :: path) (place.segment :: later)

/-- No object validator declares two fields of one name. -/
inductive Distinct : Validator → Prop
  | primitive (kind : Primitive) (optional : Bool) : Distinct (.primitive kind optional)
  | array {element : Validator} (optional : Bool) (inner : Distinct element) :
      Distinct (.array element optional)
  | object {fields : List (String × Validator)} (optional : Bool)
      (names : (fields.map Prod.fst).Nodup) (inner : ∀ entry ∈ fields, Distinct entry.2) :
      Distinct (.object fields optional)

section Parts

variable {element : Validator} {fields : List (String × Validator)} {optional : Bool}
  {place : Place}

theorem validator_of_mem_parts (h : place ∈ (array element optional).parts candidate) :
    place.validator = element := by
  unfold parts at h
  split at h
  · next items he =>
    obtain ⟨entry, -, rfl⟩ := List.mem_map.1 h
    cases he
    rfl
  · next he => cases he
  · cases h

theorem field_of_mem_parts (h : place ∈ (object fields optional).parts candidate) :
    (place.segment, place.validator) ∈ fields := by
  unfold parts at h
  split at h
  · next he => cases he
  · next he =>
    obtain ⟨entry, hm, rfl⟩ := List.mem_map.1 h
    cases he
    exact hm
  · cases h

/-- What holds of a validator whenever it holds of the validators of its parts holds of all. -/
@[elab_as_elim]
theorem part_induction {motive : Validator → Prop}
    (step : ∀ validator, (∀ candidate, ∀ place ∈ validator.parts candidate,
      motive place.validator) → motive validator) (validator : Validator) : motive validator := by
  refine @Validator.rec motive (fun fields => ∀ entry ∈ fields, motive entry.2)
    (fun entry => motive entry.2) ?primitive ?array ?object (by simp) ?fields
    (fun _ _ inner => inner) validator
  case primitive =>
    intro kind optional
    exact step _ fun candidate place hp => by simp [parts] at hp
  case array =>
    intro element optional inner
    refine step _ fun candidate place hp => ?_
    rwa [validator_of_mem_parts hp]
  case object =>
    intro fields optional inner
    exact step _ fun candidate place hp => inner _ (field_of_mem_parts hp)
  case fields =>
    intro entry rest first inner other ho
    rcases List.mem_cons.1 ho with rfl | ho
    · exact first
    · exact inner other ho

theorem Distinct.part (h : validator.Distinct) (hp : place ∈ validator.parts candidate) :
    place.validator.Distinct := by
  cases h with
  | primitive kind optional => simp [parts] at hp
  | array optional inner => rwa [validator_of_mem_parts hp]
  | object optional names inner => exact inner _ (field_of_mem_parts hp)

theorem indexSegment_injective : Function.Injective indexSegment :=
  fun _ _ h => Nat.repr_injective h

theorem Distinct.segments_nodup (h : validator.Distinct) (candidate : Option Json) :
    ((validator.parts candidate).map Place.segment).Nodup := by
  unfold parts
  split
  · next items =>
    have numbers : (items.zipIdx.map Prod.snd).Nodup := by
      rw [List.zipIdx_map_snd]
      exact List.nodup_range'
    have segments := numbers.map indexSegment_injective
    rwa [List.map_map] at segments ⊢
  · next members _ =>
    cases h with
    | object optional names inner => rwa [List.map_map]
  · exact List.nodup_nil

end Parts

theorem parts_of_fault (h : validator.fault? candidate = some message) :
    validator.parts candidate = [] := by
  unfold parts
  split
  · simp [fault?, wanted?, Json.kind] at h
  · simp [fault?, wanted?, Json.kind] at h
  · rfl

theorem Reaches.unique {there : Option Json} (h : validator.Distinct)
    (reached : validator.Reaches candidate path found here)
    (reached' : validator.Reaches candidate path other there) :
    found = other ∧ here = there := by
  induction reached with
  | here validator candidate =>
    cases reached'
    exact ⟨rfl, rfl⟩
  | @down validator found candidate here place path step rest ih =>
    generalize hs : place.segment :: path = whole at reached'
    cases reached' with
    | here => cases hs
    | down step' rest' =>
      obtain ⟨segment, rfl⟩ := List.cons.inj hs
      obtain rfl := List.inj_on_of_nodup_map (h.segments_nodup candidate) step step' segment
      exact ih (h.part step) rest'

theorem Before.ne (h : validator.Distinct) (before : validator.Before candidate path later) :
    path ≠ later := by
  induction before with
  | @apart validator candidate place next order path later =>
    have names := (order.map Place.segment).nodup (h.segments_nodup candidate)
    intro same
    simp [(List.cons.inj same).1] at names
  | within step rest ih =>
    intro same
    exact ih (h.part step) (List.cons.inj same).2

theorem checkFields_issues (fields : List (String × Validator)) (path : List String)
    (members rebuilt : Json.Members) :
    (checkFields fields path members rebuilt).issues =
      fields.flatMap fun entry =>
        (entry.2.check (path ++ [entry.1]) (Keyed.get? entry.1 members)).issues := by
  induction fields generalizing rebuilt with
  | nil => rfl
  | cons entry rest ih => simp [checkFields, ih]

/-- A check reports what is at fault at the place itself and then what it finds in each part. -/
theorem check_issues_eq (validator : Validator) (path : List String) (candidate : Option Json) :
    (validator.check path candidate).issues =
      (validator.fault? candidate).toList.map (Issue.mk path) ++
        (validator.parts candidate).flatMap fun place =>
          (place.validator.check (path ++ [place.segment]) place.candidate).issues := by
  cases validator with
  | primitive kind optional =>
    cases candidate with
    | none => cases kind <;> cases optional <;> rfl
    | some value => cases kind <;> cases value <;> rfl
  | array element optional =>
    cases candidate with
    | none => cases optional <;> rfl
    | some value =>
      cases value with
      | array items =>
        simp [check, collectItems, fault?, wanted?, Json.kind, parts, List.flatMap_map]
      | _ => rfl
  | object fields optional =>
    cases candidate with
    | none => cases optional <;> rfl
    | some value =>
      cases value with
      | object members =>
        simp [check, checkFields_issues, fault?, wanted?, Json.kind, parts, List.flatMap_map]
      | _ => rfl

/-- A check reports an issue exactly for each fault at a place that it reaches. -/
theorem mem_check_issues (issue : Issue) :
    issue ∈ (validator.check path candidate).issues ↔
      ∃ path' found here, issue.path = path ++ path' ∧
        validator.Reaches candidate path' found here ∧
        found.fault? here = some issue.message := by
  induction validator using part_induction generalizing path candidate with
  | step validator ih =>
    rw [check_issues_eq, List.mem_append]
    constructor
    · rintro (own | inner)
      · obtain ⟨message, hm, rfl⟩ := List.mem_map.1 own
        exact ⟨[], validator, candidate, (List.append_nil path).symm, .here _ _,
          Option.mem_toList.1 hm⟩
      · obtain ⟨place, hp, inner⟩ := List.mem_flatMap.1 inner
        obtain ⟨path', found, here, hpath, reached, fault⟩ := (ih candidate place hp).1 inner
        refine ⟨place.segment :: path', found, here, ?_, .down hp reached, fault⟩
        rw [hpath, List.append_assoc]
        rfl
    · rintro ⟨path', found, here, hpath, reached, fault⟩
      cases reached with
      | here =>
        refine .inl (List.mem_map.2 ⟨issue.message, Option.mem_toList.2 fault, ?_⟩)
        rw [List.append_nil] at hpath
        rw [← hpath]
      | @down _ _ _ _ place path' step rest =>
        refine .inr (List.mem_flatMap.2 ⟨place, step, (ih candidate place step).2 ?_⟩)
        exact ⟨path', found, here, by rw [hpath, List.append_assoc]; rfl, rest, fault⟩

theorem check_issues_ordered (validator : Validator) (path : List String)
    (candidate : Option Json) :
    (validator.check path candidate).issues.Pairwise fun issue next =>
      ∃ path' later, issue.path = path ++ path' ∧ next.path = path ++ later ∧
        validator.Before candidate path' later := by
  induction validator using part_induction generalizing path candidate with
  | step validator ih =>
    rw [check_issues_eq]
    cases hf : validator.fault? candidate with
    | some message =>
      rw [parts_of_fault hf]
      exact List.pairwise_singleton _ _
    | none =>
      refine List.pairwise_flatMap.2 ⟨fun place hp => ?_, ?_⟩
      · refine (ih candidate place hp (path ++ [place.segment]) place.candidate).imp ?_
        rintro issue next ⟨path', later, hi, hn, before⟩
        refine ⟨place.segment :: path', place.segment :: later, ?_, ?_, .within hp before⟩
        · rw [hi, List.append_assoc]; rfl
        · rw [hn, List.append_assoc]; rfl
      · refine List.pairwise_iff_forall_sublist.2 fun {place next} order => ?_
        intro issue hi other ho
        obtain ⟨path', _, _, hi, -⟩ := (mem_check_issues issue).1 hi
        obtain ⟨later, _, _, ho, -⟩ := (mem_check_issues other).1 ho
        refine ⟨place.segment :: path', next.segment :: later, ?_, ?_, .apart order _ _⟩
        · rw [hi, List.append_assoc]; rfl
        · rw [ho, List.append_assoc]; rfl

theorem validate_eq_error_iff {value : Json} {issues : List Issue} :
    validator.validate value = .error issues ↔
      (validator.check [] (some value)).issues = issues ∧ issues ≠ [] := by
  unfold validate
  dsimp only
  cases hi : (validator.check [] (some value)).issues with
  | nil => simp [eq_comm]
  | cons issue rest =>
    simp only [List.isEmpty_cons, Bool.false_eq_true, if_false, Except.error.injEq]
    refine ⟨fun same => ⟨same, same ▸ List.cons_ne_nil _ _⟩, And.left⟩

theorem validate_eq_ok_iff {value data : Json} :
    validator.validate value = .ok data ↔
      (validator.check [] (some value)).issues = [] ∧ data = value := by
  rw [check_issues_iff]
  cases ha : validator.admits (some value) with
  | true => simp [validate_of_admits ha, eq_comm]
  | false =>
    obtain ⟨issues, hi⟩ := validate_of_not_admits ha
    simp [hi]

/-- The issues of a value are those of the places at fault: one for each, with what is wrong there,
under paths of their own and in the order of the walk. -/
structure Diagnosis (validator : Validator) (value : Json) (issues : List Issue) : Prop where
  sound : ∀ issue ∈ issues, ∃ found here,
    validator.Reaches (some value) issue.path found here ∧ found.fault? here = some issue.message
  complete : ∀ path found here message, validator.Reaches (some value) path found here →
    found.fault? here = some message → ⟨path, message⟩ ∈ issues
  paths : (issues.map Issue.path).Nodup
  ordered : issues.Pairwise fun issue next =>
    validator.Before (some value) issue.path next.path

theorem diagnosis_check (h : validator.Distinct) (value : Json) :
    validator.Diagnosis value (validator.check [] (some value)).issues := by
  have ordered : (validator.check [] (some value)).issues.Pairwise fun issue next =>
      validator.Before (some value) issue.path next.path := by
    refine (check_issues_ordered validator [] (some value)).imp ?_
    rintro issue next ⟨path, later, hi, hn, before⟩
    rwa [hi, hn]
  refine ⟨?_, ?_, ?_, ordered⟩
  · intro issue hi
    obtain ⟨path, found, here, hp, reached, fault⟩ := (mem_check_issues issue).1 hi
    exact ⟨found, here, hp ▸ reached, fault⟩
  · intro path found here message reached fault
    exact (mem_check_issues _).2 ⟨path, found, here, rfl, reached, fault⟩
  · exact List.pairwise_map.2 (ordered.imp fun before => before.ne h)

/-- A value is accepted exactly if no place is at fault, and is then given back as it is. Otherwise
each place at fault is reported once, in order, and nothing else is. -/
theorem faults_reported_exactly (validator : Validator) (h : validator.Distinct) (value : Json) :
    ((∃ data, validator.validate value = .ok data) ↔
      ∀ path found here, validator.Reaches (some value) path found here →
        found.fault? here = none) ∧
    (∀ data, validator.validate value = .ok data → data = value) ∧
    (∀ issues, validator.validate value = .error issues → validator.Diagnosis value issues) ∧
    ∀ path found here found' here', validator.Reaches (some value) path found here →
      validator.Reaches (some value) path found' here' → found = found' ∧ here = here' := by
  have diagnosis := diagnosis_check h value
  refine ⟨⟨?_, ?_⟩, ?_, ?_, ?_⟩
  · rintro ⟨data, accepted⟩ path found here reached
    by_contra fault
    obtain ⟨message, fault⟩ := Option.ne_none_iff_exists'.1 fault
    have reported := diagnosis.complete path found here message reached fault
    rw [(validate_eq_ok_iff.1 accepted).1] at reported
    cases reported
  · intro faultless
    refine ⟨value, validate_eq_ok_iff.2 ⟨List.eq_nil_iff_forall_not_mem.2 ?_, rfl⟩⟩
    intro issue hi
    obtain ⟨found, here, reached, fault⟩ := diagnosis.sound issue hi
    cases (faultless _ found here reached).symm.trans fault
  · exact fun data accepted => (validate_eq_ok_iff.1 accepted).2
  · intro issues refused
    rwa [(validate_eq_error_iff.1 refused).1] at diagnosis
  · exact fun path found here found' here' reached reached' => reached.unique h reached'

/-- Four places at fault, at two depths; a member that no field declares is not looked at. -/
theorem faults_reported_exactly_card :
    let card : Validator := .object [("title", .primitive .string false),
      ("images", .array (.primitive .string false) true),
      ("meta", .object [("author", .primitive .string false),
        ("likes", .primitive .number true)] false),
      ("note", .primitive (.unknown "richtext") false)] false
    let value : Json := .object [("images", .array [.string "/a.jpg", .null]),
      ("legacy", .bool true), ("meta", .object [("likes", .string "3")])]
    let issues : List Issue := [⟨["title"], "Required"⟩,
      ⟨["images", "1"], "Expected string, received null"⟩, ⟨["meta", "author"], "Required"⟩,
      ⟨["meta", "likes"], "Expected number, received string"⟩]
    card.Distinct ∧ card.validate value = .error issues ∧ card.Diagnosis value issues := by
  intro card value issues
  have inner : Distinct (.object [("author", .primitive .string false),
      ("likes", .primitive .number true)] false) :=
    .object false (by decide) (by simp [Distinct.primitive])
  have distinct : card.Distinct :=
    .object false (by decide) (by simp [Distinct.primitive, Distinct.array, inner])
  have found : (card.check [] (some value)).issues = issues := by decide +kernel
  have refused : card.validate value = .error issues :=
    validate_eq_error_iff.2 ⟨found, by simp [issues]⟩
  exact ⟨distinct, refused, (faults_reported_exactly card distinct value).2.2.1 issues refused⟩

end Validator

end SiteDesk.Schema
