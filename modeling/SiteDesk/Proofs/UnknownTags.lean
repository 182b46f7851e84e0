import SiteDesk.Proofs.CompiledNodes

/-!
Unknown tags against the compiled validator. They are recorded while the definition is walked, on
the way down through fields and elements; a walk through the finished validator finds the same tags
under the same paths in the same order. So a schema has unknown tags exactly if some leaf of its
validator stands for one. Paths are kept as segments, which are joined by dots when they are
written.
-/
namespace SiteDesk.Schema

namespace Validator

variable {validator : Validator} {path : List String}

mutual

/-- The tags of the leaves that stand for an unknown tag, from left to right, each with the path at
which its leaf stands. -/
def unknownTags : Validator → List String → List UnknownTag
  | .primitive kind _, path =>
    match kind with
    | .unknown tag => [⟨path, tag⟩]
    | _ => []
  | .array element _, path => unknownTags element (path ++ [elementSegment])
  | .object fields _, path => unknownTagsOfFields fields path

def unknownTagsOfFields : List (String × Validator) → List String → List UnknownTag
  | [], _ => []
  | (name, field) :: rest, path =>
    unknownTags field (path ++ [name]) ++ unknownTagsOfFields rest path

end

/-- A validator is another one, or stands inside it as an element or a field at any depth. -/
inductive PartOf (part : Validator) : Validator → Prop
  | self : PartOf part part
  | element {element : Validator} (inner : PartOf part element) (optional : Bool) :
      PartOf part (.array element optional)
  | field {fields : List (String × Validator)} {entry : String × Validator}
      (declared : entry ∈ fields) (inner : PartOf part entry.2) (optional : Bool) :
      PartOf part (.object fields optional)

mutual

/-- The tags found on the walk are those of the unknown leaves among the parts. -/
theorem exists_mem_unknownTags_iff (validator : Validator) (path : List String) (tag : String) :
    (∃ place, ⟨place, tag⟩ ∈ validator.unknownTags path) ↔
      ∃ optional, PartOf (.primitive (.unknown tag) optional) validator := by
  cases validator with
  | primitive kind optional =>
    constructor
    · rintro ⟨place, found⟩
      cases kind with
      | unknown other =>
        obtain ⟨-, rfl⟩ : place = path ∧ tag = other := by simpa [unknownTags] using found
        exact ⟨optional, .self⟩
      | _ => simp [unknownTags] at found
    · rintro ⟨flag, inside⟩
      cases inside
      exact ⟨path, by simp [unknownTags]⟩
  | array element optional =>
    have ih := exists_mem_unknownTags_iff element (path ++ [elementSegment]) tag
    rw [unknownTags, ih]
    constructor
    · rintro ⟨flag, inside⟩
      exact ⟨flag, .element inside optional⟩
    · rintro ⟨flag, inside⟩
      cases inside with
      | element inner => exact ⟨flag, inner⟩
  | object fields optional =>
    have ih := exists_mem_unknownTagsOfFields_iff fields path tag
    rw [unknownTags, ih]
    constructor
    · rintro ⟨flag, entry, declared, inside⟩
      exact ⟨flag, .field declared inside optional⟩
    · rintro ⟨flag, inside⟩
      cases inside with
      | field declared inner => exact ⟨flag, _, declared, inner⟩

theorem exists_mem_unknownTagsOfFields_iff (fields : List (String × Validator))
    (path : List String) (tag : String) :
    (∃ place, ⟨place, tag⟩ ∈ unknownTagsOfFields fields path) ↔
      ∃ optional, ∃ entry ∈ fields, PartOf (.primitive (.unknown tag) optional) entry.2 := by
  cases fields with
  | nil => simp [unknownTagsOfFields]
  | cons entry rest =>
    obtain ⟨name, field⟩ := entry
    have first := exists_mem_unknownTags_iff field (path ++ [name]) tag
    have later := exists_mem_unknownTagsOfFields_iff rest path tag
    constructor
    · rintro ⟨place, found⟩
      rcases List.mem_append.1 found with found | found
      · obtain ⟨optional, inside⟩ := first.1 ⟨place, found⟩
        exact ⟨optional, _, List.mem_cons_self, inside⟩
      · obtain ⟨optional, other, declared, inside⟩ := later.1 ⟨place, found⟩
        exact ⟨optional, other, List.mem_cons_of_mem _ declared, inside⟩
    · rintro ⟨optional, other, declared, inside⟩
      rcases List.mem_cons.1 declared with rfl | declared
      · obtain ⟨place, found⟩ := first.2 ⟨optional, inside⟩
        exact ⟨place, List.mem_append_left _ found⟩
      · obtain ⟨place, found⟩ := later.2 ⟨optional, other, declared, inside⟩
        exact ⟨place, List.mem_append_right _ found⟩

end

theorem unknownTags_ne_nil_iff :
    validator.unknownTags path ≠ [] ↔
      ∃ tag optional, PartOf (.primitive (.unknown tag) optional) validator := by
  constructor
  · intro h
    obtain ⟨⟨place, tag⟩, found⟩ := List.exists_mem_of_ne_nil _ h
    exact ⟨tag, (exists_mem_unknownTags_iff validator path tag).1 ⟨place, found⟩⟩
  · rintro ⟨tag, inside⟩
    obtain ⟨place, found⟩ := (exists_mem_unknownTags_iff validator path tag).2 inside
    exact List.ne_nil_of_mem found

end Validator

theorem leafNode_snd (kind : Primitive) (optional : Bool) (path : List String) :
    (leafNode kind optional path).2 = (leafNode kind optional path).1.unknownTags path := by
  cases kind <;> rfl

theorem tagNode_snd (tag : List Char) (optional : Bool) (path : List String) :
    (tagNode tag optional path).2 = (tagNode tag optional path).1.unknownTags path := by
  unfold tagNode
  dsimp only
  split
  · rfl
  · exact leafNode_snd _ _ _

mutual

/-- What is recorded while a node is compiled stands in the compiled node. -/
theorem compileNode_snd {node : Json} {level : Nat} {path : List String} {compiled : Node}
    (h : compileNode node level path = .ok compiled) :
    compiled.2 = compiled.1.unknownTags path := by
  have allowed := allowed_of_compileNode h
  cases node with
  | null =>
    rw [compileNode_null allowed] at h
    cases h
    rfl
  | string tag =>
    rw [compileNode_string allowed] at h
    cases h
    exact tagNode_snd _ _ _
  | object members =>
    cases hl : isLeaf members with
    | false =>
      obtain ⟨found, hf, rfl⟩ := mapping_of_compileNode h hl
      exact compileFields_snd hf
    | true =>
      cases ha : declaresArray members with
      | false =>
        rw [compileNode_long allowed hl ha] at h
        cases h
        exact tagNode_snd _ _ _
      | true =>
        obtain ⟨found, hi, rfl⟩ := list_of_compileNode h hl ha
        exact compileItems_snd hi
  | _ =>
    rw [compileNode_stray allowed path (by simp [Json.kind])] at h
    cases h
    exact leafNode_snd _ _ _

theorem compileItems_snd {members : List (String × Json)} {level : Nat} {path : List String}
    {element : Node} (h : compileItems members level path = .ok element) :
    element.2 = element.1.unknownTags (path ++ [elementSegment]) := by
  cases members with
  | nil =>
    cases h
    rfl
  | cons entry rest =>
    obtain ⟨name, node⟩ := entry
    unfold compileItems at h
    split at h
    · split at h
      · cases h
        rfl
      · exact compileNode_snd h
    · exact compileItems_snd h

theorem compileFields_snd {members : List (String × Json)} {level : Nat} {path : List String}
    {found : List (String × Validator) × List UnknownTag}
    (h : compileFields members level path = .ok found) :
    found.2 = Validator.unknownTagsOfFields found.1 path := by
  cases members with
  | nil =>
    cases h
    rfl
  | cons entry rest =>
    obtain ⟨name, node⟩ := entry
    obtain ⟨first, later, hn, hr, rfl⟩ := cons_of_compileFields h
    dsimp only
    rw [compileNode_snd hn, compileFields_snd hr]
    rfl

end

/-- The unknown tags of a schema by its validator; for a wrapped root the walk starts below the
wrapper field, whose name stands in no path. -/
def Compiled.walkedTags (schema : Compiled) : List UnknownTag :=
  match schema.form with
  | .direct => schema.validator.unknownTags []
  | .wrapped field =>
    ((schema.validator.fields?.bind (Keyed.get? field)).map fun root => root.unknownTags []).getD []

@[simp] theorem walkedTags_ofRoot (root : Node) :
    (Compiled.ofRoot root).walkedTags = root.1.unknownTags [] := by
  unfold Compiled.ofRoot
  split <;> simp [Compiled.walkedTags, Validator.fields?, Keyed.get?]

open Validator in
theorem partOf_ofRoot_iff (root : Node) (kind : Primitive) (optional : Bool) :
    PartOf (.primitive kind optional) (Compiled.ofRoot root).validator ↔
      PartOf (.primitive kind optional) root.1 := by
  unfold Compiled.ofRoot
  split
  · rfl
  · constructor
    · intro inside
      cases inside with
      | field declared inner =>
        obtain rfl := List.mem_singleton.1 declared
        exact inner
    · exact fun inner => .field (List.mem_singleton_self _) inner false

/-- The recorded tags are those on a walk through the compiled validator, none lost, none twice and
in the same order. So there are some exactly if a leaf of the validator stands for an unknown tag.
-/
theorem unknown_tags_walked (definition : Json) (schema : Compiled)
    (compiled : compile definition = .ok schema) :
    schema.unknownTags = schema.walkedTags ∧
      (schema.hasUnknownTags = true ↔
        ∃ tag optional,
          Validator.PartOf (.primitive (.unknown tag) optional) schema.validator) := by
  obtain ⟨-, root, hn, rfl⟩ := compile_eq_ok_iff.1 compiled
  have recorded := compileNode_snd hn
  have kept : (Compiled.ofRoot root).unknownTags = root.2 := by
    unfold Compiled.ofRoot
    split <;> rfl
  constructor
  · rw [kept, walkedTags_ofRoot, recorded]
  · have some_iff : (Compiled.ofRoot root).hasUnknownTags = true ↔ root.2 ≠ [] := by
      simp [Compiled.hasUnknownTags, kept]
    rw [some_iff, recorded, Validator.unknownTags_ne_nil_iff]
    simp only [partOf_ofRoot_iff]

/-- A stray node among the elements of an array under a field, and an unknown tag after it. -/
theorem unknown_tags_walked_slides :
    let definition : Json := .object [("slides", .object [("items", .object
      [("caption", .string "strng"), ("size", .array [.null])])]), ("tint", .string "colour?")]
    ∃ schema, compile definition = .ok schema ∧
      schema.walkedTags = [⟨["slides", "*", "caption"], "strng"⟩,
        ⟨["slides", "*", "size"], "[null]"⟩, ⟨["tint"], "colour"⟩] ∧
      schema.hasUnknownTags = true := by
  intro definition
  have compiled : compile definition = .ok ⟨.object [
      ("slides", .array (.object [("caption", .primitive (.unknown "strng") false),
        ("size", .primitive (.unknown "[null]") false)] false) false),
      ("tint", .primitive (.unknown "colour") true)] false, .direct,
      [⟨["slides", "*", "caption"], "strng"⟩, ⟨["slides", "*", "size"], "[null]"⟩,
        ⟨["tint"], "colour"⟩]⟩ := by
    rfl
  obtain ⟨walked, some_iff⟩ := unknown_tags_walked _ _ compiled
  refine ⟨_, compiled, walked.symm, some_iff.2 ⟨"colour", true, ?_⟩⟩
  have declared : ("tint", Validator.primitive (.unknown "colour") true) ∈
      [("slides", .array (.object [("caption", .primitive (.unknown "strng") false),
        ("size", .primitive (.unknown "[null]") false)] false) false),
      ("tint", .primitive (.unknown "colour") true)] := by
    simp
  exact .field declared .self false

end SiteDesk.Schema
