import SiteDesk.Proofs.TagReadings

/-!
The two forms of a tag: a string that stands alone, and an object with the string under `type`.
Wherever in a definition a node may stand, one form may be put for the other, and the schema stays
the same; with an `optional` flag beside the tag, the validator at that place becomes optional and
nothing else changes. The only tags that the two forms read differently are those for an array with
more than one `?`.
-/
namespace SiteDesk

namespace Keyed

variable {α : Type} {name other : String} {f : α → α} {entries : List (String × α)}

def adjust (name : String) (f : α → α) : List (String × α) → List (String × α)
  | [] => []
  | (key, value) :: rest =>
    if key = name then (key, f value) :: rest else (key, value) :: adjust name f rest

@[simp] theorem get?_adjust_self :
    get? name (adjust name f entries) = (get? name entries).map f := by
  induction entries with
  | nil => rfl
  | cons entry rest ih =>
    obtain ⟨key, value⟩ := entry
    by_cases h : key = name <;> simp [adjust, get?, h, ih]

theorem get?_adjust_of_ne (h : other ≠ name) :
    get? other (adjust name f entries) = get? other entries := by
  induction entries with
  | nil => rfl
  | cons entry rest ih =>
    obtain ⟨key, value⟩ := entry
    by_cases hk : key = name
    · simp [adjust, get?, hk, Ne.symm h]
    · simp [adjust, get?, hk, ih]

@[simp] theorem contains_adjust :
    contains other (adjust name f entries) = contains other entries := by
  unfold contains
  by_cases h : other = name
  · rw [h, get?_adjust_self, Option.isSome_map]
  · rw [get?_adjust_of_ne h]

theorem adjust_id (name : String) (entries : List (String × α)) :
    adjust name id entries = entries := by
  induction entries with
  | nil => rfl
  | cons entry rest ih =>
    unfold adjust
    split
    · rfl
    · rw [ih]

end Keyed

namespace Schema

open Text

variable {members : Json.Members} {definition old new node : Json} {level : Nat}
  {path position : List String} {tag key : String} {f : Validator → Validator}

/-- The node that keys lead to: of a mapping every member is a node, of a long form only the member
`items`. -/
def nodeAt? : List String → Json → Option Json
  | [], node => some node
  | key :: rest, .object members =>
    if isLeaf members && key ≠ "items" then none
    else (Keyed.get? key members).bind (nodeAt? rest)
  | _ :: _, _ => none

def putAt (new : Json) : List String → Json → Json
  | [], _ => new
  | key :: rest, .object members => .object (Keyed.adjust key (putAt new rest) members)
  | _ :: _, node => node

def Validator.changePart (key : String) (f : Validator → Validator) : Validator → Validator
  | .object fields optional => .object (Keyed.adjust key f fields) optional
  | .array element optional => .array (f element) optional
  | validator => validator

def Validator.changeAt (f : Validator → Validator) : List String → Validator → Validator
  | [], validator => f validator
  | key :: rest, validator => validator.changePart key (changeAt f rest)

theorem Validator.changeAt_id (position : List String) :
    Validator.changeAt id position = id := by
  induction position with
  | nil => rfl
  | cons key rest ih =>
    funext validator
    cases validator <;> simp [changeAt, changePart, ih, Keyed.adjust_id]

theorem Validator.isObject_changeAt
    (keeps : ∀ validator, (f validator).isObject = validator.isObject) (position : List String)
    (validator : Validator) :
    (validator.changeAt f position).isObject = validator.isObject := by
  cases position with
  | nil => exact keeps validator
  | cons key rest => cases validator <;> rfl

/-- One node compiles to what another does, but for a change of the validator, and where it is put
in the place of the other, the object around them stays what it is. -/
structure Recast (f : Validator → Validator) (old new : Json) : Prop where
  compiled : ∀ level path,
    compileNode new level path = (compileNode old level path).map fun node => (f node.1, node.2)
  untagged : new.asString? = none
  closed : isOpen old = false
  closed' : isOpen new = false

theorem compileFields_adjust {g : Json → Json} (hg : Keyed.get? key members = some node)
    (compiled : compileNode (g node) (level + 1) (path ++ [key]) =
      (compileNode node (level + 1) (path ++ [key])).map fun node => (f node.1, node.2)) :
    compileFields (Keyed.adjust key g members) level path =
      (compileFields members level path).map fun found =>
        (Keyed.adjust key f found.1, found.2) := by
  induction members with
  | nil => simp [Keyed.get?] at hg
  | cons entry rest ih =>
    obtain ⟨name, first⟩ := entry
    by_cases hn : name = key
    · subst hn
      obtain rfl : first = node := by simpa [Keyed.get?] using hg
      simp only [Keyed.adjust, if_true, compileFields_cons, compiled]
      cases compileNode first (level + 1) (path ++ [name]) with
      | error e => rfl
      | ok compiled =>
        cases compileFields rest level path <;> simp [Except.map, Except.bind, Keyed.adjust]
    · have ih := ih (by simpa [Keyed.get?, hn] using hg)
      simp only [Keyed.adjust, hn, if_false, compileFields_cons, ih]
      cases compileNode first (level + 1) (path ++ [name]) with
      | error e => rfl
      | ok compiled =>
        cases compileFields rest level path <;> simp [Except.map, Except.bind, Keyed.adjust, hn]

theorem isLeaf_adjust {g : Json → Json} (hl : isLeaf members = false)
    (hg : Keyed.get? key members = some node) (untagged : (g node).asString? = none) :
    isLeaf (Keyed.adjust key g members) = false := by
  unfold isLeaf at hl ⊢
  rw [Keyed.contains_adjust]
  by_cases hk : key = "type"
  · subst hk
    rw [Keyed.get?_adjust_self, hg]
    simp only [Option.map_some, Option.bind_some, untagged]
    simpa using (Bool.or_eq_false_iff.1 hl).2
  · rwa [Keyed.get?_adjust_of_ne (Ne.symm hk)]

theorem isOpen_of_get? (hg : Keyed.get? key members = some node) :
    isOpen (.object members) = false := by
  cases members with
  | nil => cases hg
  | cons entry rest => rfl

theorem Recast.member {g : Json → Json} (recast : Recast f node (g node))
    (hg : Keyed.get? key members = some node) (member : isLeaf members = true → key = "items") :
    Recast (Validator.changePart key f) (.object members)
      (.object (Keyed.adjust key g members)) := by
  have found : Keyed.get? key (Keyed.adjust key g members) = some (g node) := by
    rw [Keyed.get?_adjust_self, hg, Option.map_some]
  refine ⟨fun level path => ?_, rfl, isOpen_of_get? hg, isOpen_of_get? found⟩
  by_cases deep : maxDepth < level
  · rw [compileNode_of_deep deep, compileNode_of_deep deep]
    rfl
  have allowed := Nat.not_lt.1 deep
  cases leaf : isLeaf members with
  | false =>
    rw [compileNode_mapping allowed leaf,
      compileNode_mapping allowed (isLeaf_adjust leaf hg recast.untagged),
      compileFields_adjust hg (recast.compiled _ _)]
    cases compileFields members level path <;> rfl
  | true =>
    obtain rfl := member leaf
    have items : Keyed.contains "items" members = true := by simp [Keyed.contains, hg]
    have leaf' : isLeaf (Keyed.adjust "items" g members) = true := by
      simp [isLeaf, Keyed.contains_adjust, items]
    have array : declaresArray members = true := by simp [declaresArray, items]
    have array' : declaresArray (Keyed.adjust "items" g members) = true := by
      simp [declaresArray, Keyed.contains_adjust, items]
    have flag : arrayOptional (Keyed.adjust "items" g members) = arrayOptional members := by
      simp [arrayOptional, declaredOptional, declaredTag, Keyed.get?_adjust_of_ne]
    rw [compileNode_list allowed leaf array, compileNode_list allowed leaf' array', flag,
      compileItems_eq, compileItems_eq, found, hg]
    simp only [recast.closed, recast.closed', recast.compiled, Bool.false_eq_true, if_false]
    cases compileNode node (level + 1) (path ++ [elementSegment]) <;> rfl

/-- With a node recast wherever keys lead to, the whole definition is recast. -/
theorem Recast.putAt (recast : Recast f old new)
    (stands : nodeAt? position definition = some old) :
    Recast (Validator.changeAt f position) definition (putAt new position definition) := by
  induction position generalizing definition with
  | nil =>
    obtain rfl := Option.some.inj stands
    exact recast
  | cons key rest ih =>
    cases definition with
    | object members =>
      rw [nodeAt?] at stands
      split at stands
      · cases stands
      next member =>
      obtain ⟨node, hg, inner⟩ := Option.bind_eq_some_iff.1 stands
      refine (ih inner).member hg fun leaf => ?_
      simpa [leaf] using member
    | _ => cases stands

def Validator.markOptional : Validator → Validator
  | .primitive kind _ => .primitive kind true
  | .array element _ => .array element true
  | .object fields _ => .object fields true

def longForm (tag : String) : Json :=
  .object [("type", .string tag)]

def optionalForm (tag : String) : Json :=
  .object [("optional", .bool true), ("type", .string tag)]

theorem leafNode_true (kind : Primitive) (path : List String) (optional : Bool) :
    leafNode kind true path =
      ((leafNode kind optional path).1.markOptional, (leafNode kind optional path).2) := by
  cases kind <;> rfl

theorem tagNode_true (tag : List Char) (path : List String) (optional : Bool) :
    tagNode tag true path =
      ((tagNode tag optional path).1.markOptional, (tagNode tag optional path).2) := by
  unfold tagNode
  dsimp only
  rw [Bool.or_true]
  split
  · rfl
  · exact leafNode_true _ _ _

/-- An object that holds a tag under `type` and no `items` compiles to what the tag does alone, made
optional by a flag that is set, unless the tag is for an array with more than one `?`. -/
theorem recast_of_type (members : Json.Members)
    (ht : Keyed.get? "type" members = some (.string tag))
    (hi : Keyed.get? "items" members = none) (once : ¬ Overmarked tag.toList) :
    Recast (fun validator => if declaredOptional members then validator.markOptional else validator)
      (.string tag) (.object members) := by
  refine ⟨fun level path => ?_, rfl, rfl, isOpen_of_get? ht⟩
  by_cases deep : maxDepth < level
  · rw [compileNode_of_deep deep, compileNode_of_deep deep]
    rfl
  have allowed := Nat.not_lt.1 deep
  have leaf : isLeaf members = true := by simp [isLeaf, ht, Json.asString?]
  have declared : declaredTag members = tag.toList := by simp [declaredTag, ht, Json.asString?]
  have items : Keyed.contains "items" members = false := by simp [Keyed.contains, hi]
  rw [compileNode_string allowed]
  cases array : declaresArray members with
  | false =>
    rw [compileNode_long allowed leaf array, declared]
    cases declaredOptional members with
    | false => rfl
    | true => rw [tagNode_true _ _ false]; rfl
  | true =>
    have named : isArrayName (splitOptional (trim tag.toList)).1 = true := by
      rw [declaresArray, items, declared, Bool.false_or, isArrayName_dropMarks_iff] at array
      exact array.resolve_right once
    rw [compileNode_list allowed leaf array, compileItems_eq, hi, arrayOptional, declared]
    unfold tagNode
    dsimp only
    rw [if_pos named]
    cases declaredOptional members <;> simp [Except.map, Validator.markOptional]

theorem mem_trim_of_mem {c : Char} {text : List Char} (hc : c ∈ text) (clear : isBlank c = false) :
    c ∈ trim text := by
  obtain ⟨before, after, hb, ha, ht⟩ := exists_trim text
  rw [ht, List.mem_append, List.mem_append] at hc
  rcases hc with hc | hc | hc
  · rw [hb c hc] at clear
    cases clear
  · exact hc
  · rw [ha c hc] at clear
    cases clear

theorem Primitive.ofTag_eq_unknown {name : List Char}
    (other : ∀ type ∈ typeNames, type ≠ "array" →
      sameIgnoringCase (trim name) type.toList = false) :
    Primitive.ofTag name = .unknown (String.ofList (trim name)) := by
  have string := other "string" (by simp) (by simp)
  have number := other "number" (by simp) (by simp)
  have boolean := other "boolean" (by simp) (by simp)
  have any := other "any" (by simp) (by simp)
  simp only [ofTag, string, number, boolean, any, Bool.false_eq_true, if_false]

theorem ofTag_of_mark {name : List Char} (marked : '?' ∈ trim name) :
    Primitive.ofTag name = .unknown (String.ofList (trim name)) := by
  refine Primitive.ofTag_eq_unknown fun type known _ => ?_
  by_contra same
  rw [Bool.not_eq_false] at same
  exact mark_not_mem (isAlpha_of_named known same) marked

/-- With more than one `?`, the tag for an array is an unknown tag where it stands alone. -/
theorem compileNode_overmarked (h : Overmarked tag.toList) (allowed : level ≤ maxDepth) :
    ∃ unknown, compileNode (.string tag) level path =
      .ok (.primitive (.unknown unknown) true, [⟨path, unknown⟩]) := by
  have noArray : isArrayName (splitOptional (trim tag.toList)).1 = false := by
    by_contra names
    rw [Bool.not_eq_false] at names
    exact h.not_letters (isAlpha_of_isArrayName names)
  obtain ⟨name, count, ht, -⟩ := h
  have split : splitOptional (trim tag.toList) =
      (name ++ List.replicate (count + 1) '?', true) := by
    rw [ht, List.replicate_succ', ← List.append_assoc, splitOptional_append_mark]
  rw [split] at noArray
  have marked : '?' ∈ trim (name ++ List.replicate (count + 1) '?') :=
    mem_trim_of_mem (by simp) (by decide)
  refine ⟨String.ofList (trim (name ++ List.replicate (count + 1) '?')), ?_⟩
  rw [compileNode_string allowed, tagNode, split]
  dsimp only
  rw [noArray, if_neg Bool.false_ne_true, ofTag_of_mark marked]
  rfl

theorem compileNode_type_overmarked (ht : Keyed.get? "type" members = some (.string tag))
    (hi : Keyed.get? "items" members = none) (h : Overmarked tag.toList)
    (allowed : level ≤ maxDepth) :
    compileNode (.object members) level path = .ok (.array .any true, []) := by
  have leaf : isLeaf members = true := by simp [isLeaf, ht, Json.asString?]
  have declared : declaredTag members = tag.toList := by simp [declaredTag, ht, Json.asString?]
  have array : declaresArray members = true := by
    rw [declaresArray, declared, isArrayName_dropMarks_iff.2 (.inr h), Bool.or_true]
  have marked : (splitOptional (trim tag.toList)).2 = true := by
    obtain ⟨name, count, ht, -⟩ := h
    rw [ht, List.replicate_succ', ← List.append_assoc, splitOptional_append_mark]
  rw [compileNode_list allowed leaf array, compileItems_eq, hi, arrayOptional, declared, marked,
    Bool.or_true]
  rfl

def Compiled.changeAt (f : Validator → Validator) (position : List String) (schema : Compiled) :
    Compiled :=
  match schema.form with
  | .direct => { schema with validator := schema.validator.changeAt f position }
  | .wrapped field => { schema with validator := schema.validator.changeAt f (field :: position) }

theorem changeAt_ofRoot (keeps : ∀ validator, (f validator).isObject = validator.isObject)
    (root : Node) :
    Compiled.ofRoot (root.1.changeAt f position, root.2) =
      (Compiled.ofRoot root).changeAt f position := by
  unfold Compiled.ofRoot
  dsimp only
  rw [Validator.isObject_changeAt keeps]
  cases root.1.isObject with
  | true => rfl
  | false =>
    simp [Compiled.changeAt, Validator.changeAt, Validator.changePart, Keyed.adjust]

/-- Where a tag stands somewhere in a definition, the definition may stand at the root, and so may
it with an object in the place of the tag. -/
theorem isRoot_of_nodeAt? (stands : nodeAt? position definition = some (.string tag))
    (members : Json.Members) :
    isRoot definition = true ∧ isRoot (putAt (.object members) position definition) = true := by
  cases position with
  | nil =>
    obtain rfl := Option.some.inj stands
    exact ⟨rfl, rfl⟩
  | cons key rest =>
    cases definition with
    | object members => exact ⟨rfl, rfl⟩
    | _ => cases stands

theorem compile_putAt (keeps : ∀ validator, (f validator).isObject = validator.isObject)
    (recast : Recast f (.string tag) (.object members))
    (stands : nodeAt? position definition = some (.string tag)) :
    compile (putAt (.object members) position definition) =
      (compile definition).map (Compiled.changeAt f position) := by
  obtain ⟨root, root'⟩ := isRoot_of_nodeAt? stands members
  rw [compile_of_isRoot root, compile_of_isRoot root', (recast.putAt stands).compiled]
  cases compileNode definition 0 [] with
  | error e => rfl
  | ok node => exact congrArg Except.ok (changeAt_ofRoot keeps node)

@[simp] theorem Compiled.changeAt_id (position : List String) :
    Compiled.changeAt id position = id := by
  funext schema
  unfold changeAt
  split <;> rw [Validator.changeAt_id] <;> rfl

/-- Wherever a tag stands in a definition, its long form may stand for it, and with an `optional`
flag beside it the validator at that place becomes optional. A tag for an array with more than one
`?` is the exception: alone it is an unknown tag, in its long form an optional array. -/
theorem tag_forms_alike (definition : Json) (position : List String) (tag : String)
    (stands : nodeAt? position definition = some (.string tag)) :
    (¬ Overmarked tag.toList →
      compile (putAt (longForm tag) position definition) = compile definition ∧
      compile (putAt (optionalForm tag) position definition) =
        (compile definition).map (Compiled.changeAt Validator.markOptional position)) ∧
    (Overmarked tag.toList → ∀ level path, level ≤ maxDepth →
      (∃ unknown, compileNode (.string tag) level path =
        .ok (.primitive (.unknown unknown) true, [⟨path, unknown⟩])) ∧
      compileNode (longForm tag) level path = .ok (.array .any true, [])) := by
  refine ⟨fun once => ⟨?_, ?_⟩, fun overmarked level path allowed =>
    ⟨compileNode_overmarked overmarked allowed,
      compileNode_type_overmarked rfl rfl overmarked allowed⟩⟩
  · have recast : Recast id (.string tag) (longForm tag) :=
      recast_of_type [("type", .string tag)] rfl rfl once
    have keeps : ∀ validator : Validator, (id validator).isObject = validator.isObject :=
      fun _ => rfl
    rw [longForm, compile_putAt keeps recast stands, Compiled.changeAt_id]
    cases compile definition <;> rfl
  · have recast : Recast Validator.markOptional (.string tag) (optionalForm tag) :=
      recast_of_type [("optional", .bool true), ("type", .string tag)] rfl rfl once
    have keeps : ∀ validator : Validator, validator.markOptional.isObject = validator.isObject := by
      intro validator
      cases validator <;> rfl
    exact compile_putAt keeps recast stands

/-- The tag of a field inside the elements of an array. -/
theorem tag_forms_alike_gallery :
    let gallery (source : Json) : Json :=
      .object [("gallery", .object [("items", .object [("src", source)])])]
    nodeAt? ["gallery", "items", "src"] (gallery (.string "String ?")) =
        some (.string "String ?") ∧
      compile (gallery (longForm "String ?")) = compile (gallery (.string "String ?")) ∧
      compile (gallery (optionalForm "url")) = (compile (gallery (.string "url"))).map
        (Compiled.changeAt Validator.markOptional ["gallery", "items", "src"]) := by
  intro gallery
  have string := tag_forms_alike (gallery (.string "String ?")) ["gallery", "items", "src"]
    "String ?" rfl
  have url := tag_forms_alike (gallery (.string "url")) ["gallery", "items", "src"] "url" rfl
  exact ⟨rfl, (string.1 (not_overmarked (by decide +kernel))).1,
    (url.1 (not_overmarked (by decide +kernel))).2⟩

/-- Marked twice, an array is no array where its tag stands alone. -/
theorem array_marked_twice :
    compile (.string "array??") =
        .ok ⟨.object [("value", .primitive (.unknown "array?") true)] false, .wrapped "value",
          [⟨[], "array?"⟩]⟩ ∧
      compile (longForm "array??") =
        .ok ⟨.object [("value", .array .any true)] false, .wrapped "value", []⟩ :=
  ⟨rfl, rfl⟩

end Schema

end SiteDesk
