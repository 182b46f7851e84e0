import SiteDesk.Proofs.Admission
import SiteDesk.Proofs.NodeLevels
import SiteDesk.Proofs.TagForms

/-!
What a definition means, read off the definition itself: when a value conforms to a node. A schema
accepts every value that conforms to its definition, and hands it back; if the definition declares
fields at its root, it accepts nothing else. Two tags for arrays break this. With blanks before its
`?`, the tag is taken for one that names no type, and everything is accepted. With more than one
`?` it does name no type, but stands for an array if it stands under `type`.
-/
namespace SiteDesk.Schema

open Text

variable {tag : List Char} {type : String} {node inner definition value : Json}
  {members : Json.Members} {validator : Validator} {level : Nat} {path : List String}
  {compiled : Node} {schema : Compiled} {bad : Json → Prop}

/-- A tag names a type: in any case of letters, with blanks around the tag and around the name in
it, and with at most one `?` at its end. -/
def Names (type : String) (tag : List Char) : Prop :=
  ∃ name mark, trim tag = name ++ mark ∧ (mark = [] ∨ mark = ['?']) ∧
    sameIgnoringCase (trim name) type.toList = true

def Marked (tag : List Char) : Prop :=
  ∃ name, trim tag = name ++ ['?']

/-- A value is of the type that a tag names. A tag that names none of these takes any value. -/
structure Suits (tag : List Char) (value : Json) : Prop where
  string : Names "string" tag → value.kind = .string
  number : Names "number" tag → value.kind = .number
  boolean : Names "boolean" tag → value.kind = .boolean
  array : Names "array" tag → value.kind = .array

/-- An object that declares fields: there is no string under `type`, and nothing under `items`. -/
def IsMapping (members : Json.Members) : Prop :=
  (∀ tag, Keyed.get? "type" members ≠ some (.string tag)) ∧ Keyed.get? "items" members = none

/-- A node that lets its value be absent: by a `?` at the end of its tag, or by a flag. -/
inductive MayBeAbsent : Json → Prop
  | tag {tag : String} (marked : Marked tag.toList) : MayBeAbsent (.string tag)
  | long {members : Json.Members} {tag : String}
      (tagged : Keyed.get? "type" members = some (.string tag)) (marked : Marked tag.toList) :
      MayBeAbsent (.object members)
  | flag {members : Json.Members} (leaf : ¬ IsMapping members)
      (set : Keyed.get? "optional" members = some (.bool true)) : MayBeAbsent (.object members)

/-- A value conforms to a node. A tag asks for the type it names, also under `type`. A node for the
elements asks for an array, and for items that conform to it unless it is null or `{}`. A mapping
asks for an object in which each declared field conforms, or is absent where it may be or where
everything conforms. Nodes that are neither strings nor objects ask for nothing. -/
inductive Conforms : Json → Json → Prop
  | tag {tag : String} {value : Json} (suits : Suits tag.toList value) :
      Conforms (.string tag) value
  | long {members : Json.Members} {tag : String} {value : Json}
      (tagged : Keyed.get? "type" members = some (.string tag))
      (plain : Keyed.get? "items" members = none) (suits : Suits tag.toList value) :
      Conforms (.object members) value
  | list {members : Json.Members} {node : Json} {items : List Json}
      (declared : Keyed.get? "items" members = some node)
      (conform : node ≠ .null → node ≠ .object [] → ∀ item ∈ items, Conforms node item) :
      Conforms (.object members) (.array items)
  | mapping {members fields : Json.Members} (mapping : IsMapping members)
      (present : ∀ entry ∈ members, ∀ value, Keyed.get? entry.1 fields = some value →
        Conforms entry.2 value)
      (absent : ∀ entry ∈ members, Keyed.get? entry.1 fields = none → ¬ MayBeAbsent entry.2 →
        ∀ value, Conforms entry.2 value) :
      Conforms (.object members) (.object fields)
  | free {node value : Json} (untagged : node.kind ≠ .string) (stray : node.kind ≠ .object) :
      Conforms node value

/-- A tag under `type`, with nothing under `items`, that would be for an array without all but one
`?` at its end. -/
inductive TakenForArray : Json → Prop
  | long {members : Json.Members} {tag : String}
      (tagged : Keyed.get? "type" members = some (.string tag))
      (plain : Keyed.get? "items" members = none) (marked : Overmarked tag.toList) :
      TakenForArray (.object members)

/-- A tag for an array with blanks before its `?`, alone or under `type`. -/
inductive TakenForUnknown : Json → Prop
  | tag {tag : String} (spaced : SpacedMark "array" tag.toList) : TakenForUnknown (.string tag)
  | long {members : Json.Members} {tag : String}
      (tagged : Keyed.get? "type" members = some (.string tag))
      (plain : Keyed.get? "items" members = none) (spaced : SpacedMark "array" tag.toList) :
      TakenForUnknown (.object members)

/-- No node of this kind stands in a definition. -/
def FreeOf (bad : Json → Prop) (definition : Json) : Prop :=
  ∀ node level, StandsAt node level definition → ¬ bad node

theorem names_iff (known : type ∈ typeNames) :
    Names type tag ↔
      sameIgnoringCase (trim (splitOptional (trim tag)).1) type.toList = true := by
  constructor
  · rintro ⟨name, mark, ht, rfl | rfl, named⟩
    · rw [List.append_nil] at ht
      have clear : '?' ∉ trim name := mark_not_mem (isAlpha_of_named known named)
      rw [← ht, trim_trim] at named clear
      rwa [splitOptional_of_not_mem clear, trim_trim]
    · rwa [ht, splitOptional_append_mark]
  · intro named
    refine ⟨_, _, eq_splitOptional_append (trim tag), ?_, named⟩
    split
    · exact .inr rfl
    · exact .inl rfl

theorem marked_iff : (splitOptional (trim tag)).2 = true ↔ Marked tag := by
  constructor
  · intro marked
    refine ⟨(splitOptional (trim tag)).1, ?_⟩
    have split := eq_splitOptional_append (trim tag)
    rwa [if_pos marked] at split
  · rintro ⟨name, ht⟩
    rw [ht, splitOptional_append_mark]

theorem eq_of_named {name : List Char} {other : String} (known : type ∈ typeNames)
    (known' : other ∈ typeNames) (named : sameIgnoringCase name type.toList = true)
    (named' : sameIgnoringCase name other.toList = true) : type = other := by
  have apart : ∀ a ∈ typeNames, ∀ b ∈ typeNames,
      a.toList.map Char.toLower = b.toList.map Char.toLower → a = b := by
    decide +kernel
  exact apart _ known _ known'
    ((sameIgnoringCase_iff.1 named).symm.trans (sameIgnoringCase_iff.1 named'))

theorem differs_of_named {name : List Char} (known : type ∈ typeNames)
    (named : sameIgnoringCase name type.toList = true) (other : String)
    (known' : other ∈ typeNames) (ne : type ≠ other) :
    sameIgnoringCase name other.toList = false :=
  Bool.eq_false_iff.2 fun named' => ne (eq_of_named known known' named named')

theorem names_array (array : isArrayName (splitOptional (trim tag)).1 = true) :
    Names "array" tag := by
  rw [names_iff (by simp), (trimmed_of_named (by simp) array).trim_eq]
  exact array

/-- What the leaf of a name accepts is told by the types that the name can be. -/
theorem Primitive.accepts_ofTag_iff {name : List Char} :
    (Primitive.ofTag name).accepts value = true ↔
      (sameIgnoringCase (trim name) "string".toList = true → value.kind = .string) ∧
      (sameIgnoringCase (trim name) "number".toList = true → value.kind = .number) ∧
      (sameIgnoringCase (trim name) "boolean".toList = true → value.kind = .boolean) := by
  unfold ofTag
  dsimp only
  split_ifs with string number boolean any
  · have number := differs_of_named (by simp) string "number" (by simp) (by simp)
    have boolean := differs_of_named (by simp) string "boolean" (by simp) (by simp)
    simp only [accepts, decide_eq_true_eq, string, number, boolean, Bool.false_eq_true,
      false_implies, true_implies, and_true]
  · have boolean := differs_of_named (by simp) number "boolean" (by simp) (by simp)
    simp only [accepts, decide_eq_true_eq, string, number, boolean, Bool.false_eq_true,
      false_implies, true_implies, and_true, true_and]
  · simp only [accepts, decide_eq_true_eq, string, number, boolean, Bool.false_eq_true,
      false_implies, true_implies, true_and]
  all_goals simp only [accepts, string, number, boolean, Bool.false_eq_true, false_implies,
    and_true]

theorem admits_tagNode_of_suits (suits : Suits tag value) (optional : Bool) (path : List String) :
    (tagNode tag optional path).1.admits (some value) = true := by
  unfold tagNode
  dsimp only
  cases array : isArrayName (splitOptional (trim tag)).1 with
  | true =>
    have kind := suits.array (names_array array)
    cases value <;> simp_all [Validator.admits, Validator.any, Primitive.accepts, Json.kind]
  | false =>
    rw [if_neg Bool.false_ne_true, leafNode_fst, Validator.admits]
    exact Primitive.accepts_ofTag_iff.2 ⟨fun named => suits.string ((names_iff (by simp)).2 named),
      fun named => suits.number ((names_iff (by simp)).2 named),
      fun named => suits.boolean ((names_iff (by simp)).2 named)⟩

theorem suits_of_array (named : Names "array" tag) (kind : value.kind = .array) :
    Suits tag value := by
  have apart {type : String} (known : type ∈ typeNames) (ne : "array" ≠ type) : ¬ Names type tag :=
    fun other => ne (eq_of_named (by simp) known ((names_iff (by simp)).1 named)
      ((names_iff known).1 other))
  exact ⟨fun other => absurd other (apart (by simp) (by simp)),
    fun other => absurd other (apart (by simp) (by simp)),
    fun other => absurd other (apart (by simp) (by simp)), fun _ => kind⟩

theorem suits_of_admits_tagNode (clear : ¬ SpacedMark "array" tag) {optional : Bool}
    (h : (tagNode tag optional path).1.admits (some value) = true) : Suits tag value := by
  unfold tagNode at h
  dsimp only at h
  cases array : isArrayName (splitOptional (trim tag)).1 with
  | true =>
    rw [array, if_pos rfl] at h
    refine suits_of_array (names_array array) ?_
    cases value <;> simp_all [Validator.admits, Json.kind]
  | false =>
    rw [array, if_neg Bool.false_ne_true, leafNode_fst, Validator.admits] at h
    obtain ⟨string, number, boolean⟩ := Primitive.accepts_ofTag_iff.1 h
    refine ⟨fun named => string ((names_iff (by simp)).1 named),
      fun named => number ((names_iff (by simp)).1 named),
      fun named => boolean ((names_iff (by simp)).1 named), fun named => ?_⟩
    rcases (named_trim_iff (by simp)).1 ((names_iff (by simp)).1 named) with name | spaced
    · rw [isArrayName, name] at array
      cases array
    · exact absurd spaced clear

theorem Overmarked.not_names (h : Overmarked tag) (known : type ∈ typeNames) :
    ¬ Names type tag := by
  obtain ⟨name, count, ht, -⟩ := h
  rw [names_iff known, ht, List.replicate_succ', ← List.append_assoc, splitOptional_append_mark]
  intro named
  exact mark_not_mem (isAlpha_of_named known named) (mem_trim_of_mem (by simp) (by decide))

theorem Overmarked.suits (h : Overmarked tag) (value : Json) : Suits tag value :=
  ⟨fun named => absurd named (h.not_names (by simp)),
    fun named => absurd named (h.not_names (by simp)),
    fun named => absurd named (h.not_names (by simp)),
    fun named => absurd named (h.not_names (by simp))⟩

/-- Where a tag makes an array under `type`, it asks for one unless it is marked more than once. -/
theorem suits_iff_of_dropMarks (array : isArrayName (dropMarks (trim tag)) = true) :
    Suits tag value ↔ Overmarked tag ∨ value.kind = .array := by
  rcases isArrayName_dropMarks_iff.1 array with array | overmarked
  · have named := names_array array
    constructor
    · exact fun suits => .inr (suits.array named)
    · rintro (overmarked | kind)
      · exact overmarked.suits value
      · exact suits_of_array named kind
  · exact iff_of_true (overmarked.suits value) (.inl overmarked)

@[simp] theorem isMapping_iff : IsMapping members ↔ isLeaf members = false :=
  isLeaf_eq_false_iff.symm

theorem conforms_string_iff {tag : String} :
    Conforms (.string tag) value ↔ Suits tag.toList value := by
  constructor
  · intro h
    cases h with
    | tag suits => exact suits
    | free untagged => exact absurd rfl untagged
  · exact .tag

theorem conforms_long_iff {tag : String}
    (tagged : Keyed.get? "type" members = some (.string tag))
    (plain : Keyed.get? "items" members = none) :
    Conforms (.object members) value ↔ Suits tag.toList value := by
  constructor
  · intro h
    cases h with
    | long tagged' _ suits =>
      cases tagged.symm.trans tagged'
      exact suits
    | list declared => cases plain.symm.trans declared
    | mapping mapping => exact absurd tagged (mapping.1 _)
    | free _ stray => exact absurd rfl stray
  · exact .long tagged plain

theorem conforms_list_iff (declared : Keyed.get? "items" members = some node) :
    Conforms (.object members) value ↔
      ∃ items, value = .array items ∧
        (isOpen node = false → ∀ item ∈ items, Conforms node item) := by
  rw [isOpen_eq_false_iff]
  constructor
  · intro h
    cases h with
    | list declared' conform =>
      cases declared.symm.trans declared'
      exact ⟨_, rfl, fun closed => conform closed.1 closed.2⟩
    | long _ plain => cases plain.symm.trans declared
    | mapping mapping => cases mapping.2.symm.trans declared
    | free _ stray => exact absurd rfl stray
  · rintro ⟨items, rfl, conform⟩
    exact .list declared fun stated filled => conform ⟨stated, filled⟩

/-- What a mapping asks of the value of a field. -/
def FieldConforms (node : Json) : Option Json → Prop
  | some value => Conforms node value
  | none => MayBeAbsent node ∨ ∀ value, Conforms node value

theorem conforms_mapping_iff (mapping : IsMapping members) :
    Conforms (.object members) value ↔
      ∃ fields, value = .object fields ∧
        ∀ entry ∈ members, FieldConforms entry.2 (Keyed.get? entry.1 fields) := by
  constructor
  · intro h
    cases h with
    | mapping _ present absent =>
      refine ⟨_, rfl, fun entry declared => ?_⟩
      cases found : Keyed.get? entry.1 _ with
      | some value => exact present entry declared value found
      | none => exact or_iff_not_imp_left.2 (absent entry declared found)
    | long tagged => exact absurd tagged (mapping.1 _)
    | list declared => cases mapping.2.symm.trans declared
    | free _ stray => exact absurd rfl stray
  · rintro ⟨fields, rfl, conform⟩
    refine .mapping mapping (fun entry declared value found => ?_)
      fun entry declared found => ?_
    · simpa [FieldConforms, found] using conform entry declared
    · exact or_iff_not_imp_left.1 (by simpa [FieldConforms, found] using conform entry declared)

@[simp] theorem declaredOptional_iff :
    declaredOptional members = true ↔ Keyed.get? "optional" members = some (.bool true) := by
  unfold declaredOptional
  cases Keyed.get? "optional" members with
  | none => simp
  | some flag => cases flag <;> simp [Json.asBool?]

theorem marked_declaredTag_iff :
    Marked (declaredTag members) ↔
      ∃ tag, Keyed.get? "type" members = some (.string tag) ∧ Marked tag.toList := by
  unfold declaredTag
  have empty : ¬ Marked [] := by
    rintro ⟨name, ht⟩
    exact List.append_ne_nil_of_right_ne_nil name (List.cons_ne_nil _ _) ht.symm
  cases Keyed.get? "type" members with
  | none => simpa using empty
  | some declared => cases declared <;> simp [Json.asString?, empty]

theorem mayBeAbsent_string_iff {tag : String} :
    MayBeAbsent (.string tag) ↔ Marked tag.toList := by
  constructor
  · intro h
    cases h with
    | tag marked => exact marked
  · exact .tag

theorem mayBeAbsent_leaf_iff (leaf : isLeaf members = true) :
    MayBeAbsent (.object members) ↔
      declaredOptional members = true ∨ Marked (declaredTag members) := by
  have unmapped : ¬ IsMapping members := by simp [isMapping_iff, leaf]
  rw [declaredOptional_iff, marked_declaredTag_iff]
  constructor
  · intro h
    cases h with
    | long tagged marked => exact .inr ⟨_, tagged, marked⟩
    | flag _ set => exact .inl set
  · rintro (set | ⟨tag, tagged, marked⟩)
    · exact .flag unmapped set
    · exact .long tagged marked

theorem not_mayBeAbsent_of_mapping (mapping : IsMapping members) :
    ¬ MayBeAbsent (.object members) := by
  intro h
  cases h with
  | long tagged => exact mapping.1 _ tagged
  | flag leaf => exact leaf mapping

@[simp] theorem isOptional_tagNode (tag : List Char) (optional : Bool) (path : List String) :
    (tagNode tag optional path).1.isOptional =
      ((splitOptional (trim tag)).2 || optional) := by
  unfold tagNode
  dsimp only
  split
  · rfl
  · rw [leafNode_fst]
    rfl

/-- A compiled node is optional exactly if its value may be absent. -/
theorem isOptional_compileNode (h : compileNode node level path = .ok compiled) :
    compiled.1.isOptional = true ↔ MayBeAbsent node := by
  have allowed := allowed_of_compileNode h
  cases node with
  | string tag =>
    rw [compileNode_string allowed] at h
    cases h
    rw [isOptional_tagNode, Bool.or_false, marked_iff, mayBeAbsent_string_iff]
  | object members =>
    cases leaf : isLeaf members with
    | false =>
      obtain ⟨found, -, rfl⟩ := mapping_of_compileNode h leaf
      exact iff_of_false Bool.false_ne_true (not_mayBeAbsent_of_mapping (isMapping_iff.2 leaf))
    | true =>
      rw [mayBeAbsent_leaf_iff leaf]
      cases array : declaresArray members with
      | false =>
        rw [compileNode_long allowed leaf array] at h
        cases h
        rw [isOptional_tagNode, Bool.or_eq_true, marked_iff, or_comm]
      | true =>
        obtain ⟨found, -, rfl⟩ := list_of_compileNode h leaf array
        rw [Validator.isOptional, arrayOptional, Bool.or_eq_true, marked_iff]
  | null =>
    rw [compileNode_null allowed] at h
    cases h
    exact iff_of_false Bool.false_ne_true (by rintro ⟨⟩)
  | _ =>
    rw [compileNode_stray allowed path (by simp [Json.kind])] at h
    cases h
    exact iff_of_false Bool.false_ne_true (by rintro ⟨⟩)

theorem FreeOf.here (h : FreeOf bad node) : ¬ bad node :=
  h node 0 .root

theorem FreeOf.below (h : FreeOf bad node) (below : Below inner node) : FreeOf bad inner :=
  fun other level stands => h other (level + 1) (.down below stands)

theorem freeOf_iff :
    FreeOf bad node ↔ ¬ bad node ∧ ∀ inner, Below inner node → FreeOf bad inner := by
  constructor
  · exact fun free => ⟨free.here, fun _ => free.below⟩
  · rintro ⟨here, below⟩ inner level stands
    cases stands with
    | root => exact here
    | down step rest => exact below _ step _ _ rest

/-- A validator admits what conforms to a node, and nothing else, as far as the tags in it are not
taken for others. -/
structure Faithful (node : Json) (validator : Validator) : Prop where
  complete : FreeOf TakenForArray node → ∀ value, Conforms node value →
    validator.admits (some value) = true
  sound : FreeOf TakenForUnknown node → ∀ value, validator.admits (some value) = true →
    Conforms node value

section Fields

variable {candidate : Option Json} {fields : List (String × Validator)} {values : Json.Members}

theorem Faithful.admits_field (h : Faithful node validator)
    (optional : validator.isOptional = true ↔ MayBeAbsent node) (free : FreeOf TakenForArray node)
    (conforms : FieldConforms node candidate) : validator.admits candidate = true := by
  cases candidate with
  | some value => exact h.complete free value conforms
  | none =>
    rw [Validator.admits_none_iff, optional]
    exact conforms.imp_right fun all value => h.complete free value (all value)

theorem Faithful.field_conforms (h : Faithful node validator)
    (optional : validator.isOptional = true ↔ MayBeAbsent node) (free : FreeOf TakenForUnknown node)
    (admits : validator.admits candidate = true) : FieldConforms node candidate := by
  cases candidate with
  | some value => exact h.sound free value admits
  | none =>
    rw [Validator.admits_none_iff, optional] at admits
    exact admits.imp_right fun all value => h.sound free value (all value)

structure Reads (entry : String × Json) (field : String × Validator) : Prop where
  name : field.1 = entry.1
  faithful : Faithful entry.2 field.2
  optional : field.2.isOptional = true ↔ MayBeAbsent entry.2

theorem admitsFields_of_reads (reads : List.Forall₂ Reads members fields)
    (free : ∀ entry ∈ members, FreeOf TakenForArray entry.2)
    (conform : ∀ entry ∈ members, FieldConforms entry.2 (Keyed.get? entry.1 values)) :
    Validator.admitsFields fields values = true := by
  induction reads with
  | nil => rfl
  | cons first rest ih =>
    rw [List.forall_mem_cons] at free conform
    rw [Validator.admitsFields, first.name, ih free.2 conform.2, Bool.and_true]
    exact first.faithful.admits_field first.optional free.1 conform.1

theorem fields_conform_of_reads (reads : List.Forall₂ Reads members fields)
    (free : ∀ entry ∈ members, FreeOf TakenForUnknown entry.2)
    (admits : Validator.admitsFields fields values = true) :
    ∀ entry ∈ members, FieldConforms entry.2 (Keyed.get? entry.1 values) := by
  induction reads with
  | nil => simp
  | cons first rest ih =>
    rw [List.forall_mem_cons] at free ⊢
    rw [Validator.admitsFields, first.name, Bool.and_eq_true] at admits
    exact ⟨first.faithful.field_conforms first.optional free.1 admits.1, ih free.2 admits.2⟩

theorem faithful_mapping (mapping : IsMapping members) (reads : List.Forall₂ Reads members fields)
    (optional : Bool) : Faithful (.object members) (.object fields optional) := by
  have below : ∀ entry ∈ members, Below entry.2 (.object members) :=
    fun entry declared => .member mapping.1 mapping.2 declared
  constructor
  · intro free value conforms
    obtain ⟨values, rfl, conform⟩ := (conforms_mapping_iff mapping).1 conforms
    have inner := fun entry declared => free.below (below entry declared)
    exact Validator.admits_object_iff.2 ⟨values, rfl, admitsFields_of_reads reads inner conform⟩
  · intro free value admits
    obtain ⟨values, rfl, admits⟩ := Validator.admits_object_iff.1 admits
    have inner := fun entry declared => free.below (below entry declared)
    exact (conforms_mapping_iff mapping).2 ⟨values, rfl,
      fields_conform_of_reads reads inner admits⟩

end Fields

theorem faithful_tag (tag : String) (path : List String) :
    Faithful (.string tag) (tagNode tag.toList false path).1 where
  complete _ _ conforms := admits_tagNode_of_suits (conforms_string_iff.1 conforms) _ _
  sound free _ admits := conforms_string_iff.2
    (suits_of_admits_tagNode (fun spaced => free.here (.tag spaced)) admits)

theorem faithful_free (untagged : node.kind ≠ .string) (stray : node.kind ≠ .object)
    (all : ∀ value, validator.admits (some value) = true) : Faithful node validator where
  complete _ value _ := all value
  sound _ _ _ := .free untagged stray

theorem exists_tag_of_leaf (leaf : isLeaf members = true)
    (plain : Keyed.get? "items" members = none) :
    ∃ tag, Keyed.get? "type" members = some (.string tag) ∧
      declaredTag members = tag.toList := by
  unfold isLeaf Keyed.contains at leaf
  unfold declaredTag
  cases tagged : Keyed.get? "type" members with
  | none => simp [tagged, plain] at leaf
  | some declared => cases declared <;> simp_all [Json.asString?]

theorem faithful_long (leaf : isLeaf members = true) (plain : Keyed.get? "items" members = none)
    (optional : Bool) (path : List String) :
    Faithful (.object members) (tagNode (declaredTag members) optional path).1 := by
  obtain ⟨tag, tagged, declared⟩ := exists_tag_of_leaf leaf plain
  rw [declared]
  constructor
  · intro _ value conforms
    exact admits_tagNode_of_suits ((conforms_long_iff tagged plain).1 conforms) _ _
  · intro free value admits
    exact (conforms_long_iff tagged plain).2
      (suits_of_admits_tagNode (fun spaced => free.here (.long tagged plain spaced)) admits)

theorem faithful_plain_list (leaf : isLeaf members = true)
    (plain : Keyed.get? "items" members = none)
    (array : isArrayName (dropMarks (trim (declaredTag members))) = true) (optional : Bool) :
    Faithful (.object members) (.array .any optional) := by
  obtain ⟨tag, tagged, declared⟩ := exists_tag_of_leaf leaf plain
  rw [declared] at array
  constructor
  · intro free value conforms
    rcases (suits_iff_of_dropMarks array).1 ((conforms_long_iff tagged plain).1 conforms)
      with overmarked | kind
    · exact absurd (.long tagged plain overmarked) free.here
    · cases value <;> simp_all [Validator.admits_array_iff, Json.kind]
  · intro _ value admits
    obtain ⟨items, rfl, -⟩ := Validator.admits_array_iff.1 admits
    exact (conforms_long_iff tagged plain).2 ((suits_iff_of_dropMarks array).2 (.inr rfl))

theorem faithful_list {element : Validator} (declared : Keyed.get? "items" members = some node)
    (all : isOpen node = true → element = .any) (faithful : isOpen node = false →
      Below node (.object members) → Faithful node element) (optional : Bool) :
    Faithful (.object members) (.array element optional) := by
  constructor
  · intro free value conforms
    obtain ⟨items, rfl, conform⟩ := (conforms_list_iff declared).1 conforms
    refine Validator.admits_array.2 fun item among => ?_
    cases closed : isOpen node with
    | true =>
      rw [all closed]
      rfl
    | false =>
      have below := below_items declared closed
      exact (faithful closed below).complete (free.below below) item (conform closed item among)
  · intro free value admits
    obtain ⟨items, rfl, each⟩ := Validator.admits_array_iff.1 admits
    refine (conforms_list_iff declared).2 ⟨items, rfl, fun closed item among => ?_⟩
    have below := below_items declared closed
    exact (faithful closed below).sound (free.below below) item (each item among)

theorem reads_of_compileFields {found : List (String × Validator) × List UnknownTag}
    (h : compileFields members level path = .ok found)
    (faithful : ∀ entry ∈ members, ∀ level path compiled,
      compileNode entry.2 level path = .ok compiled → Faithful entry.2 compiled.1) :
    List.Forall₂ Reads members found.1 := by
  induction members generalizing found with
  | nil =>
    cases h
    exact .nil
  | cons entry rest ih =>
    obtain ⟨first, later, hn, hr, rfl⟩ := cons_of_compileFields h
    rw [List.forall_mem_cons] at faithful
    exact .cons ⟨rfl, faithful.1 _ _ _ hn, isOptional_compileNode hn⟩ (ih hr faithful.2)

/-- A node compiles to a validator that admits what conforms to the node. -/
theorem faithful_compileNode (node : Json) : ∀ level path compiled,
    compileNode node level path = .ok compiled → Faithful node compiled.1 := by
  induction node using wellFounded_below.induction with
  | h node ih =>
    intro level path compiled h
    have allowed := allowed_of_compileNode h
    cases node with
    | string tag =>
      rw [compileNode_string allowed] at h
      cases h
      exact faithful_tag tag path
    | object members =>
      cases leaf : isLeaf members with
      | false =>
        obtain ⟨found, hf, rfl⟩ := mapping_of_compileNode h leaf
        have mapping := isMapping_iff.2 leaf
        exact faithful_mapping mapping (reads_of_compileFields hf fun entry declared =>
          ih entry.2 (.member mapping.1 mapping.2 declared)) false
      | true =>
        cases items : Keyed.get? "items" members with
        | none =>
          cases array : declaresArray members with
          | false =>
            rw [compileNode_long allowed leaf array] at h
            cases h
            exact faithful_long leaf items _ path
          | true =>
            obtain ⟨found, hi, rfl⟩ := list_of_compileNode h leaf array
            rw [compileItems_eq, items] at hi
            cases hi
            refine faithful_plain_list leaf items ?_ _
            simpa [declaresArray, Keyed.contains, items] using array
        | some elements =>
          have array : declaresArray members = true := by
            simp [declaresArray, Keyed.contains, items]
          obtain ⟨found, hi, rfl⟩ := list_of_compileNode h leaf array
          rw [compileItems_eq, items] at hi
          refine faithful_list items (fun free => ?_) (fun closed below => ?_) _
          · simp only [free, if_true, Except.ok.injEq] at hi
            rw [← hi]
          · simp only [closed, Bool.false_eq_true, if_false] at hi
            exact ih elements below _ _ _ hi
    | null =>
      rw [compileNode_null allowed] at h
      cases h
      exact faithful_free (by simp [Json.kind]) (by simp [Json.kind]) fun _ => rfl
    | _ =>
      rw [compileNode_stray allowed path (by simp [Json.kind])] at h
      cases h
      exact faithful_free (by simp [Json.kind]) (by simp [Json.kind]) fun _ => rfl

/-- The validator of a root that declares fields meets candidates as they are. -/
theorem direct_of_mapping (mapping : IsMapping members)
    (h : compile (.object members) = .ok schema) :
    schema.form = .direct ∧ ∃ level path unknown,
      compileNode (.object members) level path = .ok (schema.validator, unknown) := by
  obtain ⟨-, root, hn, rfl⟩ := compile_eq_ok_iff.1 h
  obtain ⟨found, -, rfl⟩ := mapping_of_compileNode hn (isMapping_iff.1 mapping)
  exact ⟨rfl, 0, [], found.2, hn⟩

theorem admits_of_conforms (h : compile definition = .ok schema)
    (free : FreeOf TakenForArray definition) (conforms : Conforms definition value) :
    schema.admits value = true := by
  obtain ⟨-, root, hn, rfl⟩ := compile_eq_ok_iff.1 h
  have admits := (faithful_compileNode definition _ _ _ hn).complete free value conforms
  unfold Compiled.ofRoot
  cases root.1.isObject with
  | true => simp [Compiled.admits, admits]
  | false =>
    simp [Compiled.admits, wrap, Validator.admits, Validator.admitsFields, Keyed.get?, admits]

theorem conforms_of_admits (mapping : IsMapping members)
    (h : compile (.object members) = .ok schema) (free : FreeOf TakenForUnknown (.object members))
    (admits : schema.admits value = true) : Conforms (.object members) value := by
  obtain ⟨direct, level, path, unknown, hn⟩ := direct_of_mapping mapping h
  rw [Compiled.admits, direct, Bool.or_false] at admits
  exact (faithful_compileNode _ _ _ _ hn).sound free value admits

theorem SpacedMark.names (h : SpacedMark type tag) (known : type ∈ typeNames) : Names type tag :=
  (names_iff known).2 ((named_trim_iff known).2 (.inr h))

theorem TakenForArray.conforms (h : TakenForArray node) (value : Json) : Conforms node value := by
  cases h with
  | long tagged plain marked => exact .long tagged plain (marked.suits value)

theorem TakenForArray.compileNode_eq (h : TakenForArray node) (allowed : level ≤ maxDepth) :
    compileNode node level path = .ok (.array .any true, []) := by
  cases h with
  | long tagged plain marked => exact compileNode_type_overmarked tagged plain marked allowed

theorem TakenForUnknown.conforms_iff (h : TakenForUnknown node) :
    Conforms node value ↔ value.kind = .array := by
  cases h with
  | tag spaced =>
    have named := spaced.names (by simp)
    rw [conforms_string_iff]
    exact ⟨fun suits => suits.array named, suits_of_array named⟩
  | long tagged plain spaced =>
    have named := spaced.names (by simp)
    rw [conforms_long_iff tagged plain]
    exact ⟨fun suits => suits.array named, suits_of_array named⟩

theorem not_isArrayName_of_spaced (h : SpacedMark "array" tag) :
    isArrayName (splitOptional (trim tag)).1 = false ∧
      isArrayName (dropMarks (trim tag)) = false := by
  have clear := h.not_letters
  refine ⟨Bool.eq_false_iff.2 fun named => clear (isAlpha_of_isArrayName named), ?_⟩
  obtain ⟨name, blanks, ht, some, hb, named⟩ := h
  rw [ht, ← List.append_assoc] at clear ⊢
  have unmarked : '?' ∉ name ++ blanks := by
    rw [List.mem_append, not_or]
    exact ⟨mark_not_mem (isAlpha_of_isArrayName named), fun hm => absurd (hb _ hm) (by decide)⟩
  rw [← List.replicate_one, dropMarks_append unmarked]
  rw [splitOptional_append_mark] at clear
  exact Bool.eq_false_iff.2 fun named => clear (isAlpha_of_isArrayName named)

/-- With blanks before its mark, the tag for an array is compiled to a leaf for an unknown tag. -/
theorem tagNode_of_spaced (h : SpacedMark "array" tag) (optional : Bool) (path : List String) :
    ∃ unknown, tagNode tag optional path =
      (.primitive (.unknown unknown) true, [⟨path, unknown⟩]) := by
  have named := (names_iff (by simp)).1 (h.names (by simp))
  have marked : (splitOptional (trim tag)).2 = true := by
    obtain ⟨name, blanks, ht, -⟩ := h
    rw [ht, ← List.append_assoc, splitOptional_append_mark]
  refine ⟨String.ofList (trim (splitOptional (trim tag)).1), ?_⟩
  unfold tagNode
  dsimp only
  rw [(not_isArrayName_of_spaced h).1, if_neg Bool.false_ne_true, marked,
    Primitive.ofTag_eq_unknown fun type known ne =>
      differs_of_named (by simp) named type known (Ne.symm ne)]
  rfl

theorem TakenForUnknown.compileNode_eq (h : TakenForUnknown node) (allowed : level ≤ maxDepth) :
    ∃ unknown, compileNode node level path =
      .ok (.primitive (.unknown unknown) true, [⟨path, unknown⟩]) := by
  cases h with
  | tag spaced =>
    obtain ⟨unknown, found⟩ := tagNode_of_spaced spaced false path
    exact ⟨unknown, by rw [compileNode_string allowed, found]⟩
  | @long members tag tagged plain spaced =>
    obtain ⟨unknown, found⟩ := tagNode_of_spaced spaced (declaredOptional members) path
    have leaf : isLeaf members = true := by simp [isLeaf, tagged, Json.asString?]
    have declared : declaredTag members = tag.toList := by
      simp [declaredTag, tagged, Json.asString?]
    have array : declaresArray members = false := by
      simp [declaresArray, Keyed.contains, plain, declared, (not_isArrayName_of_spaced spaced).2]
    exact ⟨unknown, by rw [compileNode_long allowed leaf array, declared, found]⟩

/-- What conforms to a definition is accepted and handed back, unless a tag in it is wrongly taken
for an array. Where the root declares fields, the props are accepted as they are, and only if they
conform, unless a tag for an array is wrongly taken for an unknown one. The nodes with such tags
compile to an array and to a leaf that accepts everything, whatever conforms to them. -/
theorem run_agrees_unless_misread (compiles : compile definition = .ok schema) (value : Json)
    (context : BlockContext) :
    (FreeOf TakenForArray definition → Conforms definition value →
      ∃ attempt, schema.run value context = .ok ⟨value, attempt⟩) ∧
    (∀ members, definition = .object members → IsMapping members →
      ∀ validated, schema.run value context = .ok validated →
        validated = ⟨value, .direct⟩ ∧
          (FreeOf TakenForUnknown definition → Conforms definition value)) ∧
    ∀ node level path, level ≤ maxDepth →
      (TakenForArray node → (∀ value, Conforms node value) ∧
        compileNode node level path = .ok (.array .any true, [])) ∧
      (TakenForUnknown node → (∀ value, Conforms node value ↔ value.kind = .array) ∧
        ∃ tag, compileNode node level path =
          .ok (.primitive (.unknown tag) true, [⟨path, tag⟩])) := by
  refine ⟨fun free conforms => ?_, ?_, fun node level path allowed => ⟨fun taken => ?_,
    fun taken => ?_⟩⟩
  · exact Compiled.run_of_admits context (admits_of_conforms compiles free conforms)
  · rintro members rfl mapping ⟨data, attempt⟩ ran
    obtain ⟨admits, rfl⟩ := Compiled.admits_of_run ran
    obtain rfl := Compiled.attempt_of_direct (direct_of_mapping mapping compiles).1 ran
    exact ⟨rfl, fun free => conforms_of_admits mapping compiles free admits⟩
  · exact ⟨taken.conforms, taken.compileNode_eq allowed⟩
  · exact ⟨fun value => taken.conforms_iff, taken.compileNode_eq allowed⟩

/-- A list of addresses and a title that may be absent. -/
theorem run_agrees_unless_misread_gallery :
    let members : Json.Members := [("images", .object [("items", .string "String")]),
      ("title", .object [("type", .string " string ?")])]
    let value : Json := .object [("images", .array [.string "/a.jpg"])]
    ∃ schema, compile (.object members) = .ok schema ∧ IsMapping members ∧
      FreeOf TakenForArray (.object members) ∧ FreeOf TakenForUnknown (.object members) ∧
      Conforms (.object members) value ∧
      ∃ attempt, schema.run value ⟨"Gallery", 0⟩ = .ok ⟨value, attempt⟩ := by
  intro members value
  have compiles : compile (.object members) = .ok ⟨.object [
      ("images", .array (.primitive .string false) false), ("title", .primitive .string true)]
      false, .direct, []⟩ := by
    rfl
  have mapping : IsMapping members := isMapping_iff.2 rfl
  have named {tag : String} (other : sameIgnoringCase
      (trim (splitOptional (trim tag.toList)).1) "array".toList = false) :
      ¬ SpacedMark "array" tag.toList := fun spaced => by
    rw [(names_iff (by simp)).1 (spaced.names (by simp))] at other
    cases other
  have nodes {bad : Json → Prop} (root : ¬ bad (.object members))
      (images : ¬ bad (.object [("items", .string "String")])) (item : ¬ bad (.string "String"))
      (title : ¬ bad (.object [("type", .string " string ?")])) : FreeOf bad (.object members) := by
    refine freeOf_iff.2 ⟨root, fun inner below => ?_⟩
    obtain ⟨entry, declared, rfl⟩ := (below_mapping_iff rfl).1 below
    simp only [members, List.mem_cons, List.not_mem_nil, or_false] at declared
    rcases declared with rfl | rfl
    · refine freeOf_iff.2 ⟨images, fun inner below => ?_⟩
      obtain ⟨found, -⟩ := (below_leaf_iff rfl).1 below
      cases found
      exact freeOf_iff.2 ⟨item, fun inner below => nomatch below⟩
    · refine freeOf_iff.2 ⟨title, fun inner below => ?_⟩
      obtain ⟨found, -⟩ := (below_leaf_iff rfl).1 below
      cases found
  have array : FreeOf TakenForArray (.object members) := by
    refine nodes ?_ ?_ nofun ?_ <;> rintro ⟨tagged, -, marked⟩ <;> cases tagged
    exact not_overmarked (by decide +kernel) marked
  have unknown : FreeOf TakenForUnknown (.object members) := by
    refine nodes ?_ ?_ (fun | .tag spaced => named (by decide +kernel) spaced) ?_ <;>
      rintro (_ | ⟨tagged, -, spaced⟩) <;> cases tagged
    exact named (by decide +kernel) spaced
  obtain ⟨handed, taken, -⟩ := run_agrees_unless_misread compiles value ⟨"Gallery", 0⟩
  have conforms : Conforms (.object members) value :=
    (taken members rfl mapping ⟨value, .direct⟩ rfl).2 unknown
  exact ⟨_, compiles, mapping, array, unknown, conforms, handed array conforms⟩

/-- A number conforms where a tag is wrongly taken for an array, and is refused; and it is accepted
where a tag for an array is wrongly taken for an unknown one. -/
theorem array_tags_misread :
    let marked : Json := .object [("f", longForm "array??")]
    let spaced : Json := .object [("f", .string "array ?")]
    let value : Json := .object [("f", .ofNat 5)]
    (Conforms marked value ∧ ∃ schema, compile marked = .ok schema ∧
      ∃ failure, schema.run value ⟨"Block", 0⟩ = .error failure) ∧
    ¬ Conforms spaced value ∧ ∃ schema, compile spaced = .ok schema ∧
      schema.run value ⟨"Block", 0⟩ = .ok ⟨value, .direct⟩ := by
  intro marked spaced value
  have overmarked : TakenForArray (longForm "array??") :=
    .long rfl rfl ⟨"array".toList, 0, by decide +kernel, by decide +kernel⟩
  have unknown : TakenForUnknown (.string "array ?") :=
    .tag ⟨"array".toList, [' '], by decide +kernel, by simp, by simp [isBlank],
      by decide +kernel⟩
  refine ⟨⟨?_, _, rfl, _, rfl⟩, ?_, _, rfl, rfl⟩
  · refine (conforms_mapping_iff (isMapping_iff.2 rfl)).2 ⟨_, rfl, ?_⟩
    simpa [FieldConforms, Keyed.get?] using overmarked.conforms (.ofNat 5)
  · intro conforms
    obtain ⟨fields, found, conform⟩ := (conforms_mapping_iff (isMapping_iff.2 rfl)).1 conforms
    obtain rfl := Json.object.inj found
    have number : Conforms (.string "array ?") (.ofNat 5) := conform ("f", _) (by simp)
    cases unknown.conforms_iff.1 number

end SiteDesk.Schema
