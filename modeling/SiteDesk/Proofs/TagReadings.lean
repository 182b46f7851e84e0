import SiteDesk.Proofs.VerbPhrases
import SiteDesk.Proofs.CompiledNodes
import SiteDesk.Schema.Alias

/-!
A tag is read in three places: where it stands alone, where it stands under `type`, and where
promotion looks for the target field. All three trim it and leave out the case of letters, and they
differ in the end of the tag alone. Under `type` any number of `?` is dropped from the name of an
array, elsewhere only one; and a leaf forgives blanks before the `?`, while promotion does not. So
promotion finds what the compiler makes of the target field, but for these two kinds of tags.
-/
namespace SiteDesk.Schema

open Text

variable {tag name : List Char} {type : String} {count : Nat}

/-- A tag for an array with more than one `?` at its end. -/
def Overmarked (tag : List Char) : Prop :=
  ∃ name count, trim tag = name ++ List.replicate (count + 2) '?' ∧ isArrayName name = true

/-- A tag for a type with blanks before the `?` at its end. -/
def SpacedMark (type : String) (tag : List Char) : Prop :=
  ∃ name blanks, trim tag = name ++ (blanks ++ ['?']) ∧ blanks ≠ [] ∧
    (∀ c ∈ blanks, isBlank c = true) ∧ sameIgnoringCase name type.toList = true

def Spaced (tag : List Char) : Prop := SpacedMark "string" tag

def typeNames : List String := ["string", "number", "boolean", "any", "array"]

@[simp] theorem mem_typeNames :
    type ∈ typeNames ↔ type = "string" ∨ type = "number" ∨ type = "boolean" ∨ type = "any" ∨
      type = "array" := by
  simp [typeNames]

theorem letters_of_mem_typeNames (h : type ∈ typeNames) :
    type.toList ≠ [] ∧ ∀ c ∈ type.toList, c.isAlpha = true := by
  rw [← List.all_eq_true]
  rcases mem_typeNames.1 h with rfl | rfl | rfl | rfl | rfl <;> exact ⟨by simp, by decide +kernel⟩

theorem isAlpha_of_named (h : type ∈ typeNames)
    (named : sameIgnoringCase name type.toList = true) : ∀ c ∈ name, c.isAlpha = true :=
  isAlpha_of_sameIgnoringCase named (letters_of_mem_typeNames h).2

theorem isAlpha_of_isArrayName (h : isArrayName name = true) : ∀ c ∈ name, c.isAlpha = true :=
  isAlpha_of_named (by simp) h

theorem mark_not_mem (h : ∀ c ∈ name, c.isAlpha = true) : '?' ∉ name :=
  fun hm => absurd (h _ hm) (by decide)

@[simp] theorem splitOptional_append_mark (name : List Char) :
    splitOptional (name ++ ['?']) = (name, true) := by
  simp [splitOptional]

@[simp] theorem splitOptional_of_not_mem (h : '?' ∉ tag) : splitOptional tag = (tag, false) := by
  unfold splitOptional
  rw [if_neg fun last => h (List.mem_of_getLast? last)]

theorem eq_splitOptional_append (tag : List Char) :
    tag = (splitOptional tag).1 ++ if (splitOptional tag).2 then ['?'] else [] := by
  unfold splitOptional
  split
  · next last => exact (List.dropLast_append_getLast? _ last).symm
  · simp

theorem exists_dropMarks (tag : List Char) :
    ∃ count, tag = dropMarks tag ++ List.replicate count '?' := by
  refine ⟨(tag.rtakeWhile (· = '?')).length, ?_⟩
  have marks : tag.rtakeWhile (· = '?') =
      List.replicate (tag.rtakeWhile (· = '?')).length '?' :=
    List.eq_replicate_iff.2 ⟨rfl, fun c hc => by simpa using List.mem_rtakeWhile_imp hc⟩
  rw [← marks]
  exact List.rdropWhile_append_rtakeWhile.symm

theorem dropMarks_append (h : '?' ∉ name) (count : Nat) :
    dropMarks (name ++ List.replicate count '?') = name := by
  change (name ++ List.replicate count '?').rdropWhile (· = '?') = name
  induction count with
  | zero =>
    rw [List.replicate_zero, List.append_nil, List.rdropWhile_eq_self_iff]
    intro hne last
    exact h (of_decide_eq_true last ▸ List.getLast_mem hne)
  | succ count ih =>
    rw [List.replicate_succ', ← List.append_assoc, List.rdropWhile_concat_pos _ _ _ (by simp), ih]

/-- Without any of its marks a tag names an array if it does so without one of them, or if it is
marked more than once. -/
theorem isArrayName_dropMarks_iff :
    isArrayName (dropMarks (trim tag)) = true ↔
      isArrayName (splitOptional (trim tag)).1 = true ∨ Overmarked tag := by
  constructor
  · intro names
    have clear := mark_not_mem (isAlpha_of_isArrayName names)
    obtain ⟨count, ht⟩ := exists_dropMarks (trim tag)
    match count with
    | 0 =>
      rw [List.replicate_zero, List.append_nil] at ht
      rw [← ht] at names clear
      exact .inl (by rwa [splitOptional_of_not_mem clear])
    | 1 =>
      refine .inl ?_
      rw [ht, List.replicate_one, splitOptional_append_mark]
      exact names
    | count + 2 => exact .inr ⟨_, count, ht, names⟩
  · rintro (names | ⟨name, count, ht, names⟩)
    · have clear := mark_not_mem (isAlpha_of_isArrayName names)
      rw [eq_splitOptional_append (trim tag)]
      split
      · rwa [← List.replicate_one, dropMarks_append clear]
      · rwa [← List.replicate_zero, dropMarks_append clear]
    · rwa [ht, dropMarks_append (mark_not_mem (isAlpha_of_isArrayName names))]

theorem not_overmarked (other : isArrayName (dropMarks (trim tag)) = false) :
    ¬ Overmarked tag := fun overmarked => by
  rw [isArrayName_dropMarks_iff.2 (.inr overmarked)] at other
  cases other

theorem Overmarked.not_letters (h : Overmarked tag) :
    ¬ ∀ c ∈ (splitOptional (trim tag)).1, c.isAlpha = true := by
  obtain ⟨name, count, ht, -⟩ := h
  rw [ht, List.replicate_succ', ← List.append_assoc, splitOptional_append_mark]
  exact fun letters => mark_not_mem letters (by simp)

theorem trimmed_of_named (h : type ∈ typeNames)
    (named : sameIgnoringCase name type.toList = true) : Trimmed name := by
  refine trimmed_of_word ?_ fun c hc => isBlank_of_isAlpha (isAlpha_of_named h named c hc)
  rintro rfl
  exact (letters_of_mem_typeNames h).1 (by simpa [sameIgnoringCase] using named)

/-- The name of a trimmed tag starts as the tag does, so only blanks before a mark can be trimmed
off it. -/
theorem eq_trim_append (hne : (splitOptional (trim tag)).1 ≠ []) :
    ∃ blanks, (∀ c ∈ blanks, isBlank c = true) ∧
      (splitOptional (trim tag)).1 = trim (splitOptional (trim tag)).1 ++ blanks ∧
      (blanks ≠ [] → trim tag = (splitOptional (trim tag)).1 ++ ['?']) := by
  have split := eq_splitOptional_append (trim tag)
  set name := (splitOptional (trim tag)).1 with hname
  have filled : trim tag ≠ [] := by
    rw [split]
    exact List.append_ne_nil_of_left_ne_nil hne _
  have starts : Starts name := by
    obtain ⟨c, hc, clear⟩ := starts_trim filled
    refine ⟨c, ?_, clear⟩
    rw [split, List.head?_append_of_ne_nil _ hne] at hc
    exact hc
  obtain ⟨blanks, hb, hn⟩ := exists_trimEnd name
  refine ⟨blanks, hb, ?_, ?_⟩
  · rw [trim, trimStart_of_starts starts]
    exact hn
  · intro some
    cases marked : (splitOptional (trim tag)).2 with
    | true => rwa [marked, if_pos rfl] at split
    | false =>
      rw [marked, if_neg Bool.false_ne_true, List.append_nil] at split
      have kept : trimEnd name = name := by
        rw [← split]
        exact trimEnd_of_ends (ends_trim filled)
      rw [kept] at hn
      exact absurd (List.self_eq_append_right.1 hn) some

/-- A name is that of a type without its blanks exactly if it is so with them, or if the blanks
stand before a mark. -/
theorem named_trim_iff (h : type ∈ typeNames) :
    sameIgnoringCase (trim (splitOptional (trim tag)).1) type.toList = true ↔
      sameIgnoringCase (splitOptional (trim tag)).1 type.toList = true ∨ SpacedMark type tag := by
  constructor
  · intro named
    have hne : (splitOptional (trim tag)).1 ≠ [] := by
      intro empty
      rw [empty] at named
      exact (trimmed_of_named h named).nonempty rfl
    obtain ⟨blanks, hb, hn, marked⟩ := eq_trim_append hne
    by_cases some : blanks = []
    · rw [some, List.append_nil] at hn
      rw [← hn] at named
      exact .inl named
    · refine .inr ⟨_, blanks, ?_, some, hb, named⟩
      rw [← List.append_assoc, ← hn]
      exact marked some
  · rintro (named | ⟨name, blanks, ht, -, hb, named⟩)
    · rwa [(trimmed_of_named h named).trim_eq]
    · rw [ht, ← List.append_assoc, splitOptional_append_mark, trim_append_blanks hb,
        (trimmed_of_named h named).trim_eq]
      exact named

theorem SpacedMark.not_letters (h : SpacedMark type tag) :
    ¬ ∀ c ∈ (splitOptional (trim tag)).1, c.isAlpha = true := by
  obtain ⟨name, blanks, ht, some, hb, -⟩ := h
  rw [ht, ← List.append_assoc, splitOptional_append_mark]
  intro letters
  obtain ⟨c, hc⟩ := List.exists_mem_of_ne_nil _ some
  have clear := isBlank_of_isAlpha (letters c (List.mem_append_right _ hc))
  rw [hb c hc] at clear
  cases clear

def Validator.isTextOrList : Validator → Bool
  | .primitive .string _ | .array _ _ => true
  | _ => false

theorem isTextOrList_tagNode_iff (tag : List Char) (optional : Bool) (path : List String) :
    (tagNode tag optional path).1.isTextOrList = true ↔
      isArrayName (splitOptional (trim tag)).1 = true ∨
        sameIgnoringCase (trim (splitOptional (trim tag)).1) "string".toList = true := by
  unfold tagNode
  dsimp only
  cases array : isArrayName (splitOptional (trim tag)).1 with
  | true => simp [Validator.isTextOrList]
  | false =>
    rw [if_neg Bool.false_ne_true, leafNode_fst]
    unfold Primitive.ofTag
    dsimp only
    cases string : sameIgnoringCase (trim (splitOptional (trim tag)).1) "string".toList with
    | true => simp [Validator.isTextOrList]
    | false =>
      rw [if_neg Bool.false_ne_true]
      repeat' split
      all_goals simp [Validator.isTextOrList]

namespace Alias

variable {node : Json} {members : Json.Members} {level : Nat} {path : List String}
  {compiled : Node}

theorem letters_of_isTargetTag (h : isTargetTag tag = true) :
    ∀ c ∈ (splitOptional (trim tag)).1, c.isAlpha = true := by
  rcases Bool.or_eq_true_iff.1 h with string | array
  · exact isAlpha_of_named (by simp) string
  · exact isAlpha_of_isArrayName array

/-- A tag that stands alone, or makes no array under `type`, is found exactly if it compiles to a
string or an array, except for a string with blanks before the mark. -/
theorem isTargetTag_iff (optional : Bool) :
    isTargetTag tag = true ↔
      (tagNode tag optional path).1.isTextOrList = true ∧ ¬ Spaced tag := by
  rw [isTextOrList_tagNode_iff, named_trim_iff (by simp)]
  constructor
  · intro found
    have clear : ¬ Spaced tag :=
      fun spaced => SpacedMark.not_letters spaced (letters_of_isTargetTag found)
    exact ⟨(Bool.or_eq_true_iff.1 found).symm.imp_right .inl, clear⟩
  · rintro ⟨array | string | spaced, clear⟩
    · exact Bool.or_eq_true_iff.2 (.inr array)
    · exact Bool.or_eq_true_iff.2 (.inl string)
    · exact absurd spaced clear

/-- A tag that makes an array under `type` is found unless it is marked more than once. -/
theorem isTargetTag_iff_of_array (array : isArrayName (dropMarks (trim tag)) = true) :
    isTargetTag tag = true ↔ ¬ (Spaced tag ∨ Overmarked tag) := by
  constructor
  · rintro found (spaced | overmarked)
    · exact SpacedMark.not_letters spaced (letters_of_isTargetTag found)
    · exact overmarked.not_letters (letters_of_isTargetTag found)
  · intro clear
    rcases isArrayName_dropMarks_iff.1 array with array | overmarked
    · exact Bool.or_eq_true_iff.2 (.inr array)
    · exact absurd (.inr overmarked) clear

/-- The nodes that promotion misses: a tag for a string with blanks before the `?`, wherever it
stands, and under `type` a tag for an array with more than one `?`. -/
def Misses : Json → Prop
  | .string tag => Spaced tag.toList
  | .object members =>
    Keyed.contains "items" members = false ∧
      (Spaced (declaredTag members) ∨ Overmarked (declaredTag members))
  | _ => False

theorem declaresTarget_object (members : Json.Members) :
    declaresTarget (.object members) =
      (isLeaf members &&
        (Keyed.contains "items" members || isTargetTag (declaredTag members))) := by
  simp only [declaresTarget, declaredTag]
  cases (Keyed.get? "type" members).bind Json.asString? with
  | none =>
    have empty : isTargetTag [] = false := by decide +kernel
    simp [empty]
  | some tag => rfl

/-- Promotion finds a node exactly if it compiles to a string or an array and is none of those that
it misses. -/
theorem declaresTarget_iff (h : compileNode node level path = .ok compiled)
    (hk : node.kind ≠ .array) :
    declaresTarget node = true ↔ compiled.1.isTextOrList = true ∧ ¬ Misses node := by
  have allowed := allowed_of_compileNode h
  cases node with
  | array items => exact absurd rfl hk
  | string tag =>
    rw [compileNode_string allowed] at h
    cases h
    exact isTargetTag_iff false
  | object members =>
    rw [declaresTarget_object, Misses]
    cases leaf : isLeaf members with
    | false =>
      obtain ⟨found, -, rfl⟩ := mapping_of_compileNode h leaf
      simp [Validator.isTextOrList]
    | true =>
      cases array : declaresArray members with
      | false =>
        obtain ⟨items, noArray⟩ := Bool.or_eq_false_iff.1 array
        have once := not_overmarked noArray
        rw [compileNode_long allowed leaf array] at h
        cases h
        simp only [items, Bool.true_and, Bool.false_or, true_and, once, or_false]
        exact isTargetTag_iff _
      | true =>
        obtain ⟨element, -, rfl⟩ := list_of_compileNode h leaf array
        cases items : Keyed.contains "items" members with
        | true => simp [Validator.isTextOrList]
        | false =>
          have named : isArrayName (dropMarks (trim (declaredTag members))) = true := by
            simpa [declaresArray, items] using array
          simpa [Validator.isTextOrList] using isTargetTag_iff_of_array named
  | null =>
    rw [compileNode_null allowed] at h
    cases h
    simp [declaresTarget, Validator.isTextOrList, Validator.any]
  | _ =>
    rw [compileNode_stray allowed path (by simp [Json.kind])] at h
    cases h
    simp [declaresTarget, Validator.isTextOrList, strayNode, leafNode]

/-- A legacy text is promoted, where there is no list yet, exactly if the target is found. -/
theorem exists_promoted_iff {text : String}
    (declared : Keyed.get? targetField members = some node) (filled : text ≠ "") :
    (∃ promoted, promote (.object members) (.object [(sourceField, .string text)]) =
        .ok (some promoted)) ↔ declaresTarget node = true := by
  have vacant : isVacant targetField [(sourceField, Json.string text)] = true := by
    simp [isVacant, Keyed.get?, sourceField, targetField]
  have value : promotedValue (.string text) = .ok (some (.array [.string text])) := by
    unfold promotedValue
    split <;> simp_all
  cases found : declaresTarget node <;>
    simp [promote, isDeclared, declared, found, vacant, Keyed.get?, value]

/-- In a definition that declares fields, a legacy text is promoted exactly if the target field
compiles to a string or an array, except for the two spellings that promotion misses. -/
theorem promoted_iff_text_or_list (members : Json.Members) (schema : Compiled) (node : Json)
    (text : String) (mapping : isLeaf members = false)
    (compiled : compile (.object members) = .ok schema)
    (declared : Keyed.get? targetField members = some node) (hk : node.kind ≠ .array)
    (filled : text ≠ "") :
    ∃ fields field, schema.validator = .object fields false ∧
      Keyed.get? targetField fields = some field ∧
      ((∃ promoted, promote (.object members) (.object [(sourceField, .string text)]) =
          .ok (some promoted)) ↔
        field.isTextOrList = true ∧ ¬ Misses node) := by
  obtain ⟨-, root, hn, rfl⟩ := compile_eq_ok_iff.1 compiled
  obtain ⟨found, hf, rfl⟩ := mapping_of_compileNode hn mapping
  obtain ⟨field, hc, hg⟩ := get?_of_compileFields hf declared
  refine ⟨found.1, field.1, rfl, hg, ?_⟩
  rw [exists_promoted_iff declared filled]
  exact declaresTarget_iff hc hk

theorem promoted_iff_text_or_list_gallery :
    let members : Json.Members := [("images", .object [("type", .string " Array? ")])]
    isLeaf members = false ∧ (∃ schema, compile (.object members) = .ok schema) ∧
      ∃ promoted, promote (.object members) (.object [("backgroundImage", .string "x")]) =
        .ok (some promoted) := by
  intro members
  have compiled : compile (.object members) =
      .ok ⟨.object [("images", .array .any true)] false, .direct, []⟩ := by
    rfl
  obtain ⟨fields, field, hv, hg, iff⟩ :=
    promoted_iff_text_or_list members _ (.object [("type", .string " Array? ")]) "x" rfl compiled
      rfl (by simp [Json.kind]) (by simp)
  refine ⟨rfl, ⟨_, compiled⟩, iff.2 ⟨?_, ?_⟩⟩
  · obtain rfl : [("images", Validator.array .any true)] = fields := by simpa using hv
    obtain rfl : Validator.array .any true = field := by simpa [Keyed.get?, targetField] using hg
    rfl
  · have found : isTargetTag (declaredTag [("type", .string " Array? ")]) = true := by rfl
    rintro ⟨-, spaced | overmarked⟩
    · exact SpacedMark.not_letters spaced (letters_of_isTargetTag found)
    · exact overmarked.not_letters (letters_of_isTargetTag found)

/-- Two target fields that promotion misses: one compiles to a string, the other to an array. -/
theorem text_and_list_missed :
    compile (.object [("images", .string "string ?")]) =
        .ok ⟨.object [("images", .primitive .string true)] false, .direct, []⟩ ∧
      promote (.object [("images", .string "string ?")])
        (.object [("backgroundImage", .string "x")]) = .ok none ∧
      compile (.object [("images", .object [("type", .string "array??")])]) =
        .ok ⟨.object [("images", .array .any true)] false, .direct, []⟩ ∧
      promote (.object [("images", .object [("type", .string "array??")])])
        (.object [("backgroundImage", .string "x")]) = .ok none :=
  ⟨rfl, rfl, rfl, rfl⟩

end Alias

end SiteDesk.Schema
