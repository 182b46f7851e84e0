import SiteDesk.Proofs.TagReadings

/-!
What promotion does, told without its steps. It takes place exactly if the definition declares the
target field as a text or a list, the props have nothing there, and the legacy field holds a list
or a text that says something. Then the target field gets that list, every other member stays, and
there is nothing left to promote. In all other cases, an unusable legacy value included, the props
stay as they are.
-/
namespace SiteDesk.Schema.Alias

open Text

variable {definition props promoted node value list : Json} {members : Json.Members}
  {items : List Json} {tag : List Char} {error : Unsupported}

/-- A tag for a text or a list: the name of one, in any case of letters, with blanks around it and
one `?` at most. -/
def NamesTextOrList (tag : List Char) : Prop :=
  ∃ name mark, trim tag = name ++ mark ∧ (mark = [] ∨ mark = ['?']) ∧
    (sameIgnoringCase name "string".toList = true ∨ isArrayName name = true)

theorem isTargetTag_iff_names : isTargetTag tag = true ↔ NamesTextOrList tag := by
  constructor
  · intro found
    refine ⟨_, _, eq_splitOptional_append (trim tag), ?_, Bool.or_eq_true_iff.1 found⟩
    split
    · exact .inr rfl
    · exact .inl rfl
  · rintro ⟨name, mark, ht, rfl | rfl, named⟩
    · have clear : '?' ∉ name :=
        mark_not_mem (named.elim (isAlpha_of_named (by simp)) isAlpha_of_isArrayName)
      rw [List.append_nil] at ht
      rw [isTargetTag, ht, splitOptional_of_not_mem clear]
      exact Bool.or_eq_true_iff.2 named
    · rw [isTargetTag, ht, splitOptional_append_mark]
      exact Bool.or_eq_true_iff.2 named

/-- A node, as it is written, that declares a text or a list. -/
inductive DeclaresTextOrList : Json → Prop
  | tag {tag : String} (named : NamesTextOrList tag.toList) : DeclaresTextOrList (.string tag)
  | array (items : List Json) : DeclaresTextOrList (.array items)
  | items {members : Json.Members} {element : Json}
      (elements : Keyed.get? "items" members = some element) : DeclaresTextOrList (.object members)
  | typed {members : Json.Members} {tag : String}
      (typed : Keyed.get? "type" members = some (.string tag))
      (named : NamesTextOrList tag.toList) : DeclaresTextOrList (.object members)

theorem declaresTarget_iff_declares : declaresTarget node = true ↔ DeclaresTextOrList node := by
  constructor
  · intro found
    cases node with
    | string tag => exact .tag (isTargetTag_iff_names.1 found)
    | array items => exact .array items
    | object members =>
      obtain ⟨-, found⟩ := Bool.and_eq_true_iff.1 found
      rcases Bool.or_eq_true_iff.1 found with elements | typed
      · obtain ⟨element, he⟩ := Option.isSome_iff_exists.1 elements
        exact .items he
      · cases ht : Keyed.get? "type" members with
        | none => simp [ht] at typed
        | some declared =>
          cases declared with
          | string tag =>
            exact .typed ht (isTargetTag_iff_names.1 (by simpa [ht, Json.asString?] using typed))
          | _ => simp [ht, Json.asString?] at typed
    | _ => simp [declaresTarget] at found
  · intro declares
    cases declares with
    | tag named => exact isTargetTag_iff_names.2 named
    | array items => rfl
    | items elements => simp [declaresTarget, isLeaf, Keyed.contains, elements]
    | typed typed named =>
      simp [declaresTarget, isLeaf, typed, Json.asString?, isTargetTag_iff_names.2 named]

theorem isDeclared_iff :
    isDeclared definition = true ↔ ∃ fields node, definition = .object fields ∧
      Keyed.get? targetField fields = some node ∧ DeclaresTextOrList node := by
  constructor
  · intro declared
    cases definition with
    | object fields =>
      cases hn : Keyed.get? targetField fields with
      | none => simp [isDeclared, hn] at declared
      | some node =>
        refine ⟨fields, node, rfl, hn, declaresTarget_iff_declares.1 ?_⟩
        simpa [isDeclared, hn] using declared
    | _ => simp [isDeclared, Json.member?] at declared
  · rintro ⟨fields, node, rfl, hn, declares⟩
    simpa [isDeclared, hn] using declaresTarget_iff_declares.2 declares

theorem isVacant_iff {name : String} :
    isVacant name members = true ↔
      Keyed.get? name members = none ∨ Keyed.get? name members = some .null := by
  unfold isVacant
  cases Keyed.get? name members with
  | none => simp
  | some value => cases value <;> simp [Json.isNull]

/-- The list that a legacy value stands for: a list for itself, a text that is not empty for the
list of it alone. -/
inductive StandsFor : Json → List Json → Prop
  | list (items : List Json) : StandsFor (.array items) items
  | text {text : String} (filled : text ≠ "") : StandsFor (.string text) [.string text]

@[simp] theorem promotedValue_text {text : String} (filled : text ≠ "") :
    promotedValue (.string text) = .ok (some (.array [.string text])) := by
  unfold promotedValue
  split <;> simp_all

theorem promotedValue_eq_some_iff :
    promotedValue value = .ok (some list) ↔
      ∃ items, StandsFor value items ∧ list = .array items := by
  constructor
  · intro h
    cases value with
    | string text =>
      by_cases empty : text = ""
      · simp [promotedValue, empty] at h
      · rw [promotedValue_text empty] at h
        cases h
        exact ⟨_, .text empty, rfl⟩
    | array items =>
      cases h
      exact ⟨_, .list items, rfl⟩
    | _ => simp [promotedValue] at h
  · rintro ⟨items, stands, rfl⟩
    cases stands with
    | list => rfl
    | text filled => exact promotedValue_text filled

/-- A legacy value is unusable if it is none of null, a text and a list. -/
theorem promotedValue_eq_error_iff :
    promotedValue value = .error error ↔
      error = ⟨value.kind⟩ ∧ value.kind ∈ [Json.Kind.boolean, .number, .object] := by
  cases value with
  | string text =>
    by_cases empty : text = ""
    · simp [promotedValue, empty, Json.kind]
    · simp [promotedValue_text empty, Json.kind]
  | _ => simp [promotedValue, Json.kind, eq_comm]

/-- The target field is declared and there is nothing in it yet. -/
structure Awaits (definition : Json) (members : Json.Members) : Prop where
  declared : ∃ fields node, definition = .object fields ∧
    Keyed.get? targetField fields = some node ∧ DeclaresTextOrList node
  vacant : Keyed.get? targetField members = none ∨ Keyed.get? targetField members = some .null

theorem awaits_iff :
    (isDeclared definition && isVacant targetField members) = true ↔ Awaits definition members := by
  rw [Bool.and_eq_true, isDeclared_iff, isVacant_iff]
  exact ⟨fun ⟨declared, vacant⟩ => ⟨declared, vacant⟩, fun h => ⟨h.declared, h.vacant⟩⟩

/-- The target field awaits a list and the legacy field has this one for it. -/
structure Promotes (definition : Json) (members : Json.Members) (items : List Json) : Prop
    extends Awaits definition members where
  legacy : ∃ value, Keyed.get? sourceField members = some value ∧ StandsFor value items

theorem promote_of_awaits (awaits : Awaits definition members) :
    promote definition (.object members) =
      (promotedValue ((Keyed.get? sourceField members).getD .null)).map
        (Option.map fun list => .object (Keyed.set targetField list members)) := by
  simp only [promote, awaits_iff.2 awaits, if_true]
  cases promotedValue ((Keyed.get? sourceField members).getD .null) with
  | error e => rfl
  | ok found => cases found <;> rfl

theorem promote_of_not_awaits (settled : ¬ Awaits definition members) :
    promote definition (.object members) = .ok none := by
  rw [promote, if_neg (awaits_iff.not.2 settled)]

theorem promote_eq_some_iff :
    promote definition props = .ok (some promoted) ↔
      ∃ members items, props = .object members ∧ Promotes definition members items ∧
        promoted = .object (Keyed.set targetField (.array items) members) := by
  constructor
  · intro h
    cases props with
    | object members =>
      by_cases awaits : Awaits definition members
      · rw [promote_of_awaits awaits] at h
        cases hv : promotedValue ((Keyed.get? sourceField members).getD .null) with
        | error e => simp [hv, Except.map] at h
        | ok found =>
          cases found with
          | none => simp [hv, Except.map] at h
          | some list =>
            obtain ⟨items, stands, rfl⟩ := promotedValue_eq_some_iff.1 hv
            rw [hv] at h
            cases h
            refine ⟨members, items, rfl, ⟨awaits, ?_⟩, rfl⟩
            cases legacy : Keyed.get? sourceField members with
            | none => simp [legacy, promotedValue] at hv
            | some value => exact ⟨value, rfl, by simpa [legacy] using stands⟩
      · rw [promote_of_not_awaits awaits] at h
        cases h
    | _ => simp [promote] at h
  · rintro ⟨members, items, rfl, ⟨awaits, value, legacy, stands⟩, rfl⟩
    rw [promote_of_awaits awaits, legacy, Option.getD_some,
      promotedValue_eq_some_iff.2 ⟨items, stands, rfl⟩]
    rfl

/-- Promotion fails exactly for a legacy value that would be promoted were it a text or a list. -/
theorem promote_eq_error_iff :
    promote definition props = .error error ↔
      ∃ members value, props = .object members ∧ Awaits definition members ∧
        Keyed.get? sourceField members = some value ∧ promotedValue value = .error error := by
  constructor
  · intro h
    cases props with
    | object members =>
      by_cases awaits : Awaits definition members
      · rw [promote_of_awaits awaits] at h
        cases legacy : Keyed.get? sourceField members with
        | none => simp [legacy, promotedValue, Except.map] at h
        | some value =>
          refine ⟨members, value, rfl, awaits, legacy, ?_⟩
          cases hv : promotedValue value with
          | error e => simpa [legacy, hv, Except.map] using h
          | ok found => simp [legacy, hv, Except.map] at h
      · rw [promote_of_not_awaits awaits] at h
        cases h
    | _ => simp [promote] at h
  · rintro ⟨members, value, rfl, awaits, legacy, hv⟩
    rw [promote_of_awaits awaits, legacy, Option.getD_some, hv]
    rfl

theorem not_awaits_promoted :
    ¬ Awaits definition (Keyed.set targetField (.array items) members) := by
  rintro ⟨-, vacant⟩
  simp at vacant

theorem normalize_of_promotes (promotes : Promotes definition members items) :
    normalize definition (.object members) =
      .object (Keyed.set targetField (.array items) members) := by
  rw [normalize, promote_eq_some_iff.2 ⟨members, items, rfl, promotes, rfl⟩]

/-- Props are promoted exactly if the target field awaits a list and the legacy field has one for
it. Then that list is put in the target field, all other members stay, and a second promotion finds
nothing to do. Otherwise, an unusable legacy value included, the props are left alone. -/
theorem promotion_framed (definition props : Json) :
    (∀ promoted, promote definition props = .ok (some promoted) ↔
      ∃ members items, props = .object members ∧ Promotes definition members items ∧
        promoted = .object (Keyed.set targetField (.array items) members)) ∧
    (∀ error, promote definition props = .error error ↔
      ∃ members value, props = .object members ∧ Awaits definition members ∧
        Keyed.get? sourceField members = some value ∧
        value.kind ∈ [Json.Kind.boolean, .number, .object] ∧ error = ⟨value.kind⟩) ∧
    (∀ members items, props = .object members → Promotes definition members items →
      ∃ kept, normalize definition props = .object kept ∧
        Keyed.get? targetField kept = some (.array items) ∧
        (∀ name, name ≠ targetField → Keyed.get? name kept = Keyed.get? name members) ∧
        (Keyed.Ascending members → Keyed.Ascending kept) ∧
        promote definition (.object kept) = .ok none ∧
        normalize definition (.object kept) = .object kept) ∧
    ((∀ promoted, promote definition props ≠ .ok (some promoted)) →
      normalize definition props = props) := by
  refine ⟨fun promoted => promote_eq_some_iff, fun error => ?_, ?_, ?_⟩
  · rw [promote_eq_error_iff]
    simp only [promotedValue_eq_error_iff, and_comm]
  · rintro members items rfl promotes
    have settled : ¬ Awaits definition (Keyed.set targetField (.array items) members) :=
      not_awaits_promoted
    have again := promote_of_not_awaits settled
    refine ⟨_, normalize_of_promotes promotes, Keyed.get?_set_self _ _ _, ?_, ?_, again, ?_⟩
    · intro name other
      exact Keyed.get?_set_of_ne other _ _
    · exact fun ascending => ascending.set
    · rw [normalize, again]
  · intro unpromoted
    unfold normalize
    split
    · next promoted h => exact absurd h (unpromoted promoted)
    · rfl

/-- A null in the target field makes way for the list, and the legacy text stays beside it. -/
theorem promotion_framed_over_null :
    let definition := Json.object [("images", .string " String? ")]
    let members : Json.Members := [("backgroundImage", .string "/a.jpg"), ("images", .null)]
    Promotes definition members [.string "/a.jpg"] ∧
      ∃ kept, normalize definition (.object members) = .object kept ∧
        Keyed.get? "images" kept = some (.array [.string "/a.jpg"]) ∧
        Keyed.get? "backgroundImage" kept = some (.string "/a.jpg") ∧
        normalize definition (.object kept) = .object kept := by
  intro definition members
  have promotes : Promotes definition members [.string "/a.jpg"] := by
    refine ⟨⟨⟨_, _, rfl, rfl, .tag ?_⟩, .inr rfl⟩, _, rfl, .text (by decide)⟩
    exact isTargetTag_iff_names.1 (by decide +kernel)
  obtain ⟨-, -, framed, -⟩ := promotion_framed definition (.object members)
  obtain ⟨kept, hk, target, others, -, -, again⟩ := framed members _ rfl promotes
  refine ⟨promotes, kept, hk, target, ?_, again⟩
  rw [others "backgroundImage" (by decide)]
  rfl

end SiteDesk.Schema.Alias
