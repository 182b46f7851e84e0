import SiteDesk.Proofs.ParseDecision

/-!
The payloads that come of parsing, seen from the plans that carry them out: the target is there as a
text that is trimmed already, a layout is an array, and a schema is an object.
-/
namespace SiteDesk.Command

open Text

variable {text : String} {descriptor : Descriptor} {verb : Verb} {json : Option (List Char)}

def targetOf? (text : String) : Option String :=
  (verbPhrase? text.toList).bind fun (verb, body) =>
    (target? (verb.parts body).1).map fun (target, _) => String.ofList target

theorem isWord_of_target? {head word options : List Char}
    (h : target? head = some (word, options)) : IsWord word := by
  unfold target? at h
  dsimp only at h
  split at h
  · cases h
  · next target =>
    rw [Option.some.injEq] at h
    obtain rfl : (firstWord (trimStart head)).1 = word := congrArg Prod.fst h
    refine isWord_firstWord fun empty => target ?_
    rw [empty]
    rfl

theorem Verb.takes_of_read {value : Json} (h : verb.read json = .ok (some value)) :
    ∃ argument, verb.argument? = some argument ∧ argument.Takes value := by
  unfold read at h
  cases ha : verb.argument? with
  | none => simp [ha] at h
  | some argument =>
    cases json with
    | none => simp [ha, readArgument?] at h
    | some given =>
      cases hr : readArgument argument given with
      | error error => simp [ha, readArgument?, hr, Except.map] at h
      | ok found =>
        simp only [ha, readArgument?, hr, Except.map, Except.ok.injEq, Option.some.injEq] at h
        rw [h] at hr
        obtain ⟨-, -, -, takes⟩ := readArgument_eq_ok_iff.1 hr
        exact ⟨argument, rfl, takes⟩

/-- A payload that the plan of its action can work with, about a target. -/
def Descriptor.Workable (target : String) (descriptor : Descriptor) : Prop :=
  match descriptor.action with
  | .createPage => Keyed.get? "path" descriptor.payload = some (.string target) ∧
      ∃ raws, layout? descriptor.payload = some raws
  | .publishPage | .deletePage => Keyed.get? "target" descriptor.payload = some (.string target)
  | .createComponent => Keyed.get? "type" descriptor.payload = some (.string target) ∧
      ∀ schema, Keyed.get? "propsSchema" descriptor.payload = some schema →
        ∃ members, schema = .object members
  | .listContacts | .markContactRead => False

theorem get?_optionalMember_append {name other : String} (h : name ≠ other) (value : Option Json)
    (rest : Json.Members) :
    Keyed.get? other (optionalMember name value ++ rest) = Keyed.get? other rest := by
  cases value with
  | none => rfl
  | some value => exact if_neg h

theorem workable_members {value : Option Json} (h : verb.read json = .ok value)
    (word options : List Char) (raw : String) :
    (⟨verb.action, verb.members word options value, raw⟩ : Descriptor).Workable
      (String.ofList word) := by
  cases verb with
  | publishPage => simp [Descriptor.Workable, Verb.action, Verb.members, textValue, Keyed.get?]
  | deletePage => simp [Descriptor.Workable, Verb.action, Verb.members, textValue, Keyed.get?]
  | createPage =>
    refine ⟨by simp [Verb.members, textValue, Keyed.get?], ?_⟩
    cases value with
    | none => exact ⟨[], rfl⟩
    | some value =>
      obtain ⟨argument, ha, takes⟩ := Verb.takes_of_read h
      obtain rfl : .components = argument := Option.some.inj ha
      obtain ⟨items, rfl⟩ := takes
      exact ⟨items, rfl⟩
  | createComponent =>
    refine ⟨?_, ?_⟩
    · simp only [Verb.members, List.append_assoc]
      rw [get?_optionalMember_append (by decide), get?_optionalMember_append (by decide)]
      rfl
    · intro schema hs
      simp only [Verb.members, List.append_assoc] at hs
      rw [get?_optionalMember_append (by decide)] at hs
      cases value with
      | none => cases hs
      | some value =>
        obtain ⟨argument, ha, takes⟩ := Verb.takes_of_read h
        obtain rfl : .propsSchema = argument := Option.some.inj ha
        obtain rfl : value = schema := Option.some.inj hs
        exact takes

/-- What parsing gives can be worked with, about the target that it finds. -/
theorem workable_of_parse (parsed : parse text = .ok descriptor) :
    ∃ target, targetOf? text = some target ∧ Trimmed target.toList ∧
      descriptor.Workable target := by
  unfold parse at parsed
  unfold targetOf?
  cases hv : verbPhrase? text.toList with
  | none => simp [hv] at parsed
  | some phrase =>
    obtain ⟨verb, body⟩ := phrase
    cases ht : target? (verb.parts body).1 with
    | none => simp [hv, payload_eq, ht, Except.map] at parsed
    | some found =>
      obtain ⟨word, options⟩ := found
      cases hr : verb.read (verb.parts body).2 with
      | error error => simp [hv, payload_eq, ht, hr, Except.map] at parsed
      | ok value =>
        simp only [hv, payload_eq, ht, hr, Except.map, Except.ok.injEq] at parsed
        subst parsed
        have isWord := isWord_of_target? ht
        refine ⟨String.ofList word, by simp [ht], ?_, workable_members hr word options text⟩
        rw [String.toList_ofList]
        exact trimmed_of_word isWord.nonempty isWord.unbroken

end SiteDesk.Command
