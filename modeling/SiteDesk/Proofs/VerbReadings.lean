import SiteDesk.Proofs.VerbPhrases

/-!
Which verb the first word of a command is read as. A word is matched under case folding, which takes
a long s for an s, but publishing is told from deleting by ASCII letters. So a word that says to
publish, with a long s in it, is read as a deletion; no other word is read as a verb that it does
not say.
-/
namespace SiteDesk

namespace Text

variable {pattern word : List Char} {c : Char}

theorem not_mem_of_foldsTo (h : foldsTo pattern word = true) (hc : fold c ∉ pattern.map fold) :
    c ∉ word := by
  intro hm
  apply hc
  rw [← of_decide_eq_true h]
  exact List.mem_map_of_mem hm

/-- Against letters, folding does more than ignore the case for two characters alone. -/
theorem sameIgnoringCase_iff_foldsTo (letters : ∀ c ∈ pattern, c.isAlpha = true) :
    sameIgnoringCase word pattern = true ↔
      foldsTo pattern word = true ∧ '\u017F' ∉ word ∧ '\u212A' ∉ word := by
  constructor
  · intro h
    have alpha := isAlpha_of_sameIgnoringCase h letters
    have folds : foldsTo pattern word = true :=
      decide_eq_true (map_fold_of_sameIgnoringCase h letters)
    exact ⟨folds, fun hm => ne_of_test (alpha _ hm) (by decide) rfl,
      fun hm => ne_of_test (alpha _ hm) (by decide) rfl⟩
  · rintro ⟨folds, long, kelvin⟩
    rw [sameIgnoringCase_iff]
    calc word.map Char.toLower = word.map fold :=
          List.map_congr_left fun c hc => (fold_of_ne
            (ne_of_mem_of_not_mem hc long) (ne_of_mem_of_not_mem hc kelvin)).symm
      _ = pattern.map fold := of_decide_eq_true folds
      _ = pattern.map Char.toLower :=
          List.map_congr_left fun c hc => fold_of_isAlpha (letters c hc)

end Text

namespace Command

open Text

variable {word second : List Char} {verb : Verb} {text : String} {descriptor : Descriptor}

theorem letters_words (verb : Verb) : ∀ c ∈ verb.words.1.toList, c.isAlpha = true :=
  List.all_eq_true.1 (by cases verb <;> decide +kernel)

theorem not_mem_kelvin (h : foldsTo verb.words.1.toList word = true) : '\u212A' ∉ word :=
  not_mem_of_foldsTo h (by cases verb <;> decide +kernel)

/-- Of the words that fold to the first of a verb, those for publishing alone may have a long s. -/
theorem not_mem_long_s (h : foldsTo verb.words.1.toList word = true) (hv : verb ≠ .publishPage) :
    '\u017F' ∉ word := by
  apply not_mem_of_foldsTo h
  revert hv
  cases verb <;> decide +kernel

theorem foldsTo_word_iff (h : foldsTo verb.words.1.toList word = true) (other : Verb) :
    foldsTo other.words.1.toList word = true ↔ verb.words.1 = other.words.1 := by
  rw [foldsTo_of_foldsTo h]
  cases verb <;> cases other <;> decide +kernel

theorem sameIgnoringCase_word_iff (h : foldsTo verb.words.1.toList word = true) (other : Verb) :
    sameIgnoringCase word other.words.1.toList = true ↔
      verb.words.1 = other.words.1 ∧ '\u017F' ∉ word := by
  rw [sameIgnoringCase_iff_foldsTo (letters_words other), foldsTo_word_iff h other]
  simp [not_mem_kelvin h]

def Verb.readFrom (word : List Char) : Verb → Verb
  | .publishPage => if '\u017F' ∈ word then .deletePage else .publishPage
  | verb => verb

/-- Two words that match a verb are read as that verb, but for the long s. -/
theorem Verb.Matches.verb?_eq_readFrom (h : verb.Matches word second) :
    verb? word second = some (verb.readFrom word) := by
  obtain ⟨hf, hs⟩ := h
  have same : sameIgnoringCase word "publish".toList = true ↔
      verb.words.1 = "publish" ∧ '\u017F' ∉ word := sameIgnoringCase_word_iff hf .publishPage
  unfold verb?
  rw [foldsTo_of_foldsTo hf, foldsTo_of_foldsTo hf, foldsTo_of_foldsTo hf, foldsTo_of_foldsTo hs,
    foldsTo_of_foldsTo hs]
  cases verb with
  | createPage => rw [if_pos (by decide +kernel)]; rfl
  | publishPage =>
    rw [if_neg (by decide +kernel), if_pos (by decide +kernel)]
    by_cases long : '\u017F' ∈ word
    · rw [if_neg fun h => (same.1 h).2 long, readFrom, if_pos long]
    · rw [if_pos (same.2 ⟨rfl, long⟩), readFrom, if_neg long]
  | deletePage =>
    rw [if_neg (by decide +kernel), if_pos (by decide +kernel),
      if_neg fun h => absurd (same.1 h).1 (by decide)]
    rfl
  | createComponent =>
    rw [if_neg (by decide +kernel), if_neg (by decide +kernel), if_pos (by decide +kernel)]
    rfl

theorem action_readFrom_iff (h : foldsTo verb.words.1.toList word = true) :
    let action := (verb.readFrom word).action
    (action = .publishPage ↔ foldsTo "publish".toList word = true ∧ '\u017F' ∉ word) ∧
    (action = .deletePage ↔ sameIgnoringCase word "delete".toList = true ∨
      foldsTo "publish".toList word = true ∧ '\u017F' ∈ word) ∧
    (action = .createPage ∨ action = .createComponent ↔
      sameIgnoringCase word "create".toList = true) := by
  have publish : foldsTo "publish".toList word = true ↔ verb.words.1 = "publish" :=
    foldsTo_word_iff h .publishPage
  have delete : sameIgnoringCase word "delete".toList = true ↔
      verb.words.1 = "delete" ∧ '\u017F' ∉ word := sameIgnoringCase_word_iff h .deletePage
  have create : sameIgnoringCase word "create".toList = true ↔
      verb.words.1 = "create" ∧ '\u017F' ∉ word := sameIgnoringCase_word_iff h .createPage
  rw [publish, delete, create]
  by_cases long : '\u017F' ∈ word
  · have isPublish : verb = .publishPage := by
      by_contra hv
      exact not_mem_long_s h hv long
    subst isPublish
    simp [Verb.readFrom, Verb.words, Verb.action, long]
  · cases verb <;> simp [Verb.readFrom, Verb.words, Verb.action, long]

/-- An accepted command is carried out under the verb that its first word is read as. -/
theorem exists_verb_of_parse (h : parse text = .ok descriptor) :
    ∃ verb : Verb, foldsTo verb.words.1.toList (firstWord (trim text.toList)).1 = true ∧
      descriptor.action = (verb.readFrom (firstWord (trim text.toList)).1).action := by
  unfold parse verbPhrase? at h
  dsimp only at h
  cases hv : verb? (firstWord (trim text.toList)).1
      (firstWord (trimStart (firstWord (trim text.toList)).2)).1 with
  | none => simp [hv] at h
  | some found =>
    obtain ⟨verb, matched⟩ := exists_matches hv
    obtain rfl := Option.some.inj (matched.verb?_eq_readFrom.symm.trans hv)
    refine ⟨verb, matched.1, ?_⟩
    simp only [hv, Option.map_some] at h
    cases hp : payload (verb.readFrom (firstWord (trim text.toList)).1)
        (trim (firstWord (trimStart (firstWord (trim text.toList)).2)).2) with
    | error e => simp [hp, Except.map] at h
    | ok members =>
      simp only [hp, Except.map, Except.ok.injEq] at h
      rw [← h]

/-- The first word of an accepted command decides whether something is published, deleted or created.
Each word does as it says, except that one that folds to `publish` deletes if it has a long s. -/
theorem verb_told_by_first_word (text : String) (descriptor : Descriptor)
    (h : parse text = .ok descriptor) :
    let word := (firstWord (trim text.toList)).1
    (descriptor.action = .publishPage ↔
      foldsTo "publish".toList word = true ∧ '\u017F' ∉ word) ∧
    (descriptor.action = .deletePage ↔
      sameIgnoringCase word "delete".toList = true ∨
        foldsTo "publish".toList word = true ∧ '\u017F' ∈ word) ∧
    (descriptor.action = .createPage ∨ descriptor.action = .createComponent ↔
      sameIgnoringCase word "create".toList = true) := by
  obtain ⟨verb, folds, action⟩ := exists_verb_of_parse h
  rw [action]
  exact action_readFrom_iff folds

theorem verb_told_by_first_word_capitals :
    let text := "PUBLISH page /a"
    ∃ descriptor, parse text = .ok descriptor ∧ descriptor.action = .publishPage := by
  have parsed : parse "PUBLISH page /a" =
      .ok ⟨.publishPage, [("target", .string "/a")], "PUBLISH page /a"⟩ := by
    rfl
  obtain ⟨publish, -⟩ := verb_told_by_first_word _ _ parsed
  exact ⟨_, parsed, publish.2 ⟨by decide +kernel, by decide +kernel⟩⟩

/-- A command that says to publish, up to folding, is parsed as a deletion. -/
theorem long_s_deletes :
    let text := "publi\u017Fh page /a"
    let word := (firstWord (trim text.toList)).1
    (∃ descriptor, parse text = .ok descriptor ∧ descriptor.action = .deletePage) ∧
      foldsTo "publish".toList word = true ∧ sameIgnoringCase word "delete".toList = false := by
  have parsed : parse "publi\u017Fh page /a" =
      .ok ⟨.deletePage, [("target", .string "/a")], "publi\u017Fh page /a"⟩ := by
    rfl
  exact ⟨⟨_, parsed, rfl⟩, by decide +kernel, by decide +kernel⟩

end Command

end SiteDesk
