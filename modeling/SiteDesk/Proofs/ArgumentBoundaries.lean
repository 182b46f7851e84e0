import SiteDesk.Proofs.VerbPhrases

/-!
Where the parts of a command's arguments end. The JSON argument starts at the first place where its
key stands outside quotes and not inside a word. A text has no target if it is blank or if its first
word starts in the way of an argument, with letters and an equals sign.
-/
namespace SiteDesk.Command

open Text

variable {key text before after rest word : List Char} {quote prev : Option Char} {c : Char}

def quoteOver : Option Char → Option Char → List Char → Option Char
  | quote, _, [] => quote
  | quote, prev, c :: rest => quoteOver (quoteAfter quote prev c) (some c) rest

/-- A key stands between two parts of a text, in any case, outside quotes and where a key may
start. -/
structure KeyBetween (key : List Char) (quote prev : Option Char)
    (text before after : List Char) : Prop where
  unquoted : quoteOver quote prev before = none
  boundary : mayStartKey (before.getLast?.or prev) = true
  written : ∃ found, text = before ++ (found ++ after) ∧ sameIgnoringCase found key = true

theorem keyAt?_eq_some_iff :
    keyAt? key quote prev text = some after ↔ KeyBetween key quote prev text [] after := by
  unfold keyAt?
  constructor
  · intro h
    split at h
    · next start =>
      rw [Bool.and_eq_true, Option.isNone_iff_eq_none] at start
      exact ⟨start.1, start.2, dropIgnoringCase?_eq_some_iff.1 h⟩
    · cases h
  · rintro ⟨unquoted, boundary, written⟩
    have start : (quote.isNone && mayStartKey prev) = true := by
      rw [Bool.and_eq_true, Option.isNone_iff_eq_none]
      exact ⟨unquoted, boundary⟩
    rw [if_pos start]
    exact dropIgnoringCase?_eq_some_iff.2 written

theorem keyBetween_cons : KeyBetween key quote prev (c :: rest) (c :: before) after ↔
    KeyBetween key (quoteAfter quote prev c) (some c) rest before after := by
  constructor
  · rintro ⟨unquoted, boundary, found, ht, hs⟩
    rw [getLast?_cons_or] at boundary
    exact ⟨unquoted, boundary, found, (List.cons.inj ht).2, hs⟩
  · rintro ⟨unquoted, boundary, found, ht, hs⟩
    rw [← getLast?_cons_or c before prev] at boundary
    exact ⟨unquoted, boundary, found, by rw [ht]; rfl, hs⟩

theorem KeyBetween.cases_cons (h : KeyBetween key quote prev (c :: rest) before after) :
    (before = [] ∧ keyAt? key quote prev (c :: rest) = some after) ∨
      ∃ before', before = c :: before' ∧
        KeyBetween key (quoteAfter quote prev c) (some c) rest before' after := by
  cases before with
  | nil => exact Or.inl ⟨rfl, keyAt?_eq_some_iff.2 h⟩
  | cons d before' =>
    obtain ⟨found, ht, -⟩ := h.written
    obtain rfl : c = d := (List.cons.inj ht).1
    exact Or.inr ⟨before', rfl, keyBetween_cons.1 h⟩

theorem not_keyBetween_nil (hk : key ≠ []) : ¬ KeyBetween key quote prev [] before after := by
  rintro ⟨-, -, found, ht, hs⟩
  have none : found = [] := (List.append_eq_nil_iff.1 (List.append_eq_nil_iff.1 ht.symm).2).1
  have length := length_of_sameIgnoringCase hs
  rw [none] at length
  exact hk (List.length_eq_zero_iff.1 length.symm)

/-- A text is split at its first key, or is left whole where there is none. -/
def FirstKey (key : List Char) (quote prev : Option Char) (text : List Char) :
    List Char × Option (List Char) → Prop
  | (before, some after) => KeyBetween key quote prev text before after ∧
      ∀ before' after', KeyBetween key quote prev text before' after' →
        before.length ≤ before'.length
  | (before, none) => before = text ∧
      ∀ before' after', ¬ KeyBetween key quote prev text before' after'

theorem splitAtKey_firstKey (hk : key ≠ []) (quote prev : Option Char) (text : List Char) :
    FirstKey key quote prev text (splitAtKey key quote prev text) := by
  induction text generalizing quote prev with
  | nil => exact ⟨rfl, fun _ _ => not_keyBetween_nil hk⟩
  | cons c rest ih =>
    cases here : keyAt? key quote prev (c :: rest) with
    | some after =>
      simp only [splitAtKey, here]
      exact ⟨keyAt?_eq_some_iff.1 here, fun _ _ _ => Nat.zero_le _⟩
    | none =>
      rw [splitAtKey_cons here]
      have later := ih (quoteAfter quote prev c) (some c)
      cases hs : splitAtKey key (quoteAfter quote prev c) (some c) rest with
      | mk before argument =>
        rw [hs] at later
        cases argument with
        | some after =>
          refine ⟨keyBetween_cons.2 later.1, ?_⟩
          intro other after' found
          rcases found.cases_cons with ⟨-, start⟩ | ⟨before', rfl, inside⟩
          · rw [here] at start
            cases start
          · exact Nat.succ_le_succ (later.2 before' after' inside)
        | none =>
          refine ⟨congrArg (c :: ·) later.1, ?_⟩
          intro other after' found
          rcases found.cases_cons with ⟨-, start⟩ | ⟨before', -, inside⟩
          · rw [here] at start
            cases start
          · exact later.2 before' after' inside

theorem FirstKey.unique {parts parts' : List Char × Option (List Char)}
    (h : FirstKey key quote prev text parts) (h' : FirstKey key quote prev text parts') :
    parts = parts' := by
  obtain ⟨before, argument⟩ := parts
  obtain ⟨before', argument'⟩ := parts'
  cases argument with
  | none =>
    cases argument' with
    | none => rw [h.1, h'.1]
    | some after' => exact absurd h'.1 (h.2 _ _)
  | some after =>
    cases argument' with
    | none => exact absurd h.1 (h'.2 _ _)
    | some after' =>
      have same : before.length = before'.length :=
        Nat.le_antisymm (h.2 _ _ h'.1) (h'.2 _ _ h.1)
      obtain ⟨found, ht, hs⟩ := h.1.written
      obtain ⟨found', ht', hs'⟩ := h'.1.written
      obtain ⟨hb, hr⟩ := List.append_inj (ht.symm.trans ht') same
      have long : found.length = found'.length := by
        rw [length_of_sameIgnoringCase hs, length_of_sameIgnoringCase hs']
      rw [hb, (List.append_inj hr long).2]

theorem splitArgument_eq_iff {name : String} {parts : List Char × Option (List Char)} :
    splitArgument name text = parts ↔ FirstKey (name.toList ++ ['=']) none none text parts := by
  have first : FirstKey (name.toList ++ ['=']) none none text (splitArgument name text) :=
    splitAtKey_firstKey (by simp) none none text
  constructor
  · rintro rfl
    exact first
  · exact first.unique

/-- A text that names no target: it is blank, or its first word starts with letters and an equals
sign. -/
def Targetless (text : List Char) : Prop :=
  (∀ c ∈ text, isBlank c = true) ∨
    ∃ (blanks : Blanks) (letters rest : List Char), text = blanks.1 ++ (letters ++ '=' :: rest) ∧
      letters ≠ [] ∧ ∀ c ∈ letters, c.isAlpha = true

theorem isArgument_iff : isArgument word = true ↔
    ∃ letters rest, word = letters ++ '=' :: rest ∧ letters ≠ [] ∧
      ∀ c ∈ letters, c.isAlpha = true := by
  simp only [isArgument, Bool.and_eq_true, decide_eq_true_eq, List.head?_eq_some_iff]
  constructor
  · rintro ⟨hne, rest, hr⟩
    refine ⟨word.takeWhile Char.isAlpha, rest, ?_, by simpa using hne,
      fun c hc => List.mem_takeWhile_imp hc⟩
    rw [← hr, List.takeWhile_append_dropWhile]
  · rintro ⟨letters, rest, rfl, hne, letter⟩
    have sign : ('='.isAlpha) = false := by decide
    rw [List.takeWhile_append_of_pos letter, List.dropWhile_append_of_pos letter]
    simp [sign, hne]

theorem firstWord_eq_nil_iff : (firstWord (trimStart text)).1 = [] ↔
    ∀ c ∈ text, isBlank c = true := by
  constructor
  · intro none
    obtain ⟨before, hb, ht⟩ := exists_trimStart text
    have empty : trimStart text = [] := by
      by_contra some
      obtain ⟨c, hc, clear⟩ := starts_trimStart some
      have whole := firstWord_append (trimStart text)
      rw [none, List.nil_append] at whole
      rw [← whole] at hc
      rw [breaks_firstWord _ c hc] at clear
      cases clear
    rw [ht, empty, List.append_nil]
    exact hb
  · intro blank
    rw [trimStart_of_blank blank]
    rfl

theorem target?_eq_none_iff : target? text = none ↔ Targetless text := by
  have either : target? text = none ↔ (firstWord (trimStart text)).1 = [] ∨
      isArgument (firstWord (trimStart text)).1 = true := by
    unfold target?
    simp [or_iff_not_imp_left]
  rw [either, firstWord_eq_nil_iff]
  refine or_congr Iff.rfl ?_
  rw [isArgument_iff]
  constructor
  · rintro ⟨letters, rest, hw, hne, letter⟩
    obtain ⟨before, hb, ht⟩ := exists_trimStart text
    refine ⟨⟨before, hb⟩, letters, rest ++ (firstWord (trimStart text)).2, ?_, hne, letter⟩
    calc text = before ++ trimStart text := ht
      _ = before ++ ((letters ++ '=' :: rest) ++ (firstWord (trimStart text)).2) := by
          rw [← hw, firstWord_append]
      _ = _ := by rw [List.append_assoc, List.cons_append]
  · rintro ⟨blanks, letters, rest, rfl, hne, letter⟩
    -- the letters and the equals sign belong to one word, which goes on up to a blank
    have unbroken : ∀ c ∈ letters ++ '=' :: (firstWord rest).1, isBlank c = false := by
      intro c hc
      rcases List.mem_append.1 hc with hc | hc
      · exact isBlank_of_isAlpha (letter c hc)
      · rcases List.mem_cons.1 hc with rfl | hc
        · decide
        · simpa using List.mem_takeWhile_imp hc
    have starts : Starts (letters ++ '=' :: rest) :=
      (starts_of_word hne fun c hc => isBlank_of_isAlpha (letter c hc)).append _
    have word := firstWord_append_of_breaks unbroken (breaks_firstWord rest)
    rw [List.append_assoc, List.cons_append, firstWord_append] at word
    rw [trimStart_append blanks.2, trimStart_of_starts starts, word]
    exact ⟨letters, (firstWord rest).1, rfl, hne, letter⟩

end SiteDesk.Command
