import SiteDesk.Proofs.ArgumentPresence

/-!
The search for a key at byte offsets. A key stands at an offset where no quote is open and no
letter, digit or underscore precedes it, and a text is split at the first of these offsets. Done
on offsets alone, the search cuts the text in UTF-8: before each character outside quotes, then
behind as many bytes as the key has, and on both sides of the key that it finds. No cut falls
inside a character, and the parts are those that the search over characters gives.
-/
namespace SiteDesk

namespace Text

variable {text before after found key : String} {offset : String.Pos.Raw}

/-- A text cut at a byte offset; none if the offset lies inside a character or behind the end. -/
def cut? (text : String) (offset : String.Pos.Raw) : Option (String × String) :=
  if h : offset.IsValid text then
    some ((text.sliceTo (text.pos offset h)).copy, (text.sliceFrom (text.pos offset h)).copy)
  else none

theorem cut?_eq_some_iff : cut? text offset = some (before, after) ↔
    text = before ++ after ∧ offset = before.rawEndPos := by
  unfold cut?
  constructor
  · intro h
    split at h
    · next valid =>
      obtain ⟨rfl, rfl⟩ := Prod.mk.inj (Option.some.inj h)
      have splits := (text.pos offset valid).splits
      exact ⟨splits.eq_append, splits.offset_eq_rawEndPos⟩
    · cases h
  · rintro ⟨ht, ho⟩
    have valid : offset.IsValid text :=
      String.Pos.Raw.isValid_iff_exists_append.2 ⟨before, after, ht, ho⟩
    have splits : (text.pos offset valid).Splits before after := ⟨ht, ho⟩
    obtain ⟨hb, ha⟩ := splits.eq (text.pos offset valid).splits
    rw [dif_pos valid, ← hb, ← ha]

example : cut? "né" ⟨1⟩ = some ("n", "é") ∧ cut? "né" ⟨2⟩ = none := by decide +kernel

theorem utf8Size_of_isAlpha {c : Char} (h : c.isAlpha = true) : c.utf8Size = 1 := by
  have range := toNat_of_isAlpha h
  have ascii : c.toNat ≤ 127 := by omega
  exact Char.utf8Size_eq_one_iff.2 ascii

@[simp] theorem utf8Size_toLower (c : Char) : c.toLower.utf8Size = c.utf8Size := by
  by_cases h : c.isAlpha = true
  · rw [utf8Size_of_isAlpha h, utf8Size_of_isAlpha (by simpa using h)]
  · have small : ¬ c.isUpper := fun capital => h (by simp [Char.isAlpha, capital])
    rw [Char.toLower_eq_of_not_isUpper small]

@[simp] theorem utf8Len_map_toLower (word : List Char) :
    String.utf8Len (word.map Char.toLower) = String.utf8Len word := by
  induction word with
  | nil => rfl
  | cons c word ih =>
    rw [List.map_cons, String.utf8Len_cons, String.utf8Len_cons, ih, utf8Size_toLower]

theorem utf8ByteSize_of_sameIgnoringCase (h : sameIgnoringCase found.toList key.toList = true) :
    found.utf8ByteSize = key.utf8ByteSize :=
  calc found.utf8ByteSize = String.utf8Len (found.toList.map Char.toLower) := by
        rw [utf8Len_map_toLower, String.utf8Len_toList]
    _ = String.utf8Len (key.toList.map Char.toLower) := by rw [sameIgnoringCase_iff.1 h]
    _ = key.utf8ByteSize := by rw [utf8Len_map_toLower, String.utf8Len_toList]

/-- The cut behind a key that was found, reckoned with the size of the key that was sought. -/
theorem cut?_behind (h : sameIgnoringCase found.toList key.toList = true)
    (before after : String) :
    cut? (before ++ found ++ after) (before.rawEndPos + key) = some (before ++ found, after) := by
  refine cut?_eq_some_iff.2 ⟨rfl, String.Pos.Raw.ext ?_⟩
  rw [String.Pos.Raw.byteIdx_add_string, String.byteIdx_rawEndPos, String.byteIdx_rawEndPos,
    String.utf8ByteSize_append, utf8ByteSize_of_sameIgnoringCase h]

/-- Whether a text starts with a key in any case. The text is cut behind as many bytes as the key
has; it does not start with the key if that is inside a character or behind the end. -/
def startsIgnoringCase (key text : String) : Bool :=
  (cut? text key.rawEndPos).any fun parts => sameIgnoringCase parts.1.toList key.toList

theorem startsIgnoringCase_eq (key text : String) :
    startsIgnoringCase key text = (dropIgnoringCase? key.toList text.toList).isSome := by
  rw [Bool.eq_iff_iff, startsIgnoringCase, Option.any_eq_true, Option.isSome_iff_exists]
  constructor
  · rintro ⟨⟨found, after⟩, hc, same⟩
    refine ⟨after.toList, dropIgnoringCase?_eq_some_iff.2 ⟨found.toList, ?_, same⟩⟩
    rw [(cut?_eq_some_iff.1 hc).1, String.toList_append]
  · rintro ⟨after, hd⟩
    obtain ⟨found, ht, same⟩ := dropIgnoringCase?_eq_some_iff.1 hd
    rw [← String.toList_ofList (l := found)] at same
    refine ⟨(String.ofList found, String.ofList after), cut?_eq_some_iff.2 ⟨?_, ?_⟩, same⟩
    · rw [← String.ofList_append, ← ht, String.ofList_toList]
    · exact String.Pos.Raw.ext (utf8ByteSize_of_sameIgnoringCase same).symm

end Text

namespace Command

open Text

variable {name text before found after : String} {chars left right : List Char}
  {quote prev : Option Char} {c : Char} {offset : String.Pos.Raw}

/-- A quote opens right after an equals sign. -/
def OpensQuote (prev : Option Char) (c : Char) : Prop :=
  (c = '"' ∨ c = '\'') ∧ prev = some '='

instance (prev : Option Char) (c : Char) : Decidable (OpensQuote prev c) :=
  inferInstanceAs (Decidable ((c = '"' ∨ c = '\'') ∧ prev = some '='))

/-- The quote that is open at the end of a text, if there is one: it opened right after an equals
sign that no other quote enclosed, and it closes at the next one of its kind. -/
inductive QuoteState : List Char → Option Char → Prop
  | start : QuoteState [] none
  | outside {text : List Char} {c : Char} :
      QuoteState text none → ¬ OpensQuote text.getLast? c → QuoteState (text ++ [c]) none
  | opens {text : List Char} {q : Char} :
      QuoteState text none → OpensQuote text.getLast? q → QuoteState (text ++ [q]) (some q)
  | inside {text : List Char} {q c : Char} :
      QuoteState text (some q) → c ≠ q → QuoteState (text ++ [c]) (some q)
  | closes {text : List Char} {q : Char} :
      QuoteState text (some q) → QuoteState (text ++ [q]) none

@[simp] theorem quoteAfter_of_opensQuote (h : OpensQuote prev c) : quoteAfter none prev c = some c := by
  simp [quoteAfter, h.1, h.2]

@[simp] theorem quoteAfter_of_not_opensQuote (h : ¬ OpensQuote prev c) :
    quoteAfter none prev c = none := by
  simp only [quoteAfter, Bool.and_eq_true, Bool.or_eq_true, decide_eq_true_eq]
  exact if_neg h

theorem quoteState_iff : QuoteState chars quote ↔ quoteOver none none chars = quote := by
  constructor
  · intro h
    induction h with
    | start => rfl
    | outside _ stays ih => rw [quoteOver_concat, ih, quoteAfter_of_not_opensQuote stays]
    | opens _ opens ih => rw [quoteOver_concat, ih, quoteAfter_of_opensQuote opens]
    | inside _ other ih =>
      rw [quoteOver_concat, ih]
      exact if_neg other
    | closes _ ih =>
      rw [quoteOver_concat, ih]
      exact if_pos rfl
  · rintro rfl
    -- each rule adds a character at the end, so the text is taken apart from there
    induction chars using List.reverseRecOn with
    | nil => exact .start
    | append_singleton chars c ih =>
      rw [quoteOver_concat]
      cases hq : quoteOver none none chars with
      | none =>
        rw [hq] at ih
        by_cases opens : OpensQuote chars.getLast? c
        · rw [quoteAfter_of_opensQuote opens]
          exact ih.opens opens
        · rw [quoteAfter_of_not_opensQuote opens]
          exact ih.outside opens
      | some opened =>
        rw [hq] at ih
        by_cases closes : c = opened
        · obtain rfl := closes
          rw [show quoteAfter (some c) chars.getLast? c = none from if_pos rfl]
          exact ih.closes
        · rw [show quoteAfter (some opened) chars.getLast? c = some opened from if_neg closes]
          exact ih.inside closes

/-- Splits a text at the first key, given the offset of the characters that are still to be
searched; none if a cut falls inside a character. -/
def cutAtKey? (key text : String) :
    Option Char → Option Char → String.Pos.Raw → List Char → Option (String × Option String)
  | _, _, _, [] => some (text, none)
  | some opened, _, offset, c :: rest =>
    cutAtKey? key text (if c = opened then none else some opened) (some c) (offset + c) rest
  | none, prev, offset, c :: rest =>
    if OpensQuote prev c then cutAtKey? key text (some c) (some c) (offset + c) rest
    else do
      let (before, ahead) ← cut? text offset
      if mayStartKey prev && startsIgnoringCase key ahead then
        let (_, after) ← cut? text (offset + key)
        return (before, some after)
      else cutAtKey? key text none (some c) (offset + c) rest

def cutArgument? (name text : String) : Option (String × Option String) :=
  cutAtKey? (name ++ "=") text none none 0 text.toList

theorem toList_key (name : String) : (name ++ "=").toList = name.toList ++ ['='] :=
  String.toList_append

theorem keyAt?_of_opensQuote (letters : ∀ c ∈ name.toList, c.isAlpha = true)
    (h : OpensQuote prev c) (rest : List Char) :
    keyAt? (name.toList ++ ['=']) quote prev (c :: rest) = none := by
  cases hn : name.toList with
  | nil =>
    refine keyAt?_of_first ?_ rest
    rcases h.1 with rfl | rfl <;> decide
  | cons first tail =>
    have alpha : first.toLower.isAlpha = true := by simpa using letters first (by simp [hn])
    refine keyAt?_of_first (Ne.symm (ne_of_test alpha ?_)) _
    rcases h.1 with rfl | rfl <;> decide

theorem push_append_ofList (before : String) (c : Char) (rest : List Char) :
    before.push c ++ String.ofList rest = before ++ String.ofList (c :: rest) := by
  rw [String.ofList_cons, ← String.append_singleton, String.append_assoc]

theorem splitAtKey_of_keyAt? {key rest after : List Char}
    (h : keyAt? key quote prev (c :: rest) = some after) :
    splitAtKey key quote prev (c :: rest) = ([], some after) := by
  simp only [splitAtKey, h]

theorem isSome_keyAt? (key : String) (prev : Option Char) (rest : List Char) :
    (keyAt? key.toList none prev rest).isSome =
      (mayStartKey prev && startsIgnoringCase key (String.ofList rest)) := by
  rw [startsIgnoringCase_eq, String.toList_ofList, keyAt?]
  cases mayStartKey prev <;> rfl

/-- A step outside quotes cuts the text before a character and, if the key starts there, behind the
key. -/
theorem cutAtKey?_outside (stays : ¬ OpensQuote prev c) (key before : String)
    (rest : List Char) :
    cutAtKey? key (before ++ String.ofList (c :: rest)) none prev before.rawEndPos (c :: rest) =
      match keyAt? key.toList none prev (c :: rest) with
      | some after => some (before, some (String.ofList after))
      | none => cutAtKey? key (before ++ String.ofList (c :: rest)) none (some c)
          (before.rawEndPos + c) rest := by
  have here : cut? (before ++ String.ofList (c :: rest)) before.rawEndPos =
      some (before, String.ofList (c :: rest)) := cut?_eq_some_iff.2 ⟨rfl, rfl⟩
  rw [cutAtKey?, if_neg stays, here]
  simp only [Option.bind_eq_bind, Option.bind_some, ← isSome_keyAt?]
  cases hk : keyAt? key.toList none prev (c :: rest) with
  | none => rfl
  | some after =>
    obtain ⟨found, ht, same⟩ := (keyAt?_eq_some_iff.1 hk).written
    rw [← String.toList_ofList (l := found)] at same
    have parts : before ++ String.ofList (c :: rest) =
        before ++ String.ofList found ++ String.ofList after := by
      rw [ht, List.nil_append, String.ofList_append, String.append_assoc]
    rw [parts, cut?_behind same]
    rfl

/-- The search at byte offsets cuts no character and goes as the search over characters does. -/
theorem cutAtKey?_eq (letters : ∀ c ∈ name.toList, c.isAlpha = true) (before : String)
    (quote prev : Option Char) (rest : List Char) :
    cutAtKey? (name ++ "=") (before ++ String.ofList rest) quote prev before.rawEndPos rest =
      some (before ++ String.ofList (splitAtKey (name.toList ++ ['=']) quote prev rest).1,
        (splitAtKey (name.toList ++ ['=']) quote prev rest).2.map String.ofList) := by
  induction rest generalizing before quote prev with
  | nil => simp [cutAtKey?, splitAtKey]
  | cons c rest ih =>
    have later := fun quote => ih (before.push c) quote (some c)
    simp only [String.rawEndPos_push, push_append_ofList] at later
    cases quote with
    | some opened =>
      rw [cutAtKey?, later, splitAtKey_cons (keyAt?_of_open opened _)]
      rfl
    | none =>
      by_cases opens : OpensQuote prev c
      · rw [cutAtKey?, if_pos opens, later, splitAtKey_cons (keyAt?_of_opensQuote letters opens _),
          quoteAfter_of_opensQuote opens]
      · rw [cutAtKey?_outside opens, toList_key]
        cases hk : keyAt? (name.toList ++ ['=']) none prev (c :: rest) with
        | none =>
          rw [splitAtKey_cons hk, quoteAfter_of_not_opensQuote opens]
          exact later none
        | some after =>
          rw [splitAtKey_of_keyAt? hk]
          simp

theorem cutArgument?_eq (letters : ∀ c ∈ name.toList, c.isAlpha = true) (text : String) :
    cutArgument? name text =
      some ((splitArgument name text.toList).map String.ofList (Option.map String.ofList)) := by
  have search := cutAtKey?_eq letters "" none none text.toList
  rw [String.empty_append, String.empty_append, String.ofList_toList] at search
  exact search

/-- A name with an equals sign stands between two parts of a text, in any case, outside quotes and
not behind a letter, a digit or an underscore. -/
structure NameBetween (name text before found after : String) : Prop where
  parts : text = before ++ found ++ after
  written : sameIgnoringCase found.toList (name ++ "=").toList = true
  outside : QuoteState before.toList none
  boundary : ∀ c, before.toList.getLast? = some c → isAlphanumeric c = false ∧ c ≠ '_'

/-- A key stands at a byte offset of a text, reckoned from the part before it. -/
def KeyAt (name text : String) (offset : String.Pos.Raw) : Prop :=
  ∃ before found after, NameBetween name text before found after ∧ offset = before.rawEndPos

/-- A byte offset is that of the first key in a text. -/
def FirstKeyAt (name text : String) (offset : String.Pos.Raw) : Prop :=
  KeyAt name text offset ∧ ∀ other, KeyAt name text other → offset ≤ other

theorem mayStartKey_iff : mayStartKey prev = true ↔
    ∀ c, prev = some c → isAlphanumeric c = false ∧ c ≠ '_' := by
  cases prev <;> simp [mayStartKey]

theorem NameBetween.keyBetween (h : NameBetween name text before found after) :
    KeyBetween (name.toList ++ ['=']) none none text.toList before.toList after.toList where
  unquoted := quoteState_iff.1 h.outside
  boundary := by
    rw [Option.or_none]
    exact mayStartKey_iff.2 h.boundary
  written := by
    refine ⟨found.toList, ?_, toList_key name ▸ h.written⟩
    rw [h.parts, String.toList_append, String.toList_append, List.append_assoc]

theorem KeyBetween.exists_nameBetween
    (h : KeyBetween (name.toList ++ ['=']) none none text.toList left right) :
    ∃ found, NameBetween name text (String.ofList left) found (String.ofList right) := by
  obtain ⟨found, ht, same⟩ := h.written
  refine ⟨String.ofList found, ?_, ?_, ?_, ?_⟩
  · rw [← String.ofList_append, ← String.ofList_append, List.append_assoc, ← ht,
      String.ofList_toList]
  · rw [String.toList_ofList, toList_key]
    exact same
  · rw [String.toList_ofList]
    exact quoteState_iff.2 h.unquoted
  · rw [String.toList_ofList]
    have start := h.boundary
    rw [Option.or_none] at start
    exact mayStartKey_iff.1 start

/-- Of two keys in a text, the one with fewer characters before it has the smaller offset. -/
theorem NameBetween.offset_le {before' found' after' : String}
    (h : NameBetween name text before found after)
    (h' : NameBetween name text before' found' after')
    (shorter : before.toList.length ≤ before'.toList.length) :
    before.rawEndPos ≤ before'.rawEndPos := by
  have start : ∀ {before found after}, NameBetween name text before found after →
      before.toList <+: text.toList := fun h =>
    ⟨_, by rw [h.parts, String.append_assoc, String.toList_append]⟩
  have within := List.prefix_of_prefix_length_le (start h) (start h') shorter
  rw [String.Pos.Raw.le_iff, String.byteIdx_rawEndPos, String.byteIdx_rawEndPos,
    ← String.utf8Len_toList, ← String.utf8Len_toList]
  exact String.utf8Len_le_of_prefix within

theorem firstKeyAt_of_split (h : splitArgument name text.toList = (left, some right)) :
    ∃ found, NameBetween name text (String.ofList left) found (String.ofList right) ∧
      FirstKeyAt name text (String.ofList left).rawEndPos := by
  obtain ⟨between, first⟩ := splitArgument_eq_iff.1 h
  obtain ⟨found, named⟩ := between.exists_nameBetween
  refine ⟨found, named, ⟨_, _, _, named, rfl⟩, ?_⟩
  rintro other ⟨before', found', after', named', rfl⟩
  apply named.offset_le named'
  rw [String.toList_ofList]
  exact first _ _ named'.keyBetween

theorem FirstKeyAt.unique {offset' : String.Pos.Raw} (h : FirstKeyAt name text offset)
    (h' : FirstKeyAt name text offset') : offset = offset' :=
  String.Pos.Raw.ext (Nat.le_antisymm (h.2 _ h'.1) (h'.2 _ h.1))

/-- A text is split around its first key, or is left whole where there is none; and the search at
byte offsets comes to the same parts without a cut inside a character. -/
theorem argument_split_at_first_key (name text : String)
    (letters : ∀ c ∈ name.toList, c.isAlpha = true) :
    (∀ offset, FirstKeyAt name text offset → ∃ before key after,
      splitArgument name text.toList = (before.toList, some after.toList) ∧
      cut? text offset = some (before, key ++ after) ∧
      cut? text (offset + (name ++ "=")) = some (before ++ key, after) ∧
      sameIgnoringCase key.toList (name ++ "=").toList = true ∧ before ++ key ++ after = text) ∧
    ((¬ ∃ offset, FirstKeyAt name text offset) →
      splitArgument name text.toList = (text.toList, none)) ∧
    cutArgument? name text =
      some ((splitArgument name text.toList).map String.ofList (Option.map String.ofList)) := by
  refine ⟨?_, ?_, cutArgument?_eq letters text⟩
  · intro offset first
    rcases hs : splitArgument name text.toList with ⟨left, _ | right⟩
    · obtain ⟨before, found, after, named, -⟩ := first.1
      exact absurd named.keyBetween ((splitArgument_eq_iff.1 hs).2 _ _)
    · obtain ⟨found, named, first'⟩ := firstKeyAt_of_split hs
      obtain rfl := first.unique first'
      refine ⟨String.ofList left, found, String.ofList right, ?_, ?_, ?_, named.written,
        named.parts.symm⟩
      · rw [String.toList_ofList, String.toList_ofList]
      · exact cut?_eq_some_iff.2 ⟨by rw [named.parts, String.append_assoc], rfl⟩
      · rw [named.parts, cut?_behind named.written]
  · intro none
    rcases hs : splitArgument name text.toList with ⟨left, _ | right⟩
    · rw [(splitArgument_eq_iff.1 hs).1]
    · obtain ⟨found, -, first⟩ := firstKeyAt_of_split hs
      exact absurd ⟨_, first⟩ none

theorem argument_split_at_first_key_accents :
    let text := "/x title='components=' componentsé écomponents= Components=[]"
    let before := "/x title='components=' componentsé écomponents= "
    (∀ c ∈ "components".toList, c.isAlpha = true) ∧ FirstKeyAt "components" text ⟨50⟩ ∧
      (∃ key after, splitArgument "components" text.toList = (before.toList, some after.toList) ∧
        cut? text ⟨50⟩ = some (before, key ++ after) ∧
        sameIgnoringCase key.toList "components=".toList = true ∧ before ++ key ++ after = text) ∧
      cutArgument? "components" text = some (before, some "[]") := by
  intro text before
  have letters : ∀ c ∈ "components".toList, c.isAlpha = true := by simp
  have split : splitArgument "components" text.toList = (before.toList, some "[]".toList) := by
    decide +kernel
  obtain ⟨-, -, first⟩ := firstKeyAt_of_split split
  rw [String.ofList_toList, show before.rawEndPos = ⟨50⟩ by decide +kernel] at first
  obtain ⟨found, -, whole⟩ := argument_split_at_first_key "components" text letters
  obtain ⟨front, key, after, parts, here, -, same, joined⟩ := found _ first
  obtain rfl : front = before := by
    rw [split] at parts
    exact String.toList_injective (Prod.mk.inj parts).1.symm
  refine ⟨letters, first, ⟨key, after, parts, here, same, joined⟩, ?_⟩
  rw [whole, split]
  simp

end Command

end SiteDesk
