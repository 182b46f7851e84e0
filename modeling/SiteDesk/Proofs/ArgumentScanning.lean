import Mathlib
import SiteDesk.Command.Grammar

/-!
Scanning a command piece by piece. A key is found only where a piece holds it as a whole, since
blanks end each piece and no key holds a blank; so a search goes past blanks, plain words, option
names and quotations one after the other, with every quote closed in between.
-/
namespace SiteDesk

namespace Text

variable {c : Char} {blanks word pattern text rest : List Char}

theorem ne_of_test {p : Char → Bool} {c d : Char} (hc : p c = true) (hd : p d = false) : c ≠ d := by
  intro he
  rw [← he, hc] at hd
  cases hd

def blankPoints : List Nat :=
  [9, 10, 11, 12, 13, 0x20, 0x85, 0xA0, 0x1680, 0x2000, 0x2001, 0x2002, 0x2003, 0x2004, 0x2005,
    0x2006, 0x2007, 0x2008, 0x2009, 0x200A, 0x2028, 0x2029, 0x202F, 0x205F, 0x3000]

theorem mem_blankPoints (h : isBlank c = true) : c.toNat ∈ blankPoints := by
  simp only [isBlank, Bool.or_eq_true, Bool.and_eq_true, decide_eq_true_eq] at h
  simp only [blankPoints, List.mem_cons, List.not_mem_nil, or_false]
  omega

theorem isAlphanumeric_of_isBlank (h : isBlank c = true) : isAlphanumeric c = false := by
  have none : ∀ n ∈ blankPoints, (inRanges n alphabeticRanges || inRanges n decimalDigitRanges ||
      inRanges n otherNumberRanges) = false := by
    decide +kernel
  exact none _ (mem_blankPoints h)

theorem isWordChar_of_isBlank (h : isBlank c = true) : isWordChar c = false := by
  have none : ∀ n ∈ blankPoints, (inRanges n alphabeticRanges || inRanges n decimalDigitRanges ||
      inRanges n markRanges || inRanges n joinerRanges) = false := by
    decide +kernel
  unfold isWordChar
  rw [none _ (mem_blankPoints h), Bool.and_false]

theorem toNat_of_isAlpha (h : c.isAlpha = true) :
    (65 ≤ c.toNat ∧ c.toNat ≤ 90) ∨ (97 ≤ c.toNat ∧ c.toNat ≤ 122) := by
  simp only [Char.isAlpha, Char.isUpper, Char.isLower, UInt32.le_iff_toNat_le, Bool.or_eq_true,
    Bool.and_eq_true, decide_eq_true_eq, ge_iff_le] at h
  exact h

theorem isAlphanumeric_of_isAlpha (h : c.isAlpha = true) : isAlphanumeric c = true := by
  have letters : ∀ n < 123, (65 ≤ n ∧ n ≤ 90) ∨ (97 ≤ n ∧ n ≤ 122) →
      inRanges n alphabeticRanges = true := by
    decide +kernel
  have hn := toNat_of_isAlpha h
  have inside : inRanges c.toNat alphabeticRanges = true := letters _ (by omega) hn
  simp [isAlphanumeric, inside]

theorem isBlank_of_isAlpha (h : c.isAlpha = true) : isBlank c = false := by
  have hn := toNat_of_isAlpha h
  simp only [isBlank, Bool.or_eq_false_iff, Bool.and_eq_false_iff, decide_eq_false_iff_not]
  omega

@[simp] theorem isBlank_toLower (c : Char) : isBlank c.toLower = isBlank c := by
  by_cases h : c.isUpper
  · have alpha : c.isAlpha = true := by simp [Char.isAlpha, h]
    have lower : c.toLower.isAlpha = true := by simpa using alpha
    rw [isBlank_of_isAlpha alpha, isBlank_of_isAlpha lower]
  · rw [Char.toLower_eq_of_not_isUpper h]

theorem sameIgnoringCase_iff :
    sameIgnoringCase word pattern = true ↔ word.map Char.toLower = pattern.map Char.toLower := by
  simp [sameIgnoringCase]

theorem length_of_sameIgnoringCase (h : sameIgnoringCase word pattern = true) :
    word.length = pattern.length := by
  simpa using congrArg List.length (sameIgnoringCase_iff.1 h)

/-- What letters are in lower case tells of each character of a word in any case. -/
theorem forall_of_sameIgnoringCase {p : Char → Bool} (hp : ∀ c : Char, p c.toLower = p c)
    (h : sameIgnoringCase word pattern = true) (hw : ∀ c ∈ pattern, p c = true) :
    ∀ c ∈ word, p c = true := by
  intro c hc
  have lower : c.toLower ∈ pattern.map Char.toLower := by
    rw [← sameIgnoringCase_iff.1 h]
    exact List.mem_map_of_mem hc
  obtain ⟨d, hd, hl⟩ := List.mem_map.1 lower
  rw [← hp c, ← hl, hp d]
  exact hw d hd

theorem fold_of_ne (long : c ≠ '\u017F') (kelvin : c ≠ '\u212A') : fold c = c.toLower := by
  simp [fold, long, kelvin]

theorem fold_of_isAlpha (h : c.isAlpha = true) : fold c = c.toLower :=
  fold_of_ne (ne_of_test h (by decide)) (ne_of_test h (by decide))

theorem fold_ne_of_isBlank {letter : Char} (h : isBlank c = true) (hl : letter.isAlpha = true) :
    fold c ≠ fold letter := by
  have lower : fold c = c.toLower :=
    fold_of_ne (ne_of_test h (by decide)) (ne_of_test h (by decide))
  rw [lower, fold_of_isAlpha hl]
  intro he
  have hb := congrArg isBlank he
  rw [isBlank_toLower, isBlank_toLower, h, isBlank_of_isAlpha hl] at hb
  cases hb

theorem isAlpha_of_sameIgnoringCase (h : sameIgnoringCase word pattern = true)
    (letters : ∀ c ∈ pattern, c.isAlpha = true) : ∀ c ∈ word, c.isAlpha = true :=
  forall_of_sameIgnoringCase (by simp) h letters

theorem map_fold_of_sameIgnoringCase (h : sameIgnoringCase word pattern = true)
    (letters : ∀ c ∈ pattern, c.isAlpha = true) : word.map fold = pattern.map fold := by
  have hw := isAlpha_of_sameIgnoringCase h letters
  calc word.map fold = word.map Char.toLower :=
        List.map_congr_left fun c hc => fold_of_isAlpha (hw c hc)
    _ = pattern.map Char.toLower := sameIgnoringCase_iff.1 h
    _ = pattern.map fold := List.map_congr_left fun c hc => (fold_of_isAlpha (letters c hc)).symm

theorem dropFolding?_append (h : word.map fold = pattern.map fold) (rest : List Char) :
    dropFolding? pattern (word ++ rest) = some rest := by
  induction pattern generalizing word with
  | nil =>
    have hw : word = [] := by simpa using h
    rw [hw]
    rfl
  | cons p pattern ih =>
    cases word with
    | nil => simp at h
    | cons c word =>
      simp only [List.map_cons, List.cons.injEq] at h
      simp [dropFolding?, h.1, ih h.2]

def Starts (text : List Char) : Prop :=
  ∃ c, text.head? = some c ∧ isBlank c = false

def Ends (text : List Char) : Prop :=
  ∃ c, text.getLast? = some c ∧ isBlank c = false

theorem starts_of_word (hne : word ≠ []) (hw : ∀ c ∈ word, isBlank c = false) : Starts word := by
  cases word with
  | nil => exact absurd rfl hne
  | cons c rest => exact ⟨c, rfl, hw c (by simp)⟩

theorem ends_of_word (hne : word ≠ []) (hw : ∀ c ∈ word, isBlank c = false) : Ends word :=
  ⟨word.getLast hne, List.getLast?_eq_getLast_of_ne_nil hne, hw _ (List.getLast_mem hne)⟩

theorem ends_concat (h : isBlank c = false) (text : List Char) : Ends (text ++ [c]) :=
  ⟨c, by simp, h⟩

theorem Starts.append (h : Starts text) (rest : List Char) : Starts (text ++ rest) := by
  obtain ⟨c, hc, hn⟩ := h
  exact ⟨c, by simp [List.head?_append, hc], hn⟩

theorem Ends.append (h : Ends rest) (text : List Char) : Ends (text ++ rest) := by
  obtain ⟨c, hc, hn⟩ := h
  exact ⟨c, by simp [List.getLast?_append, hc], hn⟩

theorem trimStart_append (hb : ∀ c ∈ blanks, isBlank c = true) (rest : List Char) :
    trimStart (blanks ++ rest) = trimStart rest :=
  List.dropWhile_append_of_pos hb

theorem trimStart_of_starts (h : Starts text) : trimStart text = text := by
  obtain ⟨c, hc, hb⟩ := h
  cases text with
  | nil => simp at hc
  | cons d rest =>
    obtain rfl : d = c := by simpa using hc
    simp [trimStart, hb]

theorem trimEnd_append (hb : ∀ c ∈ blanks, isBlank c = true) (text : List Char) :
    trimEnd (text ++ blanks) = trimEnd text := by
  have hr : ∀ c ∈ blanks.reverse, isBlank c = true := by simpa using hb
  unfold trimEnd
  rw [List.reverse_append, List.dropWhile_append_of_pos hr]

theorem trimEnd_of_ends (h : Ends text) : trimEnd text = text := by
  obtain ⟨c, hc, hb⟩ := h
  have hr : trimStart text.reverse = text.reverse :=
    trimStart_of_starts ⟨c, by simpa using hc, hb⟩
  unfold trimEnd
  rw [show text.reverse.dropWhile isBlank = text.reverse from hr, List.reverse_reverse]

theorem trim_append {before after : List Char} (hs : Starts text) (he : Ends text)
    (hb : ∀ c ∈ before, isBlank c = true) (ha : ∀ c ∈ after, isBlank c = true) :
    trim (before ++ text ++ after) = text := by
  unfold trim
  rw [List.append_assoc, trimStart_append hb, trimStart_of_starts (hs.append after),
    trimEnd_append ha, trimEnd_of_ends he]

/-- A text with no room for a word: it is empty or starts with a blank. -/
def Breaks (text : List Char) : Prop :=
  ∀ c, text.head? = some c → isBlank c = true

theorem firstWord_append_of_breaks (hw : ∀ c ∈ word, isBlank c = false) (h : Breaks rest) :
    firstWord (word ++ rest) = (word, rest) := by
  have hn : ∀ c ∈ word, (!isBlank c) = true := by
    intro c hc
    simp [hw c hc]
  have stop : rest.takeWhile (fun c => !isBlank c) = [] ∧
      rest.dropWhile (fun c => !isBlank c) = rest := by
    cases rest with
    | nil => simp
    | cons d rest =>
      have hd : isBlank d = true := h d rfl
      simp [hd]
  unfold firstWord
  rw [List.takeWhile_append_of_pos hn, List.dropWhile_append_of_pos hn, stop.1, stop.2,
    List.append_nil]

end Text

namespace Command

open Text

variable {key piece other blanks word name value rest : List Char} {quote prev : Option Char}
  {c : Char}

/-- A key: it starts with a letter, and no blank breaks it. -/
structure IsKey (key : List Char) : Prop where
  letter : ∃ c tail, key = c :: tail ∧ c.isAlpha = true
  unbroken : ∀ c ∈ key, isBlank c = false

@[simp] theorem keyAt?_of_inside (h : mayStartKey prev = false) (text : List Char) :
    keyAt? key quote prev text = none := by
  simp [keyAt?, h]

@[simp] theorem keyAt?_of_open (opened : Char) (text : List Char) :
    keyAt? key (some opened) prev text = none := by
  simp [keyAt?]

theorem keyAt?_of_first {first : Char} {tail : List Char} (h : c.toLower ≠ first.toLower)
    (rest : List Char) : keyAt? (first :: tail) quote prev (c :: rest) = none := by
  simp [keyAt?, dropIgnoringCase?, h]

theorem keyAt?_of_not_isAlpha (hk : IsKey key) (h : c.isAlpha = false) (rest : List Char) :
    keyAt? key quote prev (c :: rest) = none := by
  obtain ⟨first, tail, rfl, hf⟩ := hk.letter
  refine keyAt?_of_first ?_ rest
  intro he
  have hl : c.toLower.isAlpha = first.toLower.isAlpha := by rw [he]
  simp [h, hf] at hl

@[simp] theorem quoteAfter_of_ne (hd : c ≠ '"') (hs : c ≠ '\'') : quoteAfter none prev c = none := by
  simp [quoteAfter, hd, hs]

/-- What a text without blanks and a text that breaks start with, the first alone does, unless
there is a blank in it. -/
theorem isPrefix_of_breaks {text found after : List Char} (hb : Breaks rest)
    (hf : ∀ c ∈ found, isBlank c = false) (h : text ++ rest = found ++ after) :
    ∃ tail, text = found ++ tail := by
  rcases List.append_eq_append_iff.1 h with ⟨tail, hfound, hrest⟩ | ⟨tail, htext, -⟩
  · cases tail with
    | nil => exact ⟨[], by simp [hfound]⟩
    | cons d tail =>
      have blank : isBlank d = true := hb d (by simp [hrest])
      have clear : isBlank d = false := hf d (by simp [hfound])
      rw [blank] at clear
      cases clear
  · exact ⟨tail, htext⟩

/-- A search for a key goes past a piece of text to what follows it, with no quote open before or
after. -/
def Skips (key : List Char) (prev : Option Char) (piece rest : List Char) : Prop :=
  splitAtKey key none prev (piece ++ rest) =
    (piece ++ (splitAtKey key none (piece.getLast?.or prev) rest).1,
      (splitAtKey key none (piece.getLast?.or prev) rest).2)

theorem getLast?_cons_or (c : Char) (text : List Char) (prev : Option Char) :
    (c :: text).getLast?.or prev = text.getLast?.or (some c) := by
  rw [List.getLast?_cons]
  cases text.getLast? <;> rfl

theorem getLast?_append_or (text other : List Char) (prev : Option Char) :
    (text ++ other).getLast?.or prev = other.getLast?.or (text.getLast?.or prev) := by
  rw [List.getLast?_append, Option.or_assoc]

theorem splitAtKey_cons (h : keyAt? key quote prev (c :: rest) = none) :
    splitAtKey key quote prev (c :: rest) =
      (c :: (splitAtKey key (quoteAfter quote prev c) (some c) rest).1,
        (splitAtKey key (quoteAfter quote prev c) (some c) rest).2) := by
  simp only [splitAtKey, h]

theorem Skips.append (h : Skips key prev piece (other ++ rest))
    (ho : Skips key (piece.getLast?.or prev) other rest) :
    Skips key prev (piece ++ other) rest := by
  unfold Skips at *
  rw [List.append_assoc, h, ho, getLast?_append_or, List.append_assoc]

theorem skips_of_clear (h : ∀ before c after, piece = before ++ c :: after →
    keyAt? key none (before.getLast?.or prev) (c :: (after ++ rest)) = none ∧
      quoteAfter none (before.getLast?.or prev) c = none) :
    Skips key prev piece rest := by
  induction piece generalizing prev with
  | nil => simp [Skips]
  | cons c piece ih =>
    obtain ⟨hk, hq⟩ := h [] c piece rfl
    have later : Skips key (some c) piece rest := by
      apply ih
      intro before d after hp
      rw [← getLast?_cons_or c before prev]
      exact h (c :: before) d after (by rw [hp]; rfl)
    unfold Skips at later ⊢
    have none : (List.getLast? ([] : List Char)).or prev = prev := rfl
    rw [none] at hk hq
    rw [List.cons_append, splitAtKey_cons hk, hq, later, getLast?_cons_or]
    rfl

theorem skips_blanks (hk : IsKey key) (hb : ∀ c ∈ blanks, isBlank c = true) :
    Skips key prev blanks rest := by
  apply skips_of_clear
  intro before c after hp
  have blank : isBlank c = true := hb c (by simp [hp])
  have clear : c.isAlpha = false := by
    by_contra alpha
    rw [isBlank_of_isAlpha (by simpa using alpha)] at blank
    cases blank
  exact ⟨keyAt?_of_not_isAlpha hk clear _,
    quoteAfter_of_ne (ne_of_test blank (by decide)) (ne_of_test blank (by decide))⟩

/-- The name of an option with its equals sign: no key starts within a word of letters, and this one
starts with another letter. -/
theorem skips_name {first : Char} {tail : List Char} (hn : ∀ c ∈ name, c.isAlpha = true)
    (hf : ∀ c, name.head? = some c → c.toLower ≠ first.toLower) (hne : name ≠ []) :
    Skips (first :: tail) prev (name ++ ['=']) rest := by
  apply skips_of_clear
  intro before c after hp
  have hc : c ∈ name ++ ['='] := by simp [hp]
  refine ⟨?_, ?_⟩
  · rcases List.eq_nil_or_concat before with rfl | ⟨front, d, rfl⟩
    · cases name with
      | nil => exact absurd rfl hne
      | cons n name =>
        obtain rfl : n = c := by simpa using congrArg List.head? hp
        exact keyAt?_of_first (hf n rfl) _
    · have hname : name = front.concat d ++ (c :: after).dropLast := by
        have hd := congrArg List.dropLast hp
        rwa [List.dropLast_concat, List.dropLast_append_of_ne_nil (by simp)] at hd
      have alpha : d.isAlpha = true := hn d (by rw [hname]; simp)
      apply keyAt?_of_inside
      simp [mayStartKey, isAlphanumeric_of_isAlpha alpha]
  · rcases List.mem_append.1 hc with hc | hc
    · have alpha := hn c hc
      exact quoteAfter_of_ne (ne_of_test alpha (by decide)) (ne_of_test alpha (by decide))
    · obtain rfl : c = '=' := by simpa using hc
      exact quoteAfter_of_ne (by decide) (by decide)

/-- Wherever a text holds a key in any case, a letter, a digit or an underscore precedes it. -/
def NoKey (key text : List Char) : Prop :=
  ∀ before found after, text = before ++ found ++ after → sameIgnoringCase found key = true →
    ∃ c, before.getLast? = some c ∧ (isAlphanumeric c = true ∨ c = '_')

theorem skips_word (hk : IsKey key) (hw : NoKey key word) (hb : Breaks rest)
    (quotes : ∀ before c after, word = before ++ c :: after → c = '"' ∨ c = '\'' →
      before.getLast?.or prev ≠ some '=') :
    Skips key prev word rest := by
  apply skips_of_clear
  intro before c after hp
  refine ⟨?_, ?_⟩
  · by_contra found
    obtain ⟨left, hl⟩ := Option.ne_none_iff_exists'.1 found
    unfold keyAt? at hl
    split at hl
    · next start =>
      simp only [Bool.and_eq_true] at start
      -- a key that starts in the word ends in it, since a blank or the end of the text follows
      obtain ⟨key', ht, hs⟩ := dropIgnoringCase?_eq_some_iff.1 hl
      have unbroken : ∀ c ∈ key', isBlank c = false := by
        intro d hd
        have hp : ∀ c ∈ key, (!isBlank c) = true := by
          intro c hc
          simp [hk.unbroken c hc]
        simpa using forall_of_sameIgnoringCase (p := fun c => !isBlank c)
          (by simp [isBlank_toLower]) hs hp d hd
      have hbegin : (c :: after) ++ rest = key' ++ left := ht
      obtain ⟨tail, htail⟩ := isPrefix_of_breaks hb unbroken hbegin
      obtain ⟨d, hd, hclass⟩ := hw before key' tail (by rw [hp, htail, List.append_assoc]) hs
      rw [hd, Option.some_or] at start
      have stops : mayStartKey (some d) = false := by
        rcases hclass with h | rfl
        · simp [mayStartKey, h]
        · simp [mayStartKey]
      rw [stops] at start
      exact absurd start.2 (by simp)
    · cases hl
  · by_cases hq : c = '"' ∨ c = '\''
    · have closed := quotes before c after hp hq
      simp [quoteAfter, closed]
    · rw [not_or] at hq
      exact quoteAfter_of_ne hq.1 hq.2

theorem splitAtKey_quoted {opened : Char} (h : opened ∉ value) (prev : Option Char)
    (rest : List Char) :
    splitAtKey key (some opened) prev (value ++ opened :: rest) =
      (value ++ opened :: (splitAtKey key none (some opened) rest).1,
        (splitAtKey key none (some opened) rest).2) := by
  induction value generalizing prev with
  | nil =>
    rw [List.nil_append, splitAtKey_cons (keyAt?_of_open _ _)]
    simp [quoteAfter]
  | cons c value ih =>
    have hc : c ≠ opened := by
      rintro rfl
      simp at h
    have hv : opened ∉ value := by
      intro hm
      exact h (List.mem_cons_of_mem _ hm)
    have stays : quoteAfter (some opened) prev c = some opened := by
      simp [quoteAfter, hc]
    rw [List.cons_append, splitAtKey_cons (keyAt?_of_open _ _), stays, ih hv]
    rfl

theorem skips_quotation (hk : IsKey key) {opened : Char} (hq : opened = '"' ∨ opened = '\'')
    (h : opened ∉ value) :
    Skips key (some '=') (opened :: (value ++ [opened])) rest := by
  have nonletter : opened.isAlpha = false := by
    rcases hq with rfl | rfl <;> decide
  have opens : quoteAfter none (some '=') opened = some opened := by
    rcases hq with rfl | rfl <;> rfl
  have last : (opened :: (value ++ [opened])).getLast? = some opened := by
    rw [← List.cons_append, List.getLast?_append]
    rfl
  unfold Skips
  rw [List.cons_append, splitAtKey_cons (keyAt?_of_not_isAlpha hk nonletter _), opens,
    List.append_assoc, List.singleton_append, splitAtKey_quoted h, last]
  simp

theorem splitAtKey_found (hs : sameIgnoringCase name key = true) (hn : name ≠ [])
    (hp : mayStartKey prev = true) (rest : List Char) :
    splitAtKey key none prev (name ++ rest) = ([], some rest) := by
  have found : dropIgnoringCase? key (name ++ rest) = some rest :=
    dropIgnoringCase?_eq_some_iff.2 ⟨name, rfl, hs⟩
  cases name with
  | nil => exact absurd rfl hn
  | cons c name =>
    rw [List.cons_append] at found ⊢
    simp [splitAtKey, keyAt?, hp, found]

@[simp] theorem mayStartKey_of_isBlank (h : isBlank c = true) : mayStartKey (some c) = true := by
  have underscore : c ≠ '_' := ne_of_test h (by decide)
  simp [mayStartKey, isAlphanumeric_of_isBlank h, underscore]

@[simp] theorem mayStartWord_of_isBlank (h : isBlank c = true) : mayStartWord (some c) = true := by
  simp [mayStartWord, isWordChar_of_isBlank h]

theorem upTo?_append {quote : Char} (h : quote ∉ value) (rest : List Char) :
    upTo? quote (value ++ quote :: rest) = some value := by
  induction value with
  | nil => simp [upTo?]
  | cons c value ih =>
    simp only [List.mem_cons, not_or] at h
    simp [upTo?, Ne.symm h.1, ih h.2]

@[simp] theorem optionValue?_double (h : '"' ∉ value) (rest : List Char) :
    optionValue? ('"' :: (value ++ '"' :: rest)) = some value := by
  simp [optionValue?, quotation?, upTo?_append h]

@[simp] theorem optionValue?_single (h : '\'' ∉ value) (rest : List Char) :
    optionValue? ('\'' :: (value ++ '\'' :: rest)) = some value := by
  simp [optionValue?, quotation?, upTo?_append h]

theorem optionValue?_bare (hne : value ≠ []) (hv : ∀ c ∈ value, isBlank c = false)
    (hd : '"' ∉ value) (hs : '\'' ∉ value) (hb : Breaks rest) :
    optionValue? (value ++ rest) = some value := by
  have hw := firstWord_append_of_breaks hv hb
  have bare : bareValue? (value ++ rest) = some value := by
    simp [bareValue?, hw, hne]
  cases value with
  | nil => exact absurd rfl hne
  | cons c value =>
    simp only [List.mem_cons, not_or] at hd hs
    rw [List.cons_append] at bare ⊢
    simp [optionValue?, quotation?, Ne.symm hd.1, Ne.symm hs.1, bare]

theorem findOption?_append_blanks (hk : ∃ c tail, key = c :: tail ∧ c.isAlpha = true)
    (hb : ∀ c ∈ blanks, isBlank c = true) (prev : Option Char) (rest : List Char) :
    findOption? key prev (blanks ++ rest) = findOption? key (blanks.getLast?.or prev) rest := by
  induction blanks generalizing prev with
  | nil => rfl
  | cons c blanks ih =>
    obtain ⟨first, tail, rfl, hf⟩ := hk
    have other : fold c ≠ fold first := fold_ne_of_isBlank (hb c (by simp)) hf
    have later := ih (fun d hd => hb d (List.mem_cons_of_mem _ hd)) (some c)
    rw [getLast?_cons_or, ← later]
    simp [findOption?, dropFolding?, other]

theorem findOption?_blanks (hk : ∃ c tail, key = c :: tail ∧ c.isAlpha = true)
    (hb : ∀ c ∈ blanks, isBlank c = true) (prev : Option Char) :
    findOption? key prev blanks = none := by
  have h := findOption?_append_blanks hk hb prev []
  rw [List.append_nil] at h
  rw [h]
  rfl

theorem findOption?_found (hf : name.map fold = key.map fold) (hn : name ≠ [])
    (hp : mayStartWord prev = true) (hv : optionValue? rest = some value) :
    findOption? key prev (name ++ rest) = some value := by
  have found := dropFolding?_append hf rest
  cases name with
  | nil => exact absurd rfl hn
  | cons c name =>
    rw [List.cons_append] at found ⊢
    simp [findOption?, hp, found, hv]

end Command

end SiteDesk
