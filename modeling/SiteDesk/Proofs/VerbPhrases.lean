import SiteDesk.Proofs.CommandRoundTrip
import SiteDesk.Proofs.PayloadTexts

/-!
How a command opens: with two words, whatever blanks stand before and between them. A command has
the verb phrase that its first two words fold to and none else; what is read after them is the rest
of the command without the blanks around it.
-/
namespace SiteDesk

namespace Text

variable {text rest blanks : List Char}

theorem exists_trimStart (text : List Char) :
    ∃ before, (∀ c ∈ before, isBlank c = true) ∧ text = before ++ trimStart text :=
  ⟨text.takeWhile isBlank, fun _ hc => List.mem_takeWhile_imp hc,
    List.takeWhile_append_dropWhile.symm⟩

theorem exists_trimEnd (text : List Char) :
    ∃ after, (∀ c ∈ after, isBlank c = true) ∧ text = trimEnd text ++ after := by
  obtain ⟨before, hb, ht⟩ := exists_trimStart text.reverse
  refine ⟨before.reverse, by simpa using hb, ?_⟩
  unfold trimEnd
  rw [← List.reverse_append, show text.reverse.dropWhile isBlank = trimStart text.reverse from rfl,
    ← ht, List.reverse_reverse]

theorem starts_trimStart (h : trimStart text ≠ []) : Starts (trimStart text) := by
  obtain ⟨c, rest, ht⟩ := List.exists_cons_of_ne_nil h
  have first := List.head?_dropWhile_not isBlank text
  rw [show text.dropWhile isBlank = c :: rest from ht] at first
  exact ⟨c, by rw [ht]; rfl, by simpa using first⟩

@[simp] theorem trimStart_of_blank (h : ∀ c ∈ text, isBlank c = true) : trimStart text = [] := by
  rw [← List.append_nil text, trimStart_append h]
  rfl

theorem trimEnd_append_of_ends (h : Ends text) (rest : List Char) :
    trimEnd (text ++ rest) = text ++ trimEnd rest := by
  obtain ⟨after, ha, hr⟩ := exists_trimEnd rest
  have ends : Ends (text ++ trimEnd rest) := by
    cases hk : trimEnd rest with
    | nil => rwa [List.append_nil]
    | cons c kept =>
      have hl : (trimEnd rest).getLast?.isSome = true := by rw [hk]; simp
      obtain ⟨d, hd⟩ := Option.isSome_iff_exists.1 hl
      have first := List.head?_dropWhile_not isBlank rest.reverse
      unfold trimEnd at hd hk
      rw [List.getLast?_reverse] at hd
      rw [hd] at first
      rw [← hk]
      exact Ends.append ⟨d, by rw [List.getLast?_reverse, hd], by simpa using first⟩ text
  calc trimEnd (text ++ rest) = trimEnd ((text ++ trimEnd rest) ++ after) := by
        rw [List.append_assoc, ← hr]
    _ = trimEnd (text ++ trimEnd rest) := trimEnd_append ha _
    _ = text ++ trimEnd rest := trimEnd_of_ends ends

theorem trim_append_blanks (h : ∀ c ∈ blanks, isBlank c = true) (text : List Char) :
    trim (text ++ blanks) = trim text := by
  obtain ⟨before, hb, ht⟩ := exists_trimStart text
  unfold trim
  by_cases empty : trimStart text = []
  · have blank : ∀ c ∈ text, isBlank c = true := by
      rw [ht, empty, List.append_nil]
      exact hb
    rw [trimStart_append blank, trimStart_of_blank h, empty]
  · have starts := starts_trimStart empty
    have kept : trimStart (text ++ blanks) = trimStart text ++ blanks := by
      conv_lhs => rw [ht]
      rw [List.append_assoc, trimStart_append hb, trimStart_of_starts (starts.append blanks)]
    rw [kept, trimEnd_append h]

@[simp] theorem trim_trimEnd (text : List Char) : trim (trimEnd text) = trim text := by
  obtain ⟨after, ha, ht⟩ := exists_trimEnd text
  conv_rhs => rw [ht]
  exact (trim_append_blanks ha _).symm

theorem exists_trim (text : List Char) :
    ∃ before after, (∀ c ∈ before, isBlank c = true) ∧ (∀ c ∈ after, isBlank c = true) ∧
      text = before ++ (trim text ++ after) := by
  obtain ⟨before, hb, ht⟩ := exists_trimStart text
  obtain ⟨after, ha, hk⟩ := exists_trimEnd (trimStart text)
  refine ⟨before, after, hb, ha, ?_⟩
  unfold trim
  rw [← hk, ← ht]

/-- A piece of text without blanks. -/
structure IsWord (word : List Char) : Prop where
  nonempty : word ≠ []
  unbroken : ∀ c ∈ word, isBlank c = false

theorem IsWord.starts {word : List Char} (h : IsWord word) : Starts word :=
  starts_of_word h.nonempty h.unbroken

theorem IsWord.ends {word : List Char} (h : IsWord word) : Ends word :=
  ends_of_word h.nonempty h.unbroken

theorem isWord_firstWord (h : (firstWord text).1 ≠ []) : IsWord (firstWord text).1 where
  nonempty := h
  unbroken c hc := by simpa using List.mem_takeWhile_imp hc

theorem breaks_firstWord (text : List Char) : Breaks (firstWord text).2 := by
  intro c hc
  have stop := List.head?_dropWhile_not (fun c => !isBlank c) text
  rw [show (text.dropWhile fun c => !isBlank c).head? = some c from hc] at stop
  simpa using stop

theorem breaks_of_blank (h : ∀ c ∈ text, isBlank c = true) : Breaks text :=
  fun c hc => h c (List.mem_of_mem_head? hc)

theorem Breaks.append (h : Breaks text) (hr : Breaks rest) : Breaks (text ++ rest) := by
  cases text with
  | nil => exact hr
  | cons d text => exact fun c hc => h c (by simpa using hc)

theorem Breaks.trimEnd (h : Breaks text) : Breaks (trimEnd text) := by
  intro c hc
  obtain ⟨after, -, ht⟩ := exists_trimEnd text
  apply h
  rw [ht, List.head?_append, hc]
  rfl

theorem exists_gap (hb : Breaks text) (hw : (firstWord (trimStart text)).1 ≠ []) :
    ∃ gap : Command.Gap, text = gap.1 ++ trimStart text := by
  obtain ⟨before, blank, ht⟩ := exists_trimStart text
  refine ⟨⟨before, ?_, blank⟩, ht⟩
  rintro rfl
  rw [List.nil_append] at ht
  rw [← ht] at hw
  obtain ⟨c, hc, clear⟩ := (isWord_firstWord hw).starts.append (firstWord text).2
  rw [firstWord_append] at hc
  rw [hb c hc] at clear
  cases clear

end Text

namespace Command

open Text

variable {text first second rest : List Char} {verb found : Verb}

/-- A text opens with two words; `rest` is all that follows them. -/
structure Opens (text first second rest : List Char) : Prop where
  split : ∃ (before : Blanks) (gap : Gap),
    text = before.1 ++ (first ++ (gap.1 ++ (second ++ rest)))
  isWord : IsWord first
  isWord' : IsWord second
  stop : Breaks rest

theorem opens_of_words (hf : (firstWord text).1 ≠ [])
    (hs : (firstWord (trimStart (firstWord text).2)).1 ≠ []) :
    Opens text (firstWord text).1 (firstWord (trimStart (firstWord text).2)).1
      (firstWord (trimStart (firstWord text).2)).2 := by
  obtain ⟨gap, hg⟩ := exists_gap (breaks_firstWord text) hs
  refine ⟨⟨⟨[], by simp⟩, gap, ?_⟩, isWord_firstWord hf, isWord_firstWord hs, breaks_firstWord _⟩
  rw [firstWord_append, ← hg, firstWord_append]
  rfl

theorem Opens.pad (h : Opens text first second rest) {before after : List Char}
    (hb : ∀ c ∈ before, isBlank c = true) (ha : ∀ c ∈ after, isBlank c = true) :
    Opens (before ++ (text ++ after)) first second (rest ++ after) := by
  obtain ⟨⟨inner, gap, rfl⟩, isWord, isWord', stop⟩ := h
  have blank : ∀ c ∈ before ++ inner.1, isBlank c = true := by
    intro c hc
    exact (List.mem_append.1 hc).elim (hb c) (inner.2 c)
  exact ⟨⟨⟨before ++ inner.1, blank⟩, gap, by simp only [List.append_assoc]⟩, isWord, isWord',
    stop.append (breaks_of_blank ha)⟩

theorem Opens.verbPhrase?_eq (h : Opens text first second rest) :
    verbPhrase? text = (verb? first second).map fun verb => (verb, trim rest) := by
  obtain ⟨⟨before, gap, rfl⟩, isWord, isWord', stop⟩ := h
  have trimmed : trim (before.1 ++ (first ++ (gap.1 ++ (second ++ rest)))) =
      first ++ (gap.1 ++ (second ++ trimEnd rest)) := by
    have ends : Ends (first ++ (gap.1 ++ second)) := (isWord'.ends.append _).append _
    unfold trim
    rw [trimStart_append before.2, trimStart_of_starts (isWord.starts.append _)]
    calc trimEnd (first ++ (gap.1 ++ (second ++ rest))) =
          trimEnd ((first ++ (gap.1 ++ second)) ++ rest) := by simp only [List.append_assoc]
      _ = (first ++ (gap.1 ++ second)) ++ trimEnd rest := trimEnd_append_of_ends ends rest
      _ = first ++ (gap.1 ++ (second ++ trimEnd rest)) := by simp only [List.append_assoc]
  unfold verbPhrase?
  rw [trimmed, firstWord_append_of_breaks isWord.unbroken (gap.breaks _)]
  dsimp only
  rw [trimStart_append gap.2.2, trimStart_of_starts (isWord'.starts.append _),
    firstWord_append_of_breaks isWord'.unbroken stop.trimEnd]
  dsimp only
  rw [trim_trimEnd]

def Verb.words : Verb → String × String
  | .createPage => ("create", "page")
  | .publishPage => ("publish", "page")
  | .deletePage => ("delete", "page")
  | .createComponent => ("create", "component")

/-- Two words match a verb under simple case folding. -/
def Verb.Matches (verb : Verb) (first second : List Char) : Prop :=
  foldsTo verb.words.1.toList first = true ∧ foldsTo verb.words.2.toList second = true

/-- A verb, with no difference made between publishing and deleting. -/
def Verb.plain : Verb → Verb
  | .deletePage => .publishPage
  | verb => verb

theorem foldsTo_of_foldsTo {word other : List Char} (h : foldsTo word text = true) :
    foldsTo other text = decide (word.map fold = other.map fold) := by
  unfold foldsTo at h ⊢
  rw [of_decide_eq_true h]

/-- Two words that match a verb make it up, except that a publication may be taken for a
deletion. -/
theorem Verb.Matches.verb?_eq (h : verb.Matches first second) :
    ∃ found, verb? first second = some found ∧ found.plain = verb.plain := by
  obtain ⟨hf, hs⟩ := h
  unfold verb?
  rw [foldsTo_of_foldsTo hf, foldsTo_of_foldsTo hf, foldsTo_of_foldsTo hf, foldsTo_of_foldsTo hs,
    foldsTo_of_foldsTo hs]
  cases verb with
  | createPage => exact ⟨.createPage, by rw [if_pos (by decide +kernel)], rfl⟩
  | publishPage =>
    rw [if_neg (by decide +kernel), if_pos (by decide +kernel)]
    split
    · exact ⟨.publishPage, rfl, rfl⟩
    · exact ⟨.deletePage, rfl, rfl⟩
  | deletePage =>
    rw [if_neg (by decide +kernel), if_pos (by decide +kernel)]
    split
    · exact ⟨.publishPage, rfl, rfl⟩
    · exact ⟨.deletePage, rfl, rfl⟩
  | createComponent =>
    rw [if_neg (by decide +kernel), if_neg (by decide +kernel), if_pos (by decide +kernel)]
    exact ⟨.createComponent, rfl, rfl⟩

theorem exists_matches (h : verb? first second = some found) :
    ∃ verb : Verb, verb.Matches first second := by
  unfold verb? at h
  split at h
  · next created =>
    rw [Bool.and_eq_true] at created
    exact ⟨.createPage, created⟩
  · split at h
    · next changed =>
      simp only [Bool.and_eq_true, Bool.or_eq_true] at changed
      rcases changed with ⟨publish | delete, page⟩
      · exact ⟨.publishPage, publish, page⟩
      · exact ⟨.deletePage, delete, page⟩
    · split at h
      · next created =>
        rw [Bool.and_eq_true] at created
        exact ⟨.createComponent, created⟩
      · cases h

theorem Verb.Matches.nonempty (h : verb.Matches first second) : first ≠ [] ∧ second ≠ [] := by
  obtain ⟨hf, hs⟩ := h
  unfold foldsTo at hf hs
  constructor
  · rintro rfl
    revert hf
    cases verb <;> decide +kernel
  · rintro rfl
    revert hs
    cases verb <;> decide +kernel

/-- A command with a verb phrase opens with two words that match a verb. -/
theorem exists_opens {body : List Char} (h : verbPhrase? text = some (found, body)) :
    ∃ (verb : Verb) (first second rest : List Char),
      Opens text first second rest ∧ verb.Matches first second := by
  unfold verbPhrase? at h
  obtain ⟨other, hv, -⟩ := Option.map_eq_some_iff.1 h
  obtain ⟨verb, matched⟩ := exists_matches hv
  obtain ⟨before, after, hb, ha, ht⟩ := exists_trim text
  have opens := (opens_of_words matched.nonempty.1 matched.nonempty.2).pad hb ha
  rw [← ht] at opens
  exact ⟨verb, _, _, _, opens, matched⟩

end Command

end SiteDesk
