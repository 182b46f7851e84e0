import SiteDesk.Proofs.PayloadShapes

/-!
Whether a JSON argument is read. The search for its key passes over quotations, which open right
after an equals sign and close at the next quote of their kind. A quotation that is never closed
goes on to the end of the text, and a key behind it is not found: the command is then accepted
as if the argument were not there.
-/
namespace SiteDesk.Command

open Text

variable {key text before after outer inner rest : List Char} {q : Char}
  {verb : Verb} {argument : JsonArgument}

/-- At the end of a text, a quote that stands after an equals sign has not come up again. -/
def IsOpen (q : Char) (text : List Char) : Prop :=
  (q = '"' ∨ q = '\'') ∧ ∃ outer inner, text = outer ++ '=' :: q :: inner ∧ q ∉ inner

/-- A place, given by the text before and behind it, is inside a quotation that is closed. -/
def Quoted (before rest : List Char) : Prop :=
  ∃ q, IsOpen q before ∧ q ∈ rest

/-- A quotation stands open before a place and is never closed. -/
def Unclosed (before rest : List Char) : Prop :=
  ∃ q, IsOpen q before ∧ q ∉ rest

theorem quoteOver_append (quote prev : Option Char) (text more : List Char) :
    quoteOver quote prev (text ++ more) =
      quoteOver (quoteOver quote prev text) (text.getLast?.or prev) more := by
  induction text generalizing quote prev with
  | nil => rfl
  | cons c text ih =>
    rw [List.cons_append, quoteOver, ih, getLast?_cons_or]
    rfl

theorem quoteOver_concat (text : List Char) (c : Char) : quoteOver none none (text ++ [c]) =
    quoteAfter (quoteOver none none text) text.getLast? c := by
  rw [quoteOver_append, Option.or_none]
  rfl

/-- The quote that the search for a key takes for open is that of an open quotation. -/
theorem isOpen_of_quoteOver (h : quoteOver none none before = some q) : IsOpen q before := by
  induction before using List.reverseRecOn with
  | nil => cases h
  | append_singleton before c ih =>
    rw [quoteOver_concat] at h
    cases hq : quoteOver none none before with
    | some opened =>
      simp only [hq, quoteAfter] at h
      split at h
      · cases h
      · next other =>
        obtain rfl : opened = q := Option.some.inj h
        obtain ⟨kind, outer, inner, rfl, unseen⟩ := ih hq
        refine ⟨kind, outer, inner ++ [c], by simp, ?_⟩
        simpa [unseen] using Ne.symm other
    | none =>
      simp only [hq, quoteAfter] at h
      split at h
      · next opens =>
        obtain rfl : c = q := Option.some.inj h
        simp only [Bool.and_eq_true, Bool.or_eq_true, decide_eq_true_eq] at opens
        obtain ⟨outer, rfl⟩ := List.getLast?_eq_some_iff.1 opens.2
        exact ⟨opens.1, outer, [], by simp, by simp⟩
      · cases h

def JsonArgument.given? (payload : Json.Members) : JsonArgument → Option Json
  | .components => Keyed.get? "layout" payload
  | .propsSchema => Keyed.get? "propsSchema" payload

/-- The value that stands for a JSON argument that is absent. -/
def JsonArgument.absent : JsonArgument → Option Json
  | .components => some (.array [])
  | .propsSchema => none

theorem given?_members (creates : verb.argument? = some argument) (target options : List Char)
    (value : Option Json) :
    argument.given? (verb.members target options value) = value.or argument.absent := by
  cases verb with
  | publishPage => cases creates
  | deletePage => cases creates
  | createPage =>
    obtain rfl : .components = argument := Option.some.inj creates
    cases value <;> rfl
  | createComponent =>
    obtain rfl : .propsSchema = argument := Option.some.inj creates
    simp only [JsonArgument.given?, Verb.members, List.append_assoc]
    rw [get?_optionalMember_append (by decide)]
    cases value <;> rfl

theorem parse_of_parts {text : String} {body head word options : List Char}
    {json : Option (List Char)} {value : Option Json}
    (phrase : verbPhrase? text.toList = some (verb, body)) (parts : verb.parts body = (head, json))
    (target : target? head = some (word, options)) (read : verb.read json = .ok value) :
    parse text = .ok ⟨verb.action, verb.members word options value, text⟩ := by
  unfold parse
  rw [phrase]
  dsimp only
  rw [payload_eq, parts]
  dsimp only
  rw [target]
  dsimp only
  rw [read]
  rfl

/-- A command with a JSON argument that is accepted was read as its verb and its parts. -/
theorem exists_parts_of_parse {text : String} {first second : List Char} {descriptor : Descriptor}
    (creates : verb.argument? = some argument) (opens : Opens text.toList first second rest)
    (matched : verb.Matches first second) (parsed : parse text = .ok descriptor) :
    ∃ value, readArgument? argument (splitArgument argument.name (trim rest)).2 = .ok value ∧
      argument.given? descriptor.payload = value.or argument.absent := by
  obtain ⟨found, same, parse_eq⟩ := parse_of_opens opens matched
  have creates' : found.argument? = some argument := (Verb.argument?_of_plain same).trans creates
  have parts : found.parts (trim rest) = splitArgument argument.name (trim rest) := by
    rw [Verb.parts, creates']
  have read : ∀ json, found.read json = readArgument? argument json := fun json => by
    rw [Verb.read, creates']
  rw [parsed, payload_eq, parts, read] at parse_eq
  cases ht : target? (splitArgument argument.name (trim rest)).1 with
  | none => simp [ht, Except.map] at parse_eq
  | some target =>
    cases hr : readArgument? argument (splitArgument argument.name (trim rest)).2 with
    | error error => simp [ht, hr, Except.map] at parse_eq
    | ok value =>
      simp only [ht, hr, Except.map, Except.ok.injEq] at parse_eq
      refine ⟨value, rfl, ?_⟩
      rw [parse_eq]
      exact given?_members creates' _ _ value

/-- If a command with a JSON argument is accepted, the argument is read from a key outside
quotations; or it is taken for absent, and then each key, wherever one may start, stands in a
quotation or behind one that is never closed. -/
theorem argument_read_or_quoted (text : String) (verb : Verb) (argument : JsonArgument)
    (creates : verb.argument? = some argument) (first second rest : List Char)
    (opens : Opens text.toList first second rest) (matched : verb.Matches first second)
    (descriptor : Descriptor) (parsed : parse text = .ok descriptor) :
    let key := argument.name.toList ++ ['=']
    (∃ before after written value, KeyBetween key none none (trim rest) before after ∧
      Holds after written ∧ Json.read written = .ok value ∧
      argument.given? descriptor.payload = some value) ∨
    argument.given? descriptor.payload = argument.absent ∧
      ∀ before found after, trim rest = before ++ (found ++ after) →
        sameIgnoringCase found key = true → mayStartKey before.getLast? = true →
        Quoted before (found ++ after) ∨ Unclosed before (found ++ after) := by
  intro key
  obtain ⟨value, read, given⟩ := exists_parts_of_parse creates opens matched parsed
  rcases hs : splitArgument argument.name (trim rest) with ⟨head, json⟩
  have first := splitArgument_eq_iff.1 hs
  rw [hs] at read
  rw [given]
  cases json with
  | some after =>
    left
    cases hr : readArgument argument after with
    | error error => simp [readArgument?, hr, Except.map] at read
    | ok found =>
      obtain rfl : some found = value := by simpa [readArgument?, hr, Except.map] using read
      obtain ⟨written, holds, read, -⟩ := readArgument_eq_ok_iff.1 hr
      exact ⟨head, after, written, found, first.1, holds, read, rfl⟩
  | none =>
    right
    obtain rfl : none = value := Except.ok.inj read
    refine ⟨rfl, fun before found after ht same start => ?_⟩
    have inQuotes : quoteOver none none before ≠ none := fun unquoted =>
      first.2 before after ⟨unquoted, by rwa [Option.or_none], found, ht, same⟩
    obtain ⟨q, hq⟩ := Option.ne_none_iff_exists'.1 inQuotes
    by_cases closed : q ∈ found ++ after
    · exact .inl ⟨q, isOpen_of_quoteOver hq, closed⟩
    · exact .inr ⟨q, isOpen_of_quoteOver hq, closed⟩

theorem argument_read_or_quoted_layout :
    let text := "create page /x components=[null]"
    let rest := " /x components=[null]".toList
    Opens text.toList "create".toList "page".toList rest ∧
      Verb.createPage.Matches "create".toList "page".toList ∧
      ∃ descriptor, parse text = .ok descriptor ∧
        ∃ before after written value,
          KeyBetween "components=".toList none none (trim rest) before after ∧
          Holds after written ∧ Json.read written = .ok value ∧
          JsonArgument.components.given? descriptor.payload = some value := by
  intro text rest
  have opens : Opens text.toList "create".toList "page".toList rest :=
    { split := ⟨⟨[], by simp⟩, ⟨[' '], by simp [isBlank]⟩, by decide +kernel⟩
      isWord := ⟨by simp, by simp [isBlank]⟩
      isWord' := ⟨by simp, by simp [isBlank]⟩
      stop := by simp [rest, Breaks, isBlank] }
  have matched : Verb.createPage.Matches "create".toList "page".toList :=
    ⟨by decide +kernel, by decide +kernel⟩
  have phrase : verbPhrase? text.toList = some (.createPage, "/x components=[null]".toList) := by
    decide +kernel
  have parts : Verb.createPage.parts "/x components=[null]".toList =
      ("/x ".toList, some "[null]".toList) := by
    decide +kernel
  have target : target? "/x ".toList = some ("/x".toList, " ".toList) := by decide +kernel
  have parsed := parse_of_parts phrase parts target
    (show Verb.createPage.read (some "[null]".toList) = .ok (some (.array [.null])) by rfl)
  refine ⟨opens, matched, _, parsed, ?_⟩
  rcases argument_read_or_quoted text .createPage .components rfl _ _ rest opens matched _ parsed
    with found | ⟨absent, -⟩
  · exact found
  · have given := given?_members (show Verb.createPage.argument? = some .components from rfl)
      "/x".toList " ".toList (some (.array [.null]))
    cases given.symm.trans absent

/-- Behind a title with a quote that is never closed, the layout is not read, and a page without
blocks comes of the command. -/
theorem unclosed_title_hides_layout :
    let text := "create page /x title='Team components=[null]"
    let before := "/x title='Team ".toList
    let after := "[null]".toList
    Opens text.toList "create".toList "page".toList
        (' ' :: before ++ ("components=".toList ++ after)) ∧
      mayStartKey before.getLast? = true ∧ ¬ Quoted before ("components=".toList ++ after) ∧
      Holds after after ∧ Json.read after = .ok (.array [.null]) ∧
      ∃ descriptor, parse text = .ok descriptor ∧
        JsonArgument.components.given? descriptor.payload = JsonArgument.components.absent := by
  intro text before after
  have opens : Opens text.toList "create".toList "page".toList
      (' ' :: before ++ ("components=".toList ++ after)) :=
    { split := ⟨⟨[], by simp⟩, ⟨[' '], by simp [isBlank]⟩, by decide +kernel⟩
      isWord := ⟨by simp, by simp [isBlank]⟩
      isWord' := ⟨by simp, by simp [isBlank]⟩
      stop := by simp [Breaks, isBlank] }
  have outside : ¬ Quoted before ("components=".toList ++ after) := by
    rintro ⟨q, ⟨rfl | rfl, outer, inner, ht, -⟩, hq⟩
    · have hm : '"' ∈ before := by simp [ht]
      exact absurd hm (by decide +kernel)
    · exact absurd hq (by decide +kernel)
  have phrase : verbPhrase? text.toList =
      some (.createPage, before ++ ("components=".toList ++ after)) := by
    decide +kernel
  have parts : Verb.createPage.parts (before ++ ("components=".toList ++ after)) =
      (before ++ ("components=".toList ++ after), none) := by
    decide +kernel
  have target : target? (before ++ ("components=".toList ++ after)) =
      some ("/x".toList, " title='Team components=[null]".toList) := by
    decide +kernel
  exact ⟨opens, by decide +kernel, outside, holds_iff.2 (by decide +kernel), by rfl, _,
    parse_of_parts phrase parts target rfl,
    given?_members (show Verb.createPage.argument? = some .components from rfl) _ _ none⟩

end SiteDesk.Command
