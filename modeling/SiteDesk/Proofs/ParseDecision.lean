import SiteDesk.Proofs.ArgumentBoundaries

/-!
What comes of parsing a text. A text is supported if its first two words match a verb. The verb and
the trimmed text after the words then decide, in this order, whether the target is missing, whether
the JSON argument can be read and whether its value has the right shape; nothing else is refused.
-/
namespace SiteDesk.Command

open Text

variable {text : String} {body head : List Char} {json : Option (List Char)} {error : SyntaxError}

def Verb.argument? : Verb → Option JsonArgument
  | .createPage => some .components
  | .createComponent => some .propsSchema
  | .publishPage | .deletePage => none

/-- What follows a verb falls into the part with the target and the JSON argument, if there is
one. -/
def Verb.Divides (verb : Verb) (body head : List Char) (json : Option (List Char)) : Prop :=
  match verb.argument? with
  | some argument => FirstKey (argument.name.toList ++ ['=']) none none body (head, json)
  | none => head = body ∧ json = none

/-- The values that a JSON argument may have. -/
def JsonArgument.Takes : JsonArgument → Json → Prop
  | .components, value => ∃ items, value = .array items
  | .propsSchema, value => ∃ members, value = .object members

@[simp] theorem JsonArgument.takes_iff {argument : JsonArgument} {value : Json} :
    argument.Takes value ↔ value.kind = argument.expected := by
  cases argument <;> cases value <;> simp [Takes, expected, Json.kind]

/-- A JSON argument holds a text: itself, trimmed, without one semicolon at its end. -/
def Holds (given text : List Char) : Prop :=
  (∃ kept, trim given = kept ++ [';'] ∧ text = trim kept) ∨
    (∀ kept, trim given ≠ kept ++ [';']) ∧ text = trim given

theorem jsonText_of_mark {given kept : List Char} (h : trim given = kept ++ [';']) :
    jsonText given = trim kept := by
  have dropped : jsonText given = trimEnd kept := by
    simp [jsonText, dropSemicolon, h]
  cases kept with
  | nil => exact dropped
  | cons c rest =>
    have first : (trim given).head? = some c := by rw [h]; rfl
    rw [dropped, trim, trimStart_of_starts ⟨c, rfl, isBlank_head_trim first⟩]

theorem jsonText_of_plain {given : List Char} (h : ∀ kept, trim given ≠ kept ++ [';']) :
    jsonText given = trim given := by
  have last : (trim given).getLast? ≠ some ';' := fun last =>
    h _ (List.dropLast_append_getLast? _ last).symm
  rw [jsonText, dropSemicolon, if_neg last, trimEnd_trim]

theorem holds_iff {given text : List Char} : Holds given text ↔ text = jsonText given := by
  constructor
  · rintro (⟨kept, h, rfl⟩ | ⟨plain, rfl⟩)
    · exact (jsonText_of_mark h).symm
    · exact (jsonText_of_plain plain).symm
  · rintro rfl
    by_cases plain : ∀ kept, trim given ≠ kept ++ [';']
    · exact .inr ⟨plain, jsonText_of_plain plain⟩
    · simp only [not_forall, not_not] at plain
      obtain ⟨kept, h⟩ := plain
      exact .inl ⟨kept, h, jsonText_of_mark h⟩

def Verb.parts (verb : Verb) (body : List Char) : List Char × Option (List Char) :=
  match verb.argument? with
  | some argument => splitArgument argument.name body
  | none => (body, none)

theorem Verb.divides_iff {verb : Verb} :
    verb.Divides body head json ↔ verb.parts body = (head, json) := by
  unfold Divides parts
  cases verb.argument? with
  | some argument => exact splitArgument_eq_iff.symm
  | none =>
    rw [Prod.mk.injEq]
    exact and_congr eq_comm eq_comm

def Verb.read (verb : Verb) (json : Option (List Char)) : Except SyntaxError (Option Json) :=
  match verb.argument? with
  | some argument => readArgument? argument json
  | none => .ok none

def Verb.members (verb : Verb) (target options : List Char) (value : Option Json) : Json.Members :=
  match verb with
  | .createPage =>
    ("layout", value.getD (.array [])) :: ("path", textValue target) ::
      optionalMember "title" ((option? "title" options).map textValue)
  | .createComponent =>
    optionalMember "displayName" ((option? "displayName" options).map textValue) ++
      optionalMember "propsSchema" value ++ [("type", textValue target)]
  | .publishPage | .deletePage => [("target", textValue target)]

/-- All verbs read their arguments in one way: first the target, then the JSON argument. -/
theorem payload_eq (verb : Verb) (body : List Char) :
    payload verb body =
      match target? (verb.parts body).1 with
      | none => .error (.missingTarget verb)
      | some (target, options) =>
        (verb.read (verb.parts body).2).map (verb.members target options) := by
  cases verb <;> rfl

theorem readArgument_eq_error_iff {argument : JsonArgument} {given : List Char} :
    readArgument argument given = .error error ↔
      (∃ written failure, Holds given written ∧ Json.read written = .error failure ∧
        error = .invalidJson argument (failure.message written)) ∨
      ∃ written value, Holds given written ∧ Json.read written = .ok value ∧
        ¬ argument.Takes value ∧ error = .wrongShape argument := by
  simp only [holds_iff, exists_and_left, exists_eq_left]
  unfold readArgument
  cases Json.read (jsonText given) with
  | error failure => simp [eq_comm]
  | ok value =>
    by_cases fits : value.kind = argument.expected
    · simp [fits, JsonArgument.takes_iff]
    · simp [fits, JsonArgument.takes_iff, eq_comm]

theorem readArgument_eq_ok_iff {argument : JsonArgument} {given : List Char} {value : Json} :
    readArgument argument given = .ok value ↔
      ∃ written, Holds given written ∧ Json.read written = .ok value ∧ argument.Takes value := by
  simp only [holds_iff, exists_eq_left]
  unfold readArgument
  rw [JsonArgument.takes_iff]
  cases Json.read (jsonText given) with
  | error failure => simp
  | ok found =>
    by_cases fits : found.kind = argument.expected
    · simp only [fits, if_true, Except.ok.injEq]
      constructor
      · rintro rfl
        exact ⟨rfl, fits⟩
      · exact And.left
    · simp only [fits, if_false, reduceCtorEq, Except.ok.injEq, false_iff, not_and]
      rintro rfl
      exact fits

theorem Verb.read_eq_error_iff {verb : Verb} :
    verb.read json = .error error ↔
      ∃ argument given, verb.argument? = some argument ∧ json = some given ∧
        readArgument argument given = .error error := by
  unfold read
  cases verb.argument? with
  | none => simp
  | some argument =>
    cases json with
    | none => simp [readArgument?]
    | some given =>
      cases h : readArgument argument given with
      | error other => simp [readArgument?, h, Except.map]
      | ok value => simp [readArgument?, h, Except.map]

theorem Verb.read_eq_ok_iff {verb : Verb} :
    (∃ value, verb.read json = .ok value) ↔
      ∀ argument given, verb.argument? = some argument → json = some given →
        ∃ value, readArgument argument given = .ok value := by
  unfold read
  cases verb.argument? with
  | none => simp
  | some argument =>
    cases json with
    | none => simp [readArgument?]
    | some given =>
      cases h : readArgument argument given with
      | error other => simp [readArgument?, h, Except.map]
      | ok value => simp [readArgument?, h, Except.map]

/-- A missing target comes first, whatever the JSON argument is. -/
theorem payload_eq_error_iff {verb : Verb} (h : verb.Divides body head json) :
    payload verb body = .error error ↔
      (Targetless head ∧ error = .missingTarget verb) ∨
      (¬ Targetless head ∧ verb.read json = .error error) := by
  rw [payload_eq, Verb.divides_iff.1 h, ← target?_eq_none_iff]
  cases target? head with
  | none => simp [eq_comm]
  | some found =>
    cases verb.read json with
    | error other => simp [Except.map]
    | ok value => simp [Except.map]

theorem payload_ne_unsupported (verb : Verb) (body : List Char) :
    payload verb body ≠ .error .unsupported := by
  intro h
  have divides : verb.Divides body (verb.parts body).1 (verb.parts body).2 :=
    Verb.divides_iff.2 rfl
  rcases (payload_eq_error_iff divides).1 h with ⟨-, he⟩ | ⟨-, hr⟩
  · cases he
  · obtain ⟨argument, given, -, -, hg⟩ := Verb.read_eq_error_iff.1 hr
    rcases readArgument_eq_error_iff.1 hg with ⟨_, _, -, -, he⟩ | ⟨_, _, -, -, -, he⟩
    · cases he
    · cases he

theorem payload_eq_ok_iff {verb : Verb} (h : verb.Divides body head json) :
    (∃ members, payload verb body = .ok members) ↔
      ¬ Targetless head ∧ ∃ value, verb.read json = .ok value := by
  rw [payload_eq, Verb.divides_iff.1 h, ← target?_eq_none_iff]
  cases target? head with
  | none => simp
  | some found =>
    cases verb.read json with
    | error other => simp [Except.map]
    | ok value => simp [Except.map]

def Action.plain : Action → Action
  | .deletePage => .publishPage
  | action => action

def SyntaxError.plain : SyntaxError → SyntaxError
  | .missingTarget verb => .missingTarget verb.plain
  | error => error

/-- The outcome of parsing without the text itself, and with no difference made between publishing
and deleting. -/
def gist : Except SyntaxError Descriptor → Except SyntaxError (Action × Json.Members)
  | .ok descriptor => .ok (descriptor.action.plain, descriptor.payload)
  | .error error => .error error.plain

/-- What decides on a text that opens with a verb, when the text after the verb is divided. -/
structure Decided (text : String) (verb : Verb) (head : List Char) (json : Option (List Char)) :
    Prop where
  missingTarget : (∃ found, parse text = .error (.missingTarget found)) ↔ Targetless head
  invalidJson : ∀ argument reason, parse text = .error (.invalidJson argument reason) ↔
    ¬ Targetless head ∧ ∃ given written failure, verb.argument? = some argument ∧
      json = some given ∧ Holds given written ∧ Json.read written = .error failure ∧
        reason = failure.message written
  wrongShape : ∀ argument, parse text = .error (.wrongShape argument) ↔
    ¬ Targetless head ∧ ∃ given written value, verb.argument? = some argument ∧
      json = some given ∧ Holds given written ∧ Json.read written = .ok value ∧
        ¬ argument.Takes value
  accepted : (∃ descriptor, parse text = .ok descriptor) ↔
    ¬ Targetless head ∧ ∀ argument given, verb.argument? = some argument → json = some given →
      ∃ written value, Holds given written ∧ Json.read written = .ok value ∧ argument.Takes value

theorem Verb.argument?_of_plain {verb found : Verb} (h : found.plain = verb.plain) :
    found.argument? = verb.argument? := by
  cases verb <;> cases found <;> first | rfl | cases h

theorem parse_of_opens {verb : Verb} {first second rest : List Char}
    (opens : Opens text.toList first second rest) (matched : verb.Matches first second) :
    ∃ found : Verb, found.plain = verb.plain ∧ parse text =
      (payload found (trim rest)).map fun members => ⟨found.action, members, text⟩ := by
  obtain ⟨found, hv, same⟩ := matched.verb?_eq
  refine ⟨found, same, ?_⟩
  unfold parse
  rw [opens.verbPhrase?_eq, hv]
  rfl

/-- But for the verb that a missing target is reported with, publishing and deleting are parsed
alike. -/
theorem gist_payload (verb : Verb) (body : List Char) (text : String) :
    gist ((payload verb body).map fun members => ⟨verb.action, members, text⟩) =
      ((payload verb.plain body).mapError SyntaxError.plain).map
        fun members => (verb.plain.action, members) := by
  cases verb with
  | createPage => cases h : payload .createPage body <;> simp only [Verb.plain, h] <;> rfl
  | createComponent =>
    cases h : payload .createComponent body <;> simp only [Verb.plain, h] <;> rfl
  | publishPage => cases h : payload .publishPage body <;> simp only [Verb.plain, h] <;> rfl
  | deletePage =>
    cases h : target? body <;> simp only [Verb.plain, payload, targetPayload, h] <;> rfl

@[simp] theorem map_eq_error_iff {α β : Type} {f : α → β} {x : Except SyntaxError α} :
    x.map f = .error error ↔ x = .error error := by
  cases x <;> simp [Except.map]

@[simp] theorem exists_map_eq_ok_iff {α β : Type} {f : α → β} {x : Except SyntaxError α} :
    (∃ result, x.map f = .ok result) ↔ ∃ result, x = .ok result := by
  cases x <;> simp [Except.map]

inductive Cause (verb : Verb) (head : List Char) (json : Option (List Char)) : SyntaxError → Prop
  | target (targetless : Targetless head) : Cause verb head json (.missingTarget verb)
  | json {argument : JsonArgument} {given written : List Char} {failure : Json.ReadError}
      (target : ¬ Targetless head) (takes : verb.argument? = some argument)
      (present : json = some given) (holds : Holds given written)
      (unread : Json.read written = .error failure) :
      Cause verb head json (.invalidJson argument (failure.message written))
  | shape {argument : JsonArgument} {given written : List Char} {value : Json}
      (target : ¬ Targetless head) (takes : verb.argument? = some argument)
      (present : json = some given) (holds : Holds given written)
      (read : Json.read written = .ok value) (unfit : ¬ argument.Takes value) :
      Cause verb head json (.wrongShape argument)

theorem payload_eq_error_iff_cause {verb : Verb} (divides : verb.Divides body head json) :
    payload verb body = .error error ↔ Cause verb head json error := by
  rw [payload_eq_error_iff divides, Verb.read_eq_error_iff]
  constructor
  · rintro (⟨targetless, rfl⟩ | ⟨target, argument, given, takes, present, refused⟩)
    · exact .target targetless
    · rcases readArgument_eq_error_iff.1 refused with
        ⟨written, failure, holds, unread, rfl⟩ | ⟨written, value, holds, read, unfit, rfl⟩
      · exact .json target takes present holds unread
      · exact .shape target takes present holds read unfit
  · intro cause
    cases cause with
    | target targetless => exact .inl ⟨targetless, rfl⟩
    | json target takes present holds unread =>
      exact .inr ⟨target, _, _, takes, present,
        readArgument_eq_error_iff.2 (.inl ⟨_, _, holds, unread, rfl⟩)⟩
    | shape target takes present holds read unfit =>
      exact .inr ⟨target, _, _, takes, present,
        readArgument_eq_error_iff.2 (.inr ⟨_, _, holds, read, unfit, rfl⟩)⟩

theorem Verb.Divides.of_plain {verb found : Verb} (same : found.plain = verb.plain)
    (divides : verb.Divides body head json) : found.Divides body head json := by
  unfold Verb.Divides at divides ⊢
  rwa [Verb.argument?_of_plain same]

theorem decided_of_divides {verb found : Verb} (same : found.plain = verb.plain)
    (divides : verb.Divides body head json)
    (parsed : parse text =
      (payload found body).map fun members => ⟨found.action, members, text⟩) :
    Decided text verb head json := by
  have argument := Verb.argument?_of_plain same
  have refused (error : SyntaxError) :
      parse text = .error error ↔ Cause found head json error := by
    rw [parsed, map_eq_error_iff, payload_eq_error_iff_cause (divides.of_plain same)]
  constructor
  case missingTarget =>
    constructor
    · rintro ⟨other, failed⟩
      cases (refused _).1 failed with
      | target targetless => exact targetless
    · exact fun targetless => ⟨found, (refused _).2 (.target targetless)⟩
  case invalidJson =>
    intro expected reason
    rw [refused, ← argument]
    constructor
    · intro cause
      cases cause with
      | json target takes present holds unread =>
        exact ⟨target, _, _, _, takes, present, holds, unread, rfl⟩
    · rintro ⟨target, given, written, failure, takes, present, holds, unread, rfl⟩
      exact .json target takes present holds unread
  case wrongShape =>
    intro expected
    rw [refused, ← argument]
    constructor
    · intro cause
      cases cause with
      | shape target takes present holds read unfit =>
        exact ⟨target, _, _, _, takes, present, holds, read, unfit⟩
    · rintro ⟨target, given, written, value, takes, present, holds, read, unfit⟩
      exact .shape target takes present holds read unfit
  case accepted =>
    rw [parsed, exists_map_eq_ok_iff, payload_eq_ok_iff (divides.of_plain same),
      Verb.read_eq_ok_iff, argument]
    simp only [readArgument_eq_ok_iff, exists_comm (α := Json)]

/-- A text is supported exactly if it opens with two words that match a verb. What comes of it then
is settled, up to the choice between publishing and deleting, by the verb and the trimmed text after
the words: the target is looked for first, then the JSON argument is read, then its shape is
checked. -/
theorem parse_decided (text : String) :
    (parse text = .error .unsupported ↔
      ∀ (verb : Verb) (first second rest : List Char),
        Opens text.toList first second rest → ¬ verb.Matches first second) ∧
    ∀ (verb : Verb) (first second rest : List Char), Opens text.toList first second rest →
      verb.Matches first second →
      (∀ (other : String) (first' second' rest' : List Char),
        Opens other.toList first' second' rest' → verb.Matches first' second' →
        trim rest' = trim rest → gist (parse other) = gist (parse text)) ∧
      ∃ head json, verb.Divides (trim rest) head json ∧ Decided text verb head json := by
  refine ⟨⟨?_, ?_⟩, ?_⟩
  · intro unsupported verb first second rest opens matched
    obtain ⟨found, -, parsed⟩ := parse_of_opens opens matched
    rw [parsed, map_eq_error_iff] at unsupported
    exact payload_ne_unsupported found _ unsupported
  · intro unmatched
    have none : verbPhrase? text.toList = none := by
      by_contra some
      obtain ⟨⟨found, body⟩, hv⟩ := Option.ne_none_iff_exists'.1 some
      obtain ⟨verb, first, second, rest, opens, matched⟩ := exists_opens hv
      exact unmatched verb first second rest opens matched
    unfold parse
    rw [none]
  · intro verb first second rest opens matched
    obtain ⟨found, same, parsed⟩ := parse_of_opens opens matched
    refine ⟨?_, ?_⟩
    · intro other first' second' rest' opens' matched' trimmed
      obtain ⟨found', same', parsed'⟩ := parse_of_opens opens' matched'
      rw [parsed, parsed', gist_payload, gist_payload, same, same', trimmed]
    · have divides : verb.Divides (trim rest) (verb.parts (trim rest)).1
          (verb.parts (trim rest)).2 := Verb.divides_iff.2 rfl
      exact ⟨_, _, divides, decided_of_divides same divides parsed⟩

/-- Where the target is missing, it does not matter that the JSON argument is cut short. A long s in
the first word makes no difference either, but that a deletion comes of it. -/
theorem parse_decided_order :
    let page := " Create\tPAGE title=x components=["
    let long := "publi\u017Fh page /a"
    let short := "Publish page  /a "
    (Opens page.toList "Create".toList "PAGE".toList " title=x components=[".toList ∧
      Verb.createPage.Matches "Create".toList "PAGE".toList ∧
      ∃ found, parse page = .error (.missingTarget found)) ∧
    (Opens long.toList "publi\u017Fh".toList "page".toList " /a".toList ∧
      Opens short.toList "Publish".toList "page".toList "  /a ".toList ∧
      Verb.publishPage.Matches "publi\u017Fh".toList "page".toList ∧
      Verb.publishPage.Matches "Publish".toList "page".toList ∧
      gist (parse short) = gist (parse long)) := by
  intro page long short
  have opens : Opens page.toList "Create".toList "PAGE".toList " title=x components=[".toList :=
    { split := ⟨⟨[' '], by simp [isBlank]⟩, ⟨['\t'], by simp [isBlank]⟩, by decide +kernel⟩
      isWord := ⟨by simp, by simp [isBlank]⟩
      isWord' := ⟨by simp, by simp [isBlank]⟩
      stop := by simp [Breaks, isBlank] }
  have opensLong : Opens long.toList "publi\u017Fh".toList "page".toList " /a".toList :=
    { split := ⟨⟨[], by simp⟩, ⟨[' '], by simp [isBlank]⟩, by decide +kernel⟩
      isWord := ⟨by simp, by simp [isBlank]⟩
      isWord' := ⟨by simp, by simp [isBlank]⟩
      stop := by simp [Breaks, isBlank] }
  have opensShort : Opens short.toList "Publish".toList "page".toList "  /a ".toList :=
    { split := ⟨⟨[], by simp⟩, ⟨[' '], by simp [isBlank]⟩, by decide +kernel⟩
      isWord := ⟨by simp, by simp [isBlank]⟩
      isWord' := ⟨by simp, by simp [isBlank]⟩
      stop := by simp [Breaks, isBlank] }
  have matched : Verb.createPage.Matches "Create".toList "PAGE".toList :=
    ⟨by decide +kernel, by decide +kernel⟩
  have matchedLong : Verb.publishPage.Matches "publi\u017Fh".toList "page".toList :=
    ⟨by decide +kernel, by decide +kernel⟩
  have matchedShort : Verb.publishPage.Matches "Publish".toList "page".toList :=
    ⟨by decide +kernel, by decide +kernel⟩
  obtain ⟨head, json, divides, decided⟩ :=
    ((parse_decided page).2 .createPage _ _ _ opens matched).2
  have parts : Verb.createPage.parts (trim " title=x components=[".toList) =
      ("title=x ".toList, some ['[']) := by
    decide +kernel
  obtain rfl : "title=x ".toList = head :=
    congrArg Prod.fst (parts.symm.trans (Verb.divides_iff.1 divides))
  have targetless : Targetless "title=x ".toList :=
    Or.inr ⟨⟨[], by simp⟩, "title".toList, "x ".toList, by decide +kernel, by simp, by simp⟩
  exact ⟨⟨opens, matched, decided.missingTarget.2 targetless⟩, opensLong, opensShort, matchedLong,
    matchedShort, ((parse_decided long).2 .publishPage _ _ _ opensLong matchedLong).1 short _ _ _
      opensShort matchedShort (by decide +kernel)⟩

end SiteDesk.Command
