import SiteDesk.Proofs.ArgumentScanning

/-!
Commands that create a record, written out and read back. Blanks may be of any number between the
parts, the words of the grammar in any case, and a title may be quoted or bare; the arguments come
back as they were, whatever keys the title and the JSON text may hold.
-/
namespace SiteDesk.Command

open Text

inductive Creation where
  | page
  | component

namespace Creation

def noun : Creation → String
  | .page => "page"
  | .component => "component"

def verb : Creation → Verb
  | .page => .createPage
  | .component => .createComponent

def option : Creation → String
  | .page => "title"
  | .component => "displayName"

def argument : Creation → JsonArgument
  | .page => .components
  | .component => .propsSchema

def key (creation : Creation) : List Char :=
  creation.argument.name.toList ++ ['=']

def brackets : Creation → Char × Char
  | .page => ('[', ']')
  | .component => ('{', '}')

end Creation

abbrev Blanks := { text : List Char // ∀ c ∈ text, isBlank c = true }

abbrev Gap := { text : List Char // text ≠ [] ∧ ∀ c ∈ text, isBlank c = true }

/-- A word with its ASCII letters in any case. -/
abbrev AnyCase (word : String) := { text : List Char // sameIgnoringCase text word.toList = true }

inductive Quoting where
  | double
  | single
  | bare

namespace Quoting

def write : Quoting → List Char → List Char
  | .double, value => '"' :: (value ++ ['"'])
  | .single, value => '\'' :: (value ++ ['\''])
  | .bare, value => value

/-- Whether a value can be written in a way, where a key may follow. -/
def Fits (key : List Char) : Quoting → List Char → Prop
  | .double, value => '"' ∉ value
  | .single, value => '\'' ∉ value
  | .bare, value =>
    value ≠ [] ∧ (∀ c ∈ value, isBlank c = false) ∧ '"' ∉ value ∧ '\'' ∉ value ∧ NoKey key value

end Quoting

/-- A word that names a page or a component type: it does not look like an argument, and neither a
quotation nor the JSON argument starts in it. -/
structure IsTarget (key target : List Char) : Prop where
  nonempty : target ≠ []
  unbroken : ∀ c ∈ target, isBlank c = false
  notArgument : ∀ letters rest, target = letters ++ '=' :: rest → letters ≠ [] →
    ∃ c ∈ letters, c.isAlpha = false
  noQuotation : ∀ before c after, target = before ++ '=' :: c :: after → c ≠ '"' ∧ c ≠ '\''
  noKey : NoKey key target

variable {creation : Creation}

structure WrittenOption (creation : Creation) where
  gap : Gap
  name : AnyCase creation.option
  quoting : Quoting
  value : List Char
  fits : quoting.Fits creation.key value

def WrittenOption.text (part : WrittenOption creation) : List Char :=
  part.gap.1 ++ ((part.name.1 ++ ['=']) ++ part.quoting.write part.value)

structure WrittenArgument (creation : Creation) where
  gap : Gap
  name : AnyCase creation.argument.name
  margin : Blanks
  json : List Char
  value : Json
  opens : json.head? = some creation.brackets.1
  closes : json.getLast? = some creation.brackets.2
  reads : Json.read json = .ok value
  kind : value.kind = creation.argument.expected
  /-- The blanks before a semicolon at the end, if there is one. -/
  semicolon : Option Blanks

namespace WrittenArgument

def ending (part : WrittenArgument creation) : List Char :=
  match part.semicolon with
  | none => []
  | some blanks => blanks.1 ++ [';']

def rest (part : WrittenArgument creation) : List Char :=
  part.margin.1 ++ (part.json ++ part.ending)

def text (part : WrittenArgument creation) : List Char :=
  part.gap.1 ++ ((part.name.1 ++ ['=']) ++ part.rest)

end WrittenArgument

/-- A command that creates a record, as it may be written. -/
structure Written (creation : Creation) where
  before : Blanks
  create : AnyCase "create"
  gap : Gap
  noun : AnyCase creation.noun
  gap' : Gap
  target : List Char
  isTarget : IsTarget creation.key target
  option : Option (WrittenOption creation)
  argument : Option (WrittenArgument creation)
  after : Blanks

namespace Written

def options (command : Written creation) : List Char :=
  match command.option with
  | none => []
  | some part => part.text

def arguments (command : Written creation) : List Char :=
  match command.argument with
  | none => []
  | some part => part.text

def body (command : Written creation) : List Char :=
  command.target ++ (command.options ++ command.arguments)

def text (command : Written creation) : List Char :=
  command.before.1 ++ (command.create.1 ++ (command.gap.1 ++ (command.noun.1 ++
    (command.gap'.1 ++ command.body)))) ++ command.after.1

end Written

theorem breaks_nil : Breaks [] := by
  intro c hc
  cases hc

theorem Gap.breaks (gap : Gap) (rest : List Char) : Breaks (gap.1 ++ rest) := by
  obtain ⟨blanks, hne, hb⟩ := gap
  cases blanks with
  | nil => exact absurd rfl hne
  | cons d blanks =>
    intro c hc
    obtain rfl : d = c := by simpa using hc
    exact hb d (by simp)

theorem Gap.last (gap : Gap) (prev : Option Char) :
    ∃ c, gap.1.getLast?.or prev = some c ∧ isBlank c = true := by
  obtain ⟨blanks, hne, hb⟩ := gap
  exact ⟨blanks.getLast hne, by simp [List.getLast?_eq_getLast_of_ne_nil hne],
    hb _ (List.getLast_mem hne)⟩

theorem AnyCase.ne_nil {word : String} (text : AnyCase word) (h : word.toList ≠ []) :
    text.1 ≠ [] := by
  have length := length_of_sameIgnoringCase text.2
  intro he
  rw [he] at length
  exact h (List.length_eq_zero_iff.1 length.symm)

theorem AnyCase.unbroken {word : String} (text : AnyCase word)
    (letters : ∀ c ∈ word.toList, c.isAlpha = true) : ∀ c ∈ text.1, isBlank c = false :=
  fun c hc => isBlank_of_isAlpha (isAlpha_of_sameIgnoringCase text.2 letters c hc)

theorem AnyCase.equals {word : String} (text : AnyCase word) :
    sameIgnoringCase (text.1 ++ ['=']) (word.toList ++ ['=']) = true := by
  rw [sameIgnoringCase_iff, List.map_append, List.map_append, sameIgnoringCase_iff.1 text.2]

namespace Creation

theorem letters_create : ∀ c ∈ "create".toList, c.isAlpha = true :=
  List.all_eq_true.1 (by decide +kernel)

theorem letters_noun (creation : Creation) : ∀ c ∈ creation.noun.toList, c.isAlpha = true :=
  List.all_eq_true.1 (by cases creation <;> decide +kernel)

theorem letters_option (creation : Creation) : ∀ c ∈ creation.option.toList, c.isAlpha = true :=
  List.all_eq_true.1 (by cases creation <;> decide +kernel)

theorem noun_ne_nil (creation : Creation) : creation.noun.toList ≠ [] := by
  cases creation <;> simp [noun]

theorem option_ne_nil (creation : Creation) : creation.option.toList ≠ [] := by
  cases creation <;> simp [option]

theorem key_eq (creation : Creation) : ∃ first tail, creation.key = first :: tail ∧
    first.isAlpha = true ∧ ∀ c ∈ creation.option.toList.head?, c.toLower ≠ first.toLower := by
  cases creation with
  | page => exact ⟨'c', _, rfl, by decide, by simp [option]⟩
  | component => exact ⟨'p', _, rfl, by decide, by simp [option]⟩

theorem isKey (creation : Creation) : IsKey creation.key := by
  obtain ⟨first, tail, hk, hf, -⟩ := creation.key_eq
  have unbroken : creation.key.all (fun c => !isBlank c) = true := by
    cases creation <;> decide +kernel
  exact ⟨⟨first, tail, hk, hf⟩, by simpa using unbroken⟩

theorem verb?_eq (creation : Creation) (create : AnyCase "create") (noun : AnyCase creation.noun) :
    verb? create.1 noun.1 = some creation.verb := by
  have hc := map_fold_of_sameIgnoringCase create.2 letters_create
  have hn := map_fold_of_sameIgnoringCase noun.2 creation.letters_noun
  unfold verb? foldsTo
  rw [hc, hn]
  cases creation with
  | page => rw [if_pos (by decide +kernel)]; rfl
  | component =>
    rw [if_neg (by decide +kernel), if_neg (by decide +kernel), if_pos (by decide +kernel)]
    rfl

end Creation

namespace WrittenOption

variable (part : WrittenOption creation)

theorem breaks (rest : List Char) : Breaks (part.text ++ rest) := by
  unfold text
  rw [List.append_assoc]
  exact part.gap.breaks _

theorem skips_value {rest : List Char} (hb : Breaks rest) :
    Skips creation.key (some '=') (part.quoting.write part.value) rest := by
  have fits := part.fits
  cases hq : part.quoting <;> rw [hq] at fits
  · exact skips_quotation creation.isKey (Or.inl rfl) fits
  · exact skips_quotation creation.isKey (Or.inr rfl) fits
  · obtain ⟨-, -, double, single, noKey⟩ := fits
    refine skips_word creation.isKey noKey hb ?_
    rintro before c after hv (rfl | rfl)
    · have hm : '"' ∈ part.value := by
        rw [show part.value = before ++ '"' :: after from hv]
        simp
      exact absurd hm double
    · have hm : '\'' ∈ part.value := by
        rw [show part.value = before ++ '\'' :: after from hv]
        simp
      exact absurd hm single

theorem skips {prev : Option Char} {rest : List Char} (hb : Breaks rest) :
    Skips creation.key prev part.text rest := by
  obtain ⟨first, tail, hk, -, differs⟩ := creation.key_eq
  have alpha := isAlpha_of_sameIgnoringCase part.name.2 creation.letters_option
  have head : ∀ c, part.name.1.head? = some c → c.toLower ≠ first.toLower := by
    intro c hc
    have lower : (creation.option.toList.head?).map Char.toLower = some c.toLower := by
      rw [← List.head?_map, ← sameIgnoringCase_iff.1 part.name.2, List.head?_map, hc]
      rfl
    obtain ⟨d, hd, he⟩ := Option.map_eq_some_iff.1 lower
    rw [← he]
    exact differs d hd
  have named : ∀ prev rest, Skips creation.key prev (part.name.1 ++ ['=']) rest := by
    intro prev rest
    rw [hk]
    exact skips_name alpha head (part.name.ne_nil creation.option_ne_nil)
  refine (skips_blanks creation.isKey part.gap.2.2).append ((named _ _).append ?_)
  simpa using part.skips_value hb

theorem optionValue?_value {rest : List Char} (hb : Breaks rest) :
    optionValue? (part.quoting.write part.value ++ rest) = some part.value := by
  have fits := part.fits
  cases hq : part.quoting <;> rw [hq] at fits
  · simpa [Quoting.write] using optionValue?_double fits rest
  · simpa [Quoting.write] using optionValue?_single fits rest
  · obtain ⟨hne, unbroken, double, single, -⟩ := fits
    exact optionValue?_bare hne unbroken double single hb

theorem ends : Ends part.text := by
  have value : Ends (part.quoting.write part.value) := by
    have fits := part.fits
    cases hq : part.quoting <;> rw [hq] at fits
    · exact ends_concat (by decide) ('"' :: part.value)
    · exact ends_concat (by decide) ('\'' :: part.value)
    · exact ends_of_word fits.1 fits.2.1
  exact (value.append _).append _

end WrittenOption

namespace WrittenArgument

variable (part : WrittenArgument creation)

theorem ending_blank_or_semicolon : part.ending = [] ∨
    ∃ blanks : Blanks, part.ending = blanks.1 ++ [';'] := by
  unfold ending
  cases part.semicolon with
  | none => exact Or.inl rfl
  | some blanks => exact Or.inr ⟨blanks, rfl⟩

theorem json_starts : Starts part.json := by
  refine ⟨_, part.opens, ?_⟩
  cases creation <;> decide

theorem json_ends : Ends part.json := by
  refine ⟨_, part.closes, ?_⟩
  cases creation <;> decide

/-- What is read is the JSON text, without the blanks around it and without the semicolon. -/
theorem jsonText_rest : jsonText part.rest = part.json := by
  have last : part.json.getLast? ≠ some ';' := by
    rw [part.closes]
    cases creation <;> decide
  have noBlanks : ∀ c ∈ ([] : List Char), isBlank c = true := by simp
  unfold jsonText rest
  rcases part.ending_blank_or_semicolon with he | ⟨blanks, he⟩ <;> rw [he]
  · have trimmed := trim_append part.json_starts part.json_ends part.margin.2 noBlanks
    rw [List.append_nil] at trimmed ⊢
    rw [trimmed, dropSemicolon, if_neg last, trimEnd_of_ends part.json_ends]
  · have semicolon : Ends (blanks.1 ++ [';']) := ends_concat (by decide) _
    have trimmed := trim_append (part.json_starts.append (blanks.1 ++ [';']))
      (semicolon.append part.json) part.margin.2 noBlanks
    rw [List.append_nil] at trimmed
    rw [trimmed, dropSemicolon, if_pos (by simp), ← List.append_assoc, List.dropLast_concat,
      trimEnd_append blanks.2, trimEnd_of_ends part.json_ends]

@[simp] theorem readArgument_rest : readArgument creation.argument part.rest = .ok part.value := by
  unfold readArgument
  rw [part.jsonText_rest, part.reads]
  simp [part.kind]

theorem breaks : Breaks part.text :=
  part.gap.breaks _

theorem ends : Ends part.text := by
  have rest : Ends part.rest := by
    unfold rest
    rcases part.ending_blank_or_semicolon with he | ⟨blanks, he⟩ <;> rw [he]
    · rw [List.append_nil]
      exact part.json_ends.append _
    · have semicolon : Ends (blanks.1 ++ [';']) := ends_concat (by decide) _
      exact (semicolon.append _).append _
  exact (rest.append _).append _

theorem splitAtKey_text (prev : Option Char) :
    splitAtKey creation.key none prev part.text = (part.gap.1, some part.rest) := by
  obtain ⟨c, hc, blank⟩ := part.gap.last prev
  have gap : Skips creation.key prev part.gap.1 ((part.name.1 ++ ['=']) ++ part.rest) :=
    skips_blanks creation.isKey part.gap.2.2
  unfold Skips at gap
  have found : splitAtKey creation.key none (some c) ((part.name.1 ++ ['=']) ++ part.rest) =
      ([], some part.rest) :=
    splitAtKey_found part.name.equals (by simp) (mayStartKey_of_isBlank blank) part.rest
  unfold text
  rw [gap, hc, found, List.append_nil]

end WrittenArgument

theorem IsTarget.target?_append {key target rest : List Char} (h : IsTarget key target)
    (hb : Breaks rest) : target? (target ++ rest) = some (target, rest) := by
  have starts := (starts_of_word h.nonempty h.unbroken).append rest
  have word := firstWord_append_of_breaks h.unbroken hb
  have named : isArgument target = false := by
    by_contra argument
    simp only [isArgument, Bool.not_eq_false, Bool.and_eq_true, decide_eq_true_eq,
      List.head?_eq_some_iff] at argument
    obtain ⟨hne, tail, ht⟩ := argument
    have parts : target = target.takeWhile Char.isAlpha ++ '=' :: tail := by
      rw [← ht, List.takeWhile_append_dropWhile]
    obtain ⟨c, hc, hn⟩ := h.notArgument _ tail parts (by simpa using hne)
    rw [List.mem_takeWhile_imp hc] at hn
    cases hn
  unfold target?
  rw [trimStart_of_starts starts, word]
  simp [h.nonempty, named]

theorem noKey_of_no_equals {text : List Char} (h : '=' ∉ text) : NoKey creation.key text := by
  intro before found after ht hs
  have lower : '=' ∈ found.map Char.toLower := by
    rw [sameIgnoringCase_iff.1 hs]
    exact List.mem_map.2 ⟨'=', by simp [Creation.key], rfl⟩
  obtain ⟨c, hc, he⟩ := List.mem_map.1 lower
  have other : ¬ c.isUpper := by
    intro upper
    have alpha : c.toLower.isAlpha = true := by simp [Char.isAlpha, upper]
    rw [he] at alpha
    revert alpha
    decide
  rw [Char.toLower_eq_of_not_isUpper other] at he
  subst he
  exact absurd (by simp [ht, hc]) h

theorem isTarget_of_no_equals {target : List Char} (hne : target ≠ [])
    (unbroken : ∀ c ∈ target, isBlank c = false) (h : '=' ∉ target) :
    IsTarget creation.key target where
  nonempty := hne
  unbroken := unbroken
  notArgument letters rest ht _ := absurd (by simp [ht]) h
  noQuotation before c after ht := absurd (by simp [ht]) h
  noKey := noKey_of_no_equals h

theorem IsTarget.skips {target rest : List Char} (h : IsTarget creation.key target)
    (hb : Breaks rest) : Skips creation.key none target rest := by
  refine skips_word creation.isKey h.noKey hb ?_
  intro before c after ht hq hlast
  obtain ⟨front, rfl⟩ : ∃ front, before = front ++ ['='] := by
    rwa [Option.or_none, List.getLast?_eq_some_iff] at hlast
  have closed := h.noQuotation front c after (by simpa using ht)
  rcases hq with hd | hs
  · exact closed.1 hd
  · exact closed.2 hs

namespace Written

variable (command : Written creation)

def margin (command : Written creation) : List Char :=
  match command.argument with
  | none => []
  | some part => part.gap.1

theorem margin_blank : ∀ c ∈ command.margin, isBlank c = true := by
  unfold margin
  cases command.argument with
  | none => simp
  | some part => exact part.gap.2.2

theorem breaks_margin : Breaks command.margin := by
  unfold margin
  cases command.argument with
  | none => exact breaks_nil
  | some part => simpa using part.gap.breaks []

theorem breaks_arguments : Breaks command.arguments := by
  unfold arguments
  cases command.argument with
  | none => exact breaks_nil
  | some part => exact part.breaks

theorem breaks_options {rest : List Char} (hb : Breaks rest) :
    Breaks (command.options ++ rest) := by
  unfold options
  cases command.option with
  | none => exact hb
  | some part => exact part.breaks rest

theorem skips_options {prev : Option Char} {rest : List Char} (hb : Breaks rest) :
    Skips creation.key prev command.options rest := by
  unfold options
  cases command.option with
  | none => simp [Skips]
  | some part => exact part.skips hb

theorem splitAtKey_arguments (prev : Option Char) :
    splitAtKey creation.key none prev command.arguments =
      (command.margin, command.argument.map WrittenArgument.rest) := by
  unfold arguments margin
  cases command.argument with
  | none => rfl
  | some part => exact part.splitAtKey_text prev

theorem splitArgument_body : splitArgument creation.argument.name command.body =
    (command.target ++ (command.options ++ command.margin),
      command.argument.map WrittenArgument.rest) := by
  have target : Skips creation.key none command.target (command.options ++ command.arguments) :=
    command.isTarget.skips (command.breaks_options command.breaks_arguments)
  have skipped := target.append (command.skips_options command.breaks_arguments)
  unfold Skips at skipped
  rw [List.append_assoc, splitAtKey_arguments, List.append_assoc] at skipped
  exact skipped

theorem target?_head : target? (command.target ++ (command.options ++ command.margin)) =
    some (command.target, command.options ++ command.margin) :=
  command.isTarget.target?_append (command.breaks_options command.breaks_margin)

theorem option?_options : option? creation.option (command.options ++ command.margin) =
    command.option.map WrittenOption.value := by
  have letter : ∃ c tail, creation.option.toList ++ ['='] = c :: tail ∧ c.isAlpha = true := by
    have letters := creation.letters_option
    cases hl : creation.option.toList with
    | nil => exact absurd hl creation.option_ne_nil
    | cons c tail => exact ⟨c, tail ++ ['='], rfl, letters c (by simp [hl])⟩
  unfold option? options
  cases command.option with
  | none => exact findOption?_blanks letter command.margin_blank none
  | some part =>
    have named : (part.name.1 ++ ['=']).map fold = (creation.option.toList ++ ['=']).map fold := by
      rw [List.map_append, List.map_append,
        map_fold_of_sameIgnoringCase part.name.2 creation.letters_option]
    obtain ⟨c, hc, blank⟩ := part.gap.last none
    dsimp only
    unfold WrittenOption.text
    rw [List.append_assoc, List.append_assoc, findOption?_append_blanks letter part.gap.2.2, hc,
      findOption?_found named (by simp) (mayStartWord_of_isBlank blank)
        (part.optionValue?_value command.breaks_margin)]
    rfl

theorem readArgument?_rest :
    readArgument? creation.argument (command.argument.map WrittenArgument.rest) =
      .ok (command.argument.map WrittenArgument.value) := by
  cases command.argument with
  | none => rfl
  | some part =>
    simp only [Option.map_some, readArgument?, part.readArgument_rest]
    rfl

theorem ends_body : Ends command.body := by
  unfold body
  cases ha : command.argument with
  | some part =>
    have arguments : Ends command.arguments := by
      simpa only [arguments, ha] using part.ends
    exact (arguments.append _).append _
  | none =>
    have arguments : command.arguments = [] := by simp only [arguments, ha]
    rw [arguments, List.append_nil]
    cases ho : command.option with
    | some part =>
      have options : Ends command.options := by
        simpa only [options, ho] using part.ends
      exact options.append _
    | none =>
      have options : command.options = [] := by simp only [options, ho]
      rw [options, List.append_nil]
      exact ends_of_word command.isTarget.nonempty command.isTarget.unbroken

theorem starts_body : Starts command.body :=
  (starts_of_word command.isTarget.nonempty command.isTarget.unbroken).append _

theorem verbPhrase?_text : verbPhrase? command.text = some (creation.verb, command.body) := by
  have create := command.create.unbroken Creation.letters_create
  have noun := command.noun.unbroken creation.letters_noun
  have startsCreate := starts_of_word (command.create.ne_nil (by simp)) create
  have startsNoun := starts_of_word (command.noun.ne_nil creation.noun_ne_nil) noun
  have ends := ((((command.ends_body.append command.gap'.1).append command.noun.1).append
    command.gap.1).append command.create.1)
  have whole := trim_append (startsCreate.append _) ends command.before.2 command.after.2
  have noBlanks : ∀ c ∈ ([] : List Char), isBlank c = true := by simp
  have rest := trim_append command.starts_body command.ends_body command.gap'.2.2 noBlanks
  rw [List.append_nil] at rest
  unfold verbPhrase? text
  rw [whole, firstWord_append_of_breaks create (command.gap.breaks _)]
  dsimp only
  rw [trimStart_append command.gap.2.2, trimStart_of_starts (startsNoun.append _),
    firstWord_append_of_breaks noun (command.gap'.breaks _)]
  dsimp only
  rw [creation.verb?_eq, rest]
  rfl

end Written

/-- A page is asked for with its path, its title if there is one, and its layout, which is empty if
there is none; a component type with its name, its display name if there is one, and its schema if
there is one. Nothing else comes out, and the command itself is kept. -/
theorem written_commands_read_back :
    (∀ command : Written .page,
      parse (String.ofList command.text) = .ok ⟨.createPage,
        ("layout", (command.argument.map WrittenArgument.value).getD (.array [])) ::
          ("path", textValue command.target) ::
          optionalMember "title" (command.option.map fun part => textValue part.value),
        String.ofList command.text⟩) ∧
    ∀ command : Written .component,
      parse (String.ofList command.text) = .ok ⟨.createComponent,
        optionalMember "displayName" (command.option.map fun part => textValue part.value) ++
          optionalMember "propsSchema" (command.argument.map WrittenArgument.value) ++
          [("type", textValue command.target)],
        String.ofList command.text⟩ := by
  refine ⟨?_, ?_⟩
  · intro command
    have split : splitArgument JsonArgument.components.name command.body = _ :=
      command.splitArgument_body
    have option : option? "title" (command.options ++ command.margin) = _ := command.option?_options
    have argument : readArgument? .components (command.argument.map WrittenArgument.rest) = _ :=
      command.readArgument?_rest
    unfold parse
    rw [String.toList_ofList, command.verbPhrase?_text]
    simp only [Creation.verb, payload, pagePayload, split, command.target?_head, option, argument,
      Option.map_map]
    rfl
  · intro command
    have split : splitArgument JsonArgument.propsSchema.name command.body = _ :=
      command.splitArgument_body
    have option : option? "displayName" (command.options ++ command.margin) = _ :=
      command.option?_options
    have argument : readArgument? .propsSchema (command.argument.map WrittenArgument.rest) = _ :=
      command.readArgument?_rest
    unfold parse
    rw [String.toList_ofList, command.verbPhrase?_text]
    simp only [Creation.verb, payload, componentPayload, split, command.target?_head, option,
      argument, Option.map_map]
    rfl

/-- A title that mentions the key of the layout, words in capitals, and a semicolon at the end. -/
theorem written_commands_read_back_page :
    let text := " CREATE  Page /a TITLE=\"Add components=here\" Components= [\"title=x\"] ;\n"
    parse text = .ok ⟨.createPage, [("layout", .array [.string "title=x"]), ("path", .string "/a"),
      ("title", .string "Add components=here")], text⟩ := by
  intro text
  let blank : Blanks := ⟨[' '], by simp [isBlank]⟩
  let gap : Gap := ⟨[' '], by simp [isBlank]⟩
  let title : WrittenOption .page :=
    { gap
      name := ⟨"TITLE".toList, by decide +kernel⟩
      quoting := .double
      value := "Add components=here".toList
      fits := by simp [Quoting.Fits] }
  let layout : WrittenArgument .page :=
    { gap
      name := ⟨"Components".toList, by decide +kernel⟩
      margin := blank
      json := "[\"title=x\"]".toList
      value := .array [.string "title=x"]
      opens := rfl
      closes := rfl
      reads := by rfl
      kind := rfl
      semicolon := some blank }
  let command : Written .page :=
    { before := blank
      create := ⟨"CREATE".toList, by decide +kernel⟩
      gap := ⟨[' ', ' '], by simp [isBlank]⟩
      noun := ⟨"Page".toList, by decide +kernel⟩
      gap' := gap
      target := ['/', 'a']
      isTarget := isTarget_of_no_equals (by simp) (by simp [isBlank]) (by simp)
      option := some title
      argument := some layout
      after := ⟨['\n'], by simp [isBlank]⟩ }
  have written : String.ofList command.text = text := by
    decide +kernel
  have read := written_commands_read_back.1 command
  rw [written] at read
  exact read

end SiteDesk.Command
