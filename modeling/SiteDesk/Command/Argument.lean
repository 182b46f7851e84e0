import SiteDesk.Text.Blank
import SiteDesk.Text.Fold
import SiteDesk.Text.Word

/-!
Finding the parts of a command. A JSON argument starts at the first `key=` outside quotes that no
letter, digit or underscore precedes, and takes the rest of the text; a target is the first word;
an option is quoted or a bare word.
-/
namespace SiteDesk.Command

/-- Whether a key may start after a character: not inside a word. -/
def mayStartKey : Option Char → Bool
  | none => true
  | some c => !(Text.isAlphanumeric c || c = '_')

/-- The quote that is open after a character, given the one that was open before it and the
character before. A quote opens right after `=` and closes at the next one of its kind. -/
def quoteAfter (quote prev : Option Char) (c : Char) : Option Char :=
  match quote with
  | some opened => if c = opened then none else some opened
  | none => if (c = '"' || c = '\'') && prev = some '=' then some c else none

/-- What follows a key at the start of a text, outside quotes and at the start of a word. -/
def keyAt? (key : List Char) (quote prev : Option Char) (text : List Char) : Option (List Char) :=
  if quote.isNone && mayStartKey prev then Text.dropIgnoringCase? key text else none

/-- Splits a text at the first key: the text before it and the text after, if there is one. -/
def splitAtKey (key : List Char) : Option Char → Option Char → List Char →
    List Char × Option (List Char)
  | _, _, [] => ([], none)
  | quote, prev, c :: rest =>
    match keyAt? key quote prev (c :: rest) with
    | some after => ([], some after)
    | none =>
      let (before, after) := splitAtKey key (quoteAfter quote prev c) (some c) rest
      (c :: before, after)

/-- Splits off a JSON argument: the text before its key and the text after, if there is one. -/
def splitArgument (name : String) (text : List Char) : List Char × Option (List Char) :=
  splitAtKey (name.toList ++ ['=']) none none text

/-- Whether a word starts with ASCII letters and an equals sign. -/
def isArgument (word : List Char) : Bool :=
  (word.takeWhile Char.isAlpha).length ≠ 0 && (word.dropWhile Char.isAlpha).head? = some '='

/-- The target at the start of a text and what follows it; none if the text is blank or starts with
an argument. -/
def target? (text : List Char) : Option (List Char × List Char) :=
  let (word, rest) := Text.firstWord (Text.trimStart text)
  if word.isEmpty || isArgument word then none else some (word, rest)

def upTo? (quote : Char) : List Char → Option (List Char)
  | [] => none
  | c :: rest => if c = quote then some [] else (upTo? quote rest).map (c :: ·)

def quotation? (quote : Char) : List Char → Option (List Char)
  | [] => none
  | c :: rest => if c = quote then upTo? quote rest else none

/-- The word at the start of a text, at least one character long. -/
def bareValue? (text : List Char) : Option (List Char) :=
  let word := (Text.firstWord text).1
  if word.isEmpty then none else some word

/-- The value at the start of a text: in double quotes, in single quotes, or a bare word. -/
def optionValue? (text : List Char) : Option (List Char) :=
  quotation? '"' text <|> quotation? '\'' text <|> bareValue? text

def mayStartWord : Option Char → Bool
  | none => true
  | some c => !Text.isWordChar c

/-- The first value given under a key, which is matched under simple case folding. -/
def findOption? (key : List Char) : Option Char → List Char → Option (List Char)
  | _, [] => none
  | prev, c :: rest =>
    let here :=
      if mayStartWord prev then (Text.dropFolding? key (c :: rest)).bind optionValue? else none
    here <|> findOption? key (some c) rest

def option? (name : String) (text : List Char) : Option (List Char) :=
  findOption? (name.toList ++ ['=']) none text

end SiteDesk.Command
