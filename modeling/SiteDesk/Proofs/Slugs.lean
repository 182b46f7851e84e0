import SiteDesk.Proofs.ParsedCommands

/-!
Slugs and the blanks in a path. A slug has no slash and is never empty, and it is in normal form,
with no blanks around it and its own slug, except where blanks stand beside the slashes around a
path: these slashes are dropped after the path is trimmed, and the blanks that they leave bare stay.
With nothing but blanks between them the slug is blank, and so is the title of a page that is made
without one. Paths in command texts have no blanks.
-/
namespace SiteDesk

namespace Text

variable {text : List Char} {c : Char}

theorem trimmed_iff : Trimmed text ↔ Starts text ∧ Ends text := by
  constructor
  · rintro ⟨filled, same⟩
    rw [← same] at filled ⊢
    exact ⟨starts_trim filled, ends_trim filled⟩
  · rintro ⟨starts, ends⟩
    refine ⟨?_, trim_of_starts_of_ends starts ends⟩
    rintro rfl
    obtain ⟨c, hc, -⟩ := starts
    cases hc

theorem trim_eq_nil_iff : trim text = [] ↔ ∀ c ∈ text, isBlank c = true := by
  constructor
  · intro empty
    obtain ⟨before, after, hb, ha, split⟩ := exists_trim text
    rw [split, empty, List.nil_append]
    exact fun c hc => (List.mem_append.1 hc).elim (hb c) (ha c)
  · intro blank
    rw [trim, trimStart_of_blank blank]
    rfl

theorem ne_slash_of_isBlank (h : isBlank c = true) : c ≠ '/' := by
  rintro rfl
  exact absurd h (by decide)

end Text

open Text

variable {text before middle after : List Char} {path : String} {c : Char}

/-- A text without slashes at its ends. -/
structure Bare (text : List Char) : Prop where
  head : ∀ c, text.head? = some c → c ≠ '/'
  last : ∀ c, text.getLast? = some c → c ≠ '/'

theorem Bare.reverse (h : Bare text) : Bare text.reverse where
  head c hc := h.last c (by rwa [← List.head?_reverse])
  last c hc := h.head c (by rwa [← List.getLast?_reverse])

theorem bare_of_not_mem (h : '/' ∉ text) : Bare text where
  head _ hc slash := h (slash ▸ List.mem_of_head? hc)
  last _ hc slash := h (slash ▸ List.mem_of_getLast? hc)

theorem Bare.dropWhile_append (bare : Bare text) (filled : text ≠ []) (rest : List Char) :
    (text ++ rest).dropWhile (· = '/') = text ++ rest := by
  obtain ⟨c, tail, rfl⟩ := List.exists_cons_of_ne_nil filled
  exact List.dropWhile_cons_of_neg (by simpa using bare.head c rfl)

theorem stripSlashes_append (hb : ∀ c ∈ before, c = '/') (ha : ∀ c ∈ after, c = '/')
    (bare : Bare middle) : stripSlashes (before ++ (middle ++ after)) = middle := by
  unfold stripSlashes
  rw [List.dropWhile_append_of_pos (by simpa using hb)]
  by_cases filled : middle = []
  · rw [filled, List.nil_append,
      List.dropWhile_eq_nil_iff.2 fun c hc => decide_eq_true (ha c hc)]
    rfl
  · have ends := bare.reverse.dropWhile_append (by simpa using filled) []
    rw [List.append_nil] at ends
    rw [bare.dropWhile_append filled, List.reverse_append,
      List.dropWhile_append_of_pos (by simpa using ha), ends, List.reverse_reverse]

theorem exists_stripSlashes (text : List Char) :
    ∃ before after, (∀ c ∈ before, c = '/') ∧ (∀ c ∈ after, c = '/') ∧
      Bare (stripSlashes text) ∧ text = before ++ (stripSlashes text ++ after) := by
  have started := List.head?_dropWhile_not (· = '/') text
  have ended := List.head?_dropWhile_not (· = '/') (text.dropWhile (· = '/')).reverse
  have split : text.dropWhile (· = '/') =
      stripSlashes text ++ (text.dropWhile (· = '/')).rtakeWhile (· = '/') :=
    List.rdropWhile_append_rtakeWhile.symm
  refine ⟨text.takeWhile (· = '/'), (text.dropWhile (· = '/')).rtakeWhile (· = '/'),
    fun c hc => by simpa using List.mem_takeWhile_imp hc,
    fun c hc => by simpa using List.mem_rtakeWhile_imp hc, ⟨?_, ?_⟩, ?_⟩
  · intro c hc
    rw [split, List.head?_append, hc] at started
    simpa using started
  · intro c hc
    rw [stripSlashes, List.getLast?_reverse] at hc
    rw [hc] at ended
    simpa using ended
  · rw [← split, List.takeWhile_append_dropWhile]

@[simp] theorem stripSlashes_of_not_mem (h : '/' ∉ text) : stripSlashes text = text := by
  simpa using stripSlashes_append (List.forall_mem_nil _) (List.forall_mem_nil _)
    (bare_of_not_mem h)

/-- The first character between the slashes is the first that is no slash. -/
theorem find?_between (hb : ∀ c ∈ before, c = '/') (ha : ∀ c ∈ after, c = '/')
    (bare : Bare middle) : (before ++ (middle ++ after)).find? (· ≠ '/') = middle.head? := by
  have none : ∀ slashes : List Char, (∀ c ∈ slashes, c = '/') →
      slashes.find? (· ≠ '/') = none := by
    simp +contextual
  rw [List.find?_append, none before hb, Option.none_or, List.find?_append, none after ha,
    Option.or_none]
  cases middle with
  | nil => rfl
  | cons c rest => exact List.find?_cons_of_pos (by simpa using bare.head c rfl)

@[simp] theorem head?_stripSlashes (text : List Char) :
    (stripSlashes text).head? = text.find? (· ≠ '/') := by
  obtain ⟨before, after, hb, ha, bare, split⟩ := exists_stripSlashes text
  conv_rhs => rw [split]
  exact (find?_between hb ha bare).symm

@[simp] theorem getLast?_stripSlashes (text : List Char) :
    (stripSlashes text).getLast? = text.reverse.find? (· ≠ '/') := by
  obtain ⟨before, after, hb, ha, bare, split⟩ := exists_stripSlashes text
  conv_rhs => rw [split, List.reverse_append, List.reverse_append, List.append_assoc]
  rw [find?_between (by simpa using ha) (by simpa using hb) bare.reverse, List.head?_reverse]

@[simp] theorem isBlank_hyphen (c : Char) : isBlank (if c = '/' then '-' else c) = isBlank c := by
  split
  · next slash => rw [slash]; decide
  · rfl

@[simp] theorem hyphenate_of_not_mem (h : '/' ∉ text) : hyphenate text = text := by
  have same : ∀ c ∈ text, (if c = '/' then '-' else c) = id c :=
    fun c hc => if_neg fun slash : c = '/' => h (slash ▸ hc)
  rw [hyphenate, List.map_congr_left same, List.map_id]

@[simp] theorem starts_hyphenate_iff : Starts (hyphenate text) ↔ Starts text := by
  unfold Starts hyphenate
  simp [isBlank_hyphen]

@[simp] theorem ends_hyphenate_iff : Ends (hyphenate text) ↔ Ends text := by
  unfold Ends hyphenate
  simp [isBlank_hyphen]

@[simp] theorem trim_hyphenate_eq_nil_iff : trim (hyphenate text) = [] ↔ trim text = [] := by
  rw [trim_eq_nil_iff, trim_eq_nil_iff]
  unfold hyphenate
  simp [isBlank_hyphen]

/-- What stands between the slashes around a path. -/
def innerPath (path : String) : List Char :=
  stripSlashes (trim path.toList)

/-- A slug is made of what the slashes around a path leave, if they leave anything. -/
theorem slug_of_filled (filled : innerPath path ≠ []) :
    slug path = String.ofList (hyphenate (innerPath path)) := by
  unfold slug
  unfold innerPath at *
  dsimp only
  rw [if_neg, if_neg]
  · simpa [hyphenate] using filled
  · intro root
    exact filled (by rw [root]; rfl)

theorem slug_of_empty (empty : innerPath path = []) : slug path = "home" ∨ slug path = "page" := by
  unfold slug
  unfold innerPath at empty
  dsimp only
  split
  · exact .inl rfl
  · exact .inr (by rw [empty]; rfl)

theorem trimmed_slug_of_empty (empty : innerPath path = []) : Trimmed (slug path).toList := by
  rcases slug_of_empty empty with named | named
  · rw [named]
    exact ⟨by decide, by decide⟩
  · rw [named]
    exact ⟨by decide, by decide⟩

theorem slug_of_not_mem (h : '/' ∉ path.toList) (filled : trim path.toList ≠ []) :
    slug path = String.ofList (trim path.toList) := by
  have clear : '/' ∉ trim path.toList := by
    obtain ⟨before, after, -, -, split⟩ := exists_trim path.toList
    rw [split, List.mem_append, List.mem_append, not_or, not_or] at h
    exact h.2.1
  have same : innerPath path = trim path.toList := stripSlashes_of_not_mem clear
  rw [slug_of_filled (by rwa [same]), same, hyphenate_of_not_mem clear]

theorem slash_not_mem_slug (path : String) : '/' ∉ (slug path).toList := by
  by_cases empty : innerPath path = []
  · rcases slug_of_empty empty with named | named <;> rw [named] <;> decide
  · rw [slug_of_filled empty, String.toList_ofList]
    exact slash_not_mem_hyphenate _

theorem slug_ne_empty (path : String) : slug path ≠ "" := by
  by_cases empty : innerPath path = []
  · rcases slug_of_empty empty with named | named <;> rw [named] <;> decide
  · rw [slug_of_filled empty]
    simpa [hyphenate] using empty

theorem slug_eq_self_iff (h : '/' ∉ path.toList) : slug path = path ↔ Trimmed path.toList := by
  constructor
  · intro same
    by_cases blank : trim path.toList = []
    · rw [← same]
      exact trimmed_slug_of_empty (by rw [innerPath, blank]; rfl)
    · rw [← same, slug_of_not_mem h blank, String.toList_ofList]
      exact trimmed_trim blank
  · intro trimmed
    have kept := trimmed.trim_eq
    rw [slug_of_not_mem h (by rw [kept]; exact trimmed.nonempty), kept, String.ofList_toList]

/-- Past the slashes at one end of a trimmed path there is a blank. -/
def Gapped (path : String) : Prop :=
  ∃ slashes c rest, (∀ d ∈ slashes, d = '/') ∧ isBlank c = true ∧
    (trim path.toList = slashes ++ c :: rest ∨ trim path.toList = rest ++ c :: slashes)

/-- Between the slashes around a trimmed path there are blanks and nothing else. -/
def Hollow (path : String) : Prop :=
  ∃ before blanks after, (∀ c ∈ before, c = '/') ∧ (∀ c ∈ after, c = '/') ∧ blanks ≠ [] ∧
    (∀ c ∈ blanks, isBlank c = true) ∧ trim path.toList = before ++ (blanks ++ after)

theorem find?_eq_blank_iff (h : isBlank c = true) :
    text.find? (· ≠ '/') = some c ↔
      ∃ slashes rest, (∀ d ∈ slashes, d = '/') ∧ text = slashes ++ c :: rest := by
  rw [List.find?_eq_some_iff_append]
  simp [ne_slash_of_isBlank h, and_comm]

theorem gapped_iff :
    Gapped path ↔ ∃ c, isBlank c = true ∧
      ((innerPath path).head? = some c ∨ (innerPath path).getLast? = some c) := by
  simp only [innerPath, head?_stripSlashes, getLast?_stripSlashes]
  constructor
  · rintro ⟨slashes, c, rest, hs, blank, first | last⟩
    · exact ⟨c, blank, .inl ((find?_eq_blank_iff blank).2 ⟨slashes, rest, hs, first⟩)⟩
    · refine ⟨c, blank, .inr ((find?_eq_blank_iff blank).2 ⟨slashes.reverse, rest.reverse, ?_, ?_⟩)⟩
      · simpa using hs
      · simp [last]
  · rintro ⟨c, blank, first | last⟩
    · obtain ⟨slashes, rest, hs, split⟩ := (find?_eq_blank_iff blank).1 first
      exact ⟨slashes, c, rest, hs, blank, .inl split⟩
    · obtain ⟨slashes, rest, hs, split⟩ := (find?_eq_blank_iff blank).1 last
      refine ⟨slashes.reverse, c, rest.reverse, by simpa using hs, blank, .inr ?_⟩
      rw [← List.reverse_inj, split]
      simp

theorem hollow_iff :
    Hollow path ↔ innerPath path ≠ [] ∧ ∀ c ∈ innerPath path, isBlank c = true := by
  constructor
  · rintro ⟨before, blanks, after, hb, ha, filled, blank, split⟩
    have bare : Bare blanks := bare_of_not_mem fun slash => ne_slash_of_isBlank (blank _ slash) rfl
    rw [innerPath, split, stripSlashes_append hb ha bare]
    exact ⟨filled, blank⟩
  · rintro ⟨filled, blank⟩
    obtain ⟨before, after, hb, ha, -, split⟩ := exists_stripSlashes (trim path.toList)
    exact ⟨before, _, after, hb, ha, filled, blank, split⟩

theorem trimmed_slug_iff : Trimmed (slug path).toList ↔ ¬ Gapped path := by
  rw [gapped_iff]
  by_cases empty : innerPath path = []
  · refine iff_of_true (trimmed_slug_of_empty empty) ?_
    rw [empty]
    simp
  · rw [slug_of_filled empty, String.toList_ofList, trimmed_iff, starts_hyphenate_iff,
      ends_hyphenate_iff]
    have first := List.head?_eq_some_head empty
    have last := List.getLast?_eq_some_getLast empty
    simp only [Starts, Ends, first, last, Option.some.injEq, exists_eq_left']
    constructor
    · rintro ⟨starts, ends⟩ ⟨c, blank, rfl | rfl⟩
      · exact absurd blank (by simp [starts])
      · exact absurd blank (by simp [ends])
    · exact fun clear => ⟨Bool.eq_false_of_not_eq_true fun blank => clear ⟨_, blank, .inl rfl⟩,
        Bool.eq_false_of_not_eq_true fun blank => clear ⟨_, blank, .inr rfl⟩⟩

/-- A slug is its own slug exactly if it has no blanks around it. -/
theorem slug_slug_iff : slug (slug path) = slug path ↔ ¬ Gapped path :=
  (slug_eq_self_iff (slash_not_mem_slug path)).trans trimmed_slug_iff

theorem blank_slug_iff : trim (slug path).toList = [] ↔ Hollow path := by
  rw [hollow_iff]
  by_cases empty : innerPath path = []
  · have trimmed := trimmed_slug_of_empty empty
    rw [trimmed.trim_eq]
    exact iff_of_false trimmed.nonempty fun h => h.1 empty
  · rw [slug_of_filled empty, String.toList_ofList, trim_hyphenate_eq_nil_iff, trim_eq_nil_iff]
    exact (and_iff_right empty).symm

theorem Hollow.gapped (h : Hollow path) : Gapped path := by
  by_contra normal
  have trimmed := trimmed_slug_iff.2 normal
  have blank := blank_slug_iff.2 h
  rw [trimmed.trim_eq] at blank
  exact trimmed.nonempty blank

theorem not_gapped_of_isWord (h : IsWord path.toList) : ¬ Gapped path := by
  rintro ⟨slashes, c, rest, -, blank, split⟩
  rw [(trimmed_of_word h.nonempty h.unbroken).trim_eq] at split
  have mem : c ∈ path.toList := by
    rcases split with split | split <;> rw [split] <;> simp
  rw [h.unbroken c mem] at blank
  cases blank

namespace Command

theorem isWord_of_targetOf? {text target : String} (h : targetOf? text = some target) :
    IsWord target.toList := by
  obtain ⟨⟨verb, body⟩, -, found⟩ := Option.bind_eq_some_iff.1 h
  obtain ⟨⟨word, options⟩, ht, rfl⟩ := Option.map_eq_some_iff.1 found
  rw [String.toList_ofList]
  exact isWord_of_target? ht

end Command

namespace Desk

open SiteDesk.Command

variable {config : Config} {stamp : Stamp} {actor : Option String} {submission : Submission}
  {descriptor : Descriptor} {desk : Desk} {record : Page}

/-- A page that is created has the slug of its path, and the title that it is given or else its
slug. -/
theorem created_page (known : submission.descriptor? = .ok descriptor)
    (action : descriptor.action = .createPage)
    (created : (desk.serve config stamp actor submission).1 = .ok (.page record)) :
    text? "path" descriptor.payload = some record.path ∧ record.slug = slug record.path ∧
      record.title = (text? "title" descriptor.payload).getD (slug record.path) := by
  rcases serve_effect config stamp actor submission desk with
    ⟨failure, unknown, -⟩ | ⟨served, outcome, after, hd, effect, hs⟩
  · rw [known] at unknown
    cases unknown
  · rw [known] at hd
    cases hd
    rw [hs] at created
    cases effect with
    | pageCreated path raws layout definitions page pages _ _ _ stored named =>
      cases created
      obtain ⟨rfl, -⟩ := PageStore.create_ok stored
      exact ⟨named, rfl, rfl⟩
    | pagePublished page record pages published => rw [action] at published; cases published
    | failed | pageDeleted | componentCreated | contactsListed | contactMarked => cases created

/-- The title of a page that is created is blank exactly if none is given and there is nothing but
blanks between the slashes around the path. -/
theorem blank_title_iff (known : submission.descriptor? = .ok descriptor)
    (action : descriptor.action = .createPage)
    (created : (desk.serve config stamp actor submission).1 = .ok (.page record)) :
    trim record.title.toList = [] ↔
      text? "title" descriptor.payload = none ∧ Hollow record.path := by
  obtain ⟨-, -, titled⟩ := created_page known action created
  rw [titled]
  cases given : text? "title" descriptor.payload with
  | none => simpa using blank_slug_iff
  | some title =>
    have trimmed := trimmed_of_text? given
    simpa [trimmed.trim_eq] using trimmed.nonempty

theorem isWord_path_of_text {text : String}
    (known : (Submission.text text).descriptor? = .ok descriptor)
    (action : descriptor.action = .createPage)
    (created : (desk.serve config stamp actor (.text text)).1 = .ok (.page record)) :
    IsWord record.path.toList := by
  obtain ⟨named, -⟩ := created_page known action created
  obtain ⟨target, ht, trimmed, workable⟩ := workable_of_parse (mapError_eq_ok.1 known)
  rw [Descriptor.Workable, action] at workable
  rw [text?_of_trimmed workable.1 trimmed, Option.some.injEq] at named
  exact named ▸ isWord_of_targetOf? ht

/-- A slug has no slash and is not empty. It has no blanks around it, and is its own slug, exactly
if no blanks stand beside the slashes around the path, and it is blank exactly if there is nothing
else between these. A page gets the slug of its path, and a blank title exactly if it is given none
and the slug is blank; from a command text it never gets one. -/
theorem slug_normal_unless_gapped (path : String) :
    '/' ∉ (slug path).toList ∧ slug path ≠ "" ∧
    (Trimmed (slug path).toList ↔ ¬ Gapped path) ∧
    (slug (slug path) = slug path ↔ ¬ Gapped path) ∧
    (trim (slug path).toList = [] ↔ Hollow path) ∧ (Hollow path → Gapped path) ∧
    ∀ config stamp actor submission descriptor desk record,
      submission.descriptor? = .ok descriptor → descriptor.action = .createPage →
      (Desk.serve config stamp actor submission desk).1 = .ok (.page record) →
      record.path = path →
      record.slug = slug path ∧
        (text? "title" descriptor.payload = none → record.title = slug path) ∧
        (trim record.title.toList = [] ↔
          text? "title" descriptor.payload = none ∧ Hollow path) ∧
        ∀ text, submission = .text text → ¬ Gapped path ∧ trim record.title.toList ≠ [] := by
  refine ⟨slash_not_mem_slug path, slug_ne_empty path, trimmed_slug_iff, slug_slug_iff,
    blank_slug_iff, Hollow.gapped, ?_⟩
  rintro config stamp actor submission descriptor desk record known action created rfl
  obtain ⟨-, slugged, titled⟩ := created_page known action created
  have blank := blank_title_iff known action created
  refine ⟨slugged, ?_, blank, ?_⟩
  · intro untitled
    rw [titled, untitled, Option.getD_none]
  · rintro text rfl
    have normal := not_gapped_of_isWord (isWord_path_of_text known action created)
    exact ⟨normal, fun h => normal (blank.1 h).2.gapped⟩

/-- A blank inside a path does no harm. -/
theorem slug_normal_unless_gapped_inside :
    let submission : Submission := .request
      ⟨"create_page", [("layout", .array []), ("path", .string "/about us/team/")], none⟩
    ¬ Gapped "/about us/team/" ∧ ∃ record,
      (Desk.serve {} ⟨Nat.repr, default⟩ none submission (Desk.empty {})).1 = .ok (.page record) ∧
        record.title = "about us-team" ∧ trim record.title.toList ≠ [] := by
  intro submission
  obtain ⟨-, -, normal, -, -, gapped, pages⟩ := slug_normal_unless_gapped "/about us/team/"
  have clear := normal.1 ⟨by decide, by decide⟩
  obtain ⟨-, -, blank, -⟩ :=
    pages {} ⟨Nat.repr, default⟩ none submission _ (Desk.empty {}) _ rfl rfl rfl rfl
  exact ⟨clear, _, rfl, rfl, fun h => clear (gapped (blank.1 h).2)⟩

/-- Slashes around a blank leave a blank slug, which becomes the title of the page, and a blank
after the first slash is left bare, so that the slug is not its own slug. -/
theorem blank_slug_titles_page :
    slug "/ /" = " " ∧ slug "/ a" = " a" ∧ slug " a" = "a" ∧ ∃ record,
      (Desk.serve {} ⟨Nat.repr, default⟩ none
        (.request ⟨"create_page", [("layout", .array []), ("path", .string "/ /")], none⟩)
        (Desk.empty {})).1 = .ok (.page record) ∧ record.slug = " " ∧ record.title = " " :=
  ⟨by rfl, by rfl, by rfl, _, rfl, by rfl, by rfl⟩

end Desk

end SiteDesk
