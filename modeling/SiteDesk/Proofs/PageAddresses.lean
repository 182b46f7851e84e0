import SiteDesk.Proofs.PathIndex
import SiteDesk.Proofs.PayloadTexts
import SiteDesk.Proofs.Sessions

/-!
How stored pages are addressed. After any session a page answers to its id, and to its path unless
the path has the form of an id: what looks like an id is looked up as one. It makes no difference
whether ids are ever given out twice, since a page that gives way to another is not stored any
longer.
-/
namespace SiteDesk

open SiteDesk.Command

namespace PageStore

variable {store pages : PageStore} {id : String} {now : Timestamp} {actor : Option String}

/-- Each stored page is kept under its own id, which has the form of an id, and its path is a
trimmed text that leads back to it. -/
structure Indexed (store : PageStore) : Prop where
  known : ∀ id page, store.findById id = some page → page.id = id
  formed : ∀ id page, store.findById id = some page → isId id = true
  path : ∀ id page, store.findById id = some page → store.paths[page.path]? = some id
  trimmed : ∀ id page, store.findById id = some page → Text.Trimmed page.path.toList

theorem indexed_empty : Indexed {} where
  known id page h := by simp at h
  formed id page h := by simp at h
  path id page h := by simp at h
  trimmed id page h := by simp at h

theorem Indexed.create (h : Indexed store) (formed : isId id = true) {page : NewPage}
    (trimmed : Text.Trimmed page.path.toList) {record : Page}
    (hc : store.create id now actor page = .ok (record, pages)) : Indexed pages := by
  obtain ⟨hr, hf⟩ := create_ok hc
  obtain ⟨free, hp⟩ := create_ok_paths hc
  have kept : ∀ other found, pages.findById other = some found →
      (id = other ∧ record = found) ∨ store.findById other = some found := by
    intro other found ho
    rw [hf] at ho
    split at ho
    · next he => exact Or.inl ⟨he, Option.some.inj ho⟩
    · exact Or.inr ho
  constructor
  case known =>
    intro other found ho
    rcases kept other found ho with ⟨rfl, rfl⟩ | hs
    · rw [hr]; rfl
    · exact h.known other found hs
  case formed =>
    intro other found ho
    rcases kept other found ho with ⟨rfl, rfl⟩ | hs
    · exact formed
    · exact h.formed other found hs
  case path =>
    intro other found ho
    rw [hp]
    rcases kept other found ho with ⟨rfl, rfl⟩ | hs
    · rw [hr]
      exact if_pos rfl
    · have taken := h.path other found hs
      have hne : page.path ≠ found.path := by
        intro he
        rw [← he, free] at taken
        cases taken
      rw [if_neg hne, taken]
  case trimmed =>
    intro other found ho
    rcases kept other found ho with ⟨rfl, rfl⟩ | hs
    · rw [hr]
      exact trimmed
    · exact h.trimmed other found hs

theorem Indexed.publish (h : Indexed store) {record : Page}
    (hp : store.publish now actor id = .ok (record, pages)) : Indexed pages := by
  obtain ⟨page, hs, hr, hf⟩ := publish_ok hp
  have kept : ∀ other found, pages.findById other = some found →
      ∃ old, store.findById other = some old ∧ old.id = found.id ∧ old.path = found.path := by
    intro other found ho
    rw [hf] at ho
    split at ho
    · next he =>
      subst he
      rw [Option.some.injEq] at ho
      subst ho
      exact ⟨page, hs, by rw [hr]; rfl, by rw [hr]; rfl⟩
    · exact ⟨found, ho, rfl, rfl⟩
  constructor
  case known =>
    intro other found ho
    obtain ⟨old, hold, hid, -⟩ := kept other found ho
    rw [← hid]
    exact h.known other old hold
  case formed =>
    intro other found ho
    obtain ⟨old, hold, -⟩ := kept other found ho
    exact h.formed other old hold
  case path =>
    intro other found ho
    obtain ⟨old, hold, -, hpath⟩ := kept other found ho
    rw [publish_ok_paths hp, ← hpath]
    exact h.path other old hold
  case trimmed =>
    intro other found ho
    obtain ⟨old, hold, -, hpath⟩ := kept other found ho
    rw [← hpath]
    exact h.trimmed other old hold

theorem Indexed.delete (h : Indexed store) (hd : store.delete id = .ok pages) :
    Indexed pages := by
  obtain ⟨page, hs, hf⟩ := delete_ok hd
  have hp := delete_ok_paths hs hd
  have kept : ∀ other found, pages.findById other = some found →
      id ≠ other ∧ store.findById other = some found := by
    intro other found ho
    rw [hf] at ho
    split at ho
    · cases ho
    · next hne => exact ⟨hne, ho⟩
  constructor
  case known =>
    intro other found ho
    exact h.known other found (kept other found ho).2
  case formed =>
    intro other found ho
    exact h.formed other found (kept other found ho).2
  case path =>
    intro other found ho
    obtain ⟨hne, hold⟩ := kept other found ho
    -- a path leads to one id, so the path that is freed is not that of another page
    have differs : page.path ≠ found.path := by
      intro he
      have here := h.path id page hs
      rw [he, h.path other found hold, Option.some.injEq] at here
      exact hne here.symm
    rw [hp, if_neg differs]
    exact h.path other found hold
  case trimmed =>
    intro other found ho
    exact h.trimmed other found (kept other found ho).2

theorem Indexed.find_id (h : Indexed store) {page : Page} (hs : store.findById id = some page) :
    store.find (.ofText page.id) = some page := by
  have hid := h.known id page hs
  rw [hid, PageTarget.ofText, if_pos (h.formed id page hs)]
  exact hs

/-- A stored page is found at its path, unless that is looked up as an id. -/
theorem Indexed.find_path (h : Indexed store) {page : Page} (hs : store.findById id = some page)
    (hp : isId page.path = false) : store.find (.ofText page.path) = some page := by
  rw [PageTarget.ofText, if_neg (by simp [hp])]
  simp only [find, findByPath, h.path id page hs, Option.bind_some, hs]

end PageStore

namespace Command.Submission

/-- A command, in whichever form, for an action on a target. -/
def Targets (action : Action) (target : String) (submission : Submission) : Prop :=
  ∃ descriptor, submission.descriptor? = .ok descriptor ∧ descriptor.action = action ∧
    Keyed.get? "target" descriptor.payload = some (.string target)

end Command.Submission

namespace Desk

open PageStore

variable {config : Config} {ids : Nat → String} {stamp : Stamp} {actor : Option String}
  {submission : Submission} {desk : Desk} {target : String} {page : Page}

/-- A target stands for a page: a command to publish what it names publishes that page, one to
delete it removes that page and its path, and nothing else changes but for the log. -/
structure Addresses (desk : Desk) (target : String) (page : Page) : Prop where
  publication : ∀ config stamp actor submission, submission.Targets .publishPage target →
    let record := page.publish stamp.now actor
    ∃ entry, desk.serve config stamp actor submission = (.ok (.page record),
      { desk with
        site.pages.pages := desk.site.pages.pages.insert page.id record
        log := desk.log ++ [entry] })
  deletion : ∀ config stamp actor submission, submission.Targets .deletePage target →
    ∃ entry, desk.serve config stamp actor submission = (.ok (.deletedPage page.id page.path),
      { desk with
        site.pages := ⟨desk.site.pages.pages.erase page.id, desk.site.pages.paths.erase page.path⟩
        log := desk.log ++ [entry] })

/-- A target stands for nothing: no page is found to publish or to delete. -/
def Misses (desk : Desk) (target : String) : Prop :=
  ∀ config stamp actor submission,
    submission.Targets .publishPage target ∨ submission.Targets .deletePage target →
    ∃ entry, desk.serve config stamp actor submission =
      (.error (.notFound "Page not found"), { desk with log := desk.log ++ [entry] })

/-- A target stands for the page that is found under it, if the page is stored under its id. -/
theorem addresses_of_find (ht : Text.Trimmed target.toList)
    (hf : desk.site.pages.find (.ofText target) = some page)
    (hs : desk.site.pages.findById page.id = some page) : desk.Addresses target page where
  publication config stamp actor submission := by
    rintro ⟨descriptor, known, action, hg⟩
    have found : resolved desk.site.pages descriptor.payload = .ok page := by
      rw [resolved_of_trimmed hg ht, hf]
    rw [serve_eq]
    unfold attend
    simp only [known, handle, action, carryOut_publishPage, found, PageStore.publish, hs]
    exact ⟨_, rfl⟩
  deletion config stamp actor submission := by
    rintro ⟨descriptor, known, action, hg⟩
    have found : resolved desk.site.pages descriptor.payload = .ok page := by
      rw [resolved_of_trimmed hg ht, hf]
    rw [serve_eq]
    unfold attend
    simp only [known, handle, action, carryOut_deletePage, found, PageStore.delete, hs]
    exact ⟨_, rfl⟩

theorem misses_of_find (ht : Text.Trimmed target.toList)
    (hf : desk.site.pages.find (.ofText target) = none) : desk.Misses target := by
  rintro config stamp actor submission (⟨descriptor, known, action, hg⟩ |
    ⟨descriptor, known, action, hg⟩)
  all_goals
    have missing : resolved desk.site.pages descriptor.payload =
        .error (.notFound "Page not found") := by
      rw [resolved_of_trimmed hg ht, hf]
    rw [serve_eq]
    unfold attend
    simp only [known, handle, action, carryOut_publishPage, carryOut_deletePage, missing]
    exact ⟨_, rfl⟩

theorem Misses.not_addresses (h : desk.Misses target) : ¬ desk.Addresses target page := by
  intro addresses
  let publication : Submission := .descriptor ⟨.publishPage, [("target", .string target)], ""⟩
  have targets : publication.Targets .publishPage target := ⟨_, rfl, rfl, by simp [Keyed.get?]⟩
  obtain ⟨_, hm⟩ := h {} ⟨Nat.repr, default⟩ none publication (.inl targets)
  obtain ⟨_, ha⟩ := addresses.publication {} ⟨Nat.repr, default⟩ none publication targets
  rw [hm] at ha
  cases congrArg Prod.fst ha

theorem indexed_serve (formed : isId (stamp.id desk.issued) = true)
    (h : desk.site.pages.Indexed) :
    (desk.serve config stamp actor submission).2.site.pages.Indexed := by
  rcases serve_effect config stamp actor submission desk with
    ⟨failure, -, hs⟩ | ⟨descriptor, outcome, after, -, effect, hs⟩
  · rw [hs]
    exact h
  · rw [hs]
    cases effect with
    | failed failure definitions consults => exact h
    | pageCreated path raws layout definitions record pages action _ _ stored named =>
      exact h.create formed (trimmed_of_text? named) stored
    | pagePublished page record pages action found stored => exact h.publish stored
    | pageDeleted page pages action found stored => exact h.delete stored
    | componentCreated component definitions record components action consults schema stored =>
      exact h
    | contactsListed records action => exact h
    | contactMarked record contacts action => exact h

theorem indexed_session (config : Config) (formed : ∀ n, isId (ids n) = true)
    (components : Registry) (contacts : ContactStore) (issued : Nat) (events : List Event) :
    ((opening config components contacts issued).session config ids events).site.pages.Indexed := by
  refine @session_invariant config ids _ (fun desk => desk.site.pages.Indexed) events
    indexed_empty ?_
  intro desk event _ h
  cases event with
  | command now actor submission => exact indexed_serve (formed _) h
  | registration now component =>
    rcases meet_registration config ids now component desk with hm | ⟨record, components, -, hm⟩
    · rw [hm]
      exact h
    · rw [hm]
      exact h
  | contact contact => exact h
  | expiry hash => exact h

/-- Ids that count up, in as many hexadecimal digits as an id has. -/
def countedId (n : Nat) : String :=
  String.ofList ((List.range idLength).reverse.map fun place => Json.hexDigit (n / 16 ^ place))

theorem isId_countedId (n : Nat) : isId (countedId n) = true := by
  have low : ∀ m < 16, Text.isHexDigit (Nat.digitChar m) = true := by decide
  have digit : ∀ m, Text.isHexDigit (Json.hexDigit m) = true := fun m =>
    low _ (Nat.mod_lt m (by decide))
  unfold isId countedId
  rw [String.length_ofList, String.toList_ofList]
  simp only [List.length_map, List.length_reverse, List.length_range, decide_true, Bool.true_and,
    List.all_map, List.all_eq_true]
  exact fun place _ => digit _

/-- After any session a stored page is published and deleted under its id, and under its path
unless that has the form of an id. A path of that form stands for the page with that id, if there
is one, and else for nothing. -/
theorem stored_pages_addressed (config : Config) (ids : Nat → String)
    (formed : ∀ n, isId (ids n) = true) (components : Registry) (contacts : ContactStore)
    (issued : Nat) (events : List Event) :
    let desk := (opening config components contacts issued).session config ids events
    ∀ id page, desk.site.pages.findById id = some page →
      desk.Addresses page.id page ∧
      (isId page.path = false → desk.Addresses page.path page) ∧
      (isId page.path = true →
        (∀ other, desk.site.pages.findById page.path = some other →
          desk.Addresses page.path other) ∧
        (desk.site.pages.findById page.path = none → desk.Misses page.path)) := by
  intro desk id page hs
  have indexed : desk.site.pages.Indexed :=
    indexed_session config formed components contacts issued events
  have stored : desk.site.pages.findById page.id = some page := by
    rw [indexed.known id page hs]
    exact hs
  have trimmed := indexed.trimmed id page hs
  refine ⟨?_, ?_, ?_⟩
  · have form : isId page.id = true := indexed.formed page.id page stored
    exact addresses_of_find (trimmed_of_isId form) (indexed.find_id hs) stored
  · intro hp
    exact addresses_of_find trimmed (indexed.find_path hs hp) stored
  · intro hp
    have byId : desk.site.pages.find (.ofText page.path) =
        desk.site.pages.findById page.path := by
      rw [PageTarget.ofText, if_pos hp]
      rfl
    refine ⟨?_, ?_⟩
    · intro other ho
      refine addresses_of_find trimmed (byId.trans ho) ?_
      rw [indexed.known page.path other ho]
      exact ho
    · intro ho
      exact misses_of_find trimmed (byId.trans ho)

theorem stored_pages_addressed_two :
    let creation (path : String) : Event := .command default (some "ann")
      (.request ⟨"create_page", [("layout", .array []), ("path", .string path)], none⟩)
    let events := [creation "/a", creation (countedId 0)]
    let desk := (opening {} {} {} 0).session {} countedId events
    (∀ n, isId (countedId n) = true) ∧
      ∃ first second, desk.site.pages.findById (countedId 0) = some first ∧
        desk.site.pages.findById (countedId 1) = some second ∧
        desk.Addresses first.id first ∧ desk.Addresses first.path first ∧
        desk.Addresses second.id second ∧ desk.Addresses second.path first := by
  have addressed := stored_pages_addressed {} countedId isId_countedId {} {} 0
  exact ⟨isId_countedId, _, _, by rfl, by rfl, (addressed _ (countedId 0) _ (by rfl)).1,
    (addressed _ (countedId 0) _ (by rfl)).2.1 (by rfl),
    (addressed _ (countedId 1) _ (by rfl)).1,
    ((addressed _ (countedId 1) _ (by rfl)).2.2 (by rfl)).1 _ (by rfl)⟩

/-- A page whose path has the form of an id is not found under it. -/
theorem path_like_id_misses :
    let path := "64b7f0c2a1e4d93f5c2b1a0e"
    let creation : Event := .command default none
      (.request ⟨"create_page", [("layout", .array []), ("path", .string path)], none⟩)
    let desk := (opening {} {} {} 0).session {} countedId [creation]
    ∃ page, desk.site.pages.findById (countedId 0) = some page ∧ page.path = path ∧
      desk.Misses path ∧ ¬ desk.Addresses path page := by
  have missed : ∀ desk : Desk, desk.site.pages.findById "64b7f0c2a1e4d93f5c2b1a0e" = none →
      desk.Misses "64b7f0c2a1e4d93f5c2b1a0e" := by
    intro desk hn
    have form : isId "64b7f0c2a1e4d93f5c2b1a0e" = true := by decide +kernel
    refine misses_of_find (trimmed_of_isId form) ?_
    rw [PageTarget.ofText, if_pos form]
    exact hn
  exact ⟨_, by rfl, by rfl, missed _ (by rfl), (missed _ (by rfl)).not_addresses⟩

end Desk

end SiteDesk
