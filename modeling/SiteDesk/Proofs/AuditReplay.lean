import Std.Data.String.ToNat
import SiteDesk.Proofs.Sessions
import SiteDesk.Proofs.StoreOperations

/-!
The audit log against the page store. The successful page commands on one id, read from the oldest
on, account for what is stored under that id: it is created once, published any number of times and
deleted at most once, and nothing follows a deletion because ids are not given out again.
-/
namespace SiteDesk

open SiteDesk.Command

namespace Audit

def Entry.reports (action : Action) (id : String) (entry : Entry) : Bool :=
  entry.success && entry.action = action.name && entry.resourceId = some id

def Entry.concerns (id : String) (entry : Entry) : Bool :=
  entry.reports .createPage id || entry.reports .publishPage id || entry.reports .deletePage id

/-- Whether an entry says who changed the page with an id last. -/
def Entry.signs (id : String) (entry : Entry) : Bool :=
  entry.reports .createPage id || entry.reports .publishPage id

/-- The entries on an id. -/
def history (id : String) (log : List Entry) : List Entry :=
  log.filter (Entry.concerns id)

variable {id : String} {entry : Entry} {log : List Entry} {page : Page}

theorem reports_unique {a b : Action} (ha : entry.reports a id = true) :
    entry.reports b id = decide (a = b) := by
  simp only [Entry.reports, Bool.and_eq_true, decide_eq_true_eq] at ha ⊢
  obtain ⟨⟨hs, hn⟩, hi⟩ := ha
  by_cases hab : a = b
  · simp [hs, hi, hn, hab]
  · have hne : a.name ≠ b.name := fun h => hab (Action.name_injective h)
    simp [hn, hne, hab]

theorem reports_id_unique {a b : Action} {other : String} (ha : entry.reports a id = true)
    (hb : entry.reports b other = true) : id = other := by
  simp only [Entry.reports, Bool.and_eq_true, decide_eq_true_eq] at ha hb
  simpa [ha.2] using hb.2

theorem concerns_of_reports {a : Action} (ha : entry.reports a id = true)
    (hp : a.resource = .page) (other : String) : entry.concerns other = decide (id = other) := by
  by_cases ho : id = other
  · subst ho
    cases a <;> simp [Action.resource] at hp <;> simp [Entry.concerns, ha]
  · have hn (b : Action) : entry.reports b other = false := by
      rw [Bool.eq_false_iff]
      intro hb
      exact ho (reports_id_unique ha hb)
    simp [Entry.concerns, hn, ho]

theorem history_append (log : List Entry) (entry : Entry) :
    history id (log ++ [entry]) =
      history id log ++ if entry.concerns id then [entry] else [] := by
  simp [history, List.filter_append, List.filter_cons]

/-- How the entries on an id account for the page that is stored under it. -/
inductive Account (id : String) : List Entry → Option Page → Prop where
  | unknown : Account id [] none
  | created (entry : Entry) (page : Page) (reports : entry.reports .createPage id)
      (known : page.id = id)
      (path : entry.details.member? "path" = some (.string page.path))
      (creator : entry.actor = page.createdBy) (author : entry.actor = page.updatedBy)
      (slug : page.slug = SiteDesk.slug page.path)
      (draft : page.status = .draft) (unpublished : page.publishedAt = none) :
      Account id [entry] (some page)
  | published {entries : List Entry} {page : Page} (earlier : Account id entries (some page))
      (entry : Entry) (now : Timestamp) (reports : entry.reports .publishPage id) :
      Account id (entries ++ [entry]) (some (page.publish now entry.actor))
  | deleted {entries : List Entry} {page : Page} (earlier : Account id entries (some page))
      (entry : Entry) (reports : entry.reports .deletePage id) :
      Account id (entries ++ [entry]) none

/-- What a log says about the page that is stored under an id. -/
structure Tells (log : List Entry) (id : String) (page : Page) : Prop where
  creation : ∀ entry ∈ log, entry.reports .createPage id →
    entry.details.member? "path" = some (.string page.path) ∧ entry.actor = page.createdBy
  author : (log.filter (Entry.signs id)).getLast?.map (fun entry => entry.actor) =
    some page.updatedBy
  slug : page.slug = SiteDesk.slug page.path
  published : page.status = .published ↔ ∃ entry ∈ log, entry.reports .publishPage id
  publishedAt : page.publishedAt.isSome ↔ ∃ entry ∈ log, entry.reports .publishPage id

theorem Account.id_eq {entries : List Entry} (h : Account id entries (some page)) :
    page.id = id := by
  generalize hs : some page = stored at h
  induction h generalizing page with
  | unknown => cases hs
  | created entry page reports known => cases hs; exact known
  | published earlier entry now reports ih =>
    cases hs
    have known := ih rfl
    exact known
  | deleted earlier entry reports ih => cases hs

theorem Account.ne_nil {entries : List Entry} (h : Account id entries (some page)) :
    entries ≠ [] := by
  generalize hs : some page = stored at h
  cases h with
  | unknown => cases hs
  | created => simp
  | published => simp
  | deleted => simp

theorem Account.stored_iff {entries : List Entry} {stored : Option Page}
    (h : Account id entries stored) :
    stored.isSome ↔ (∃ entry ∈ entries, entry.reports .createPage id) ∧
      ¬ ∃ entry ∈ entries, entry.reports .deletePage id := by
  induction h with
  | unknown => simp
  | created entry page reports => simp [reports, reports_unique reports]
  | published earlier entry now reports ih =>
    simpa [or_and_right, exists_or, reports_unique reports] using ih
  | deleted earlier entry reports ih =>
    simp [or_and_right, exists_or, reports]

theorem Account.tells {entries : List Entry} (h : Account id entries (some page)) :
    Tells entries id page := by
  generalize hs : some page = stored at h
  induction h generalizing page with
  | unknown => cases hs
  | created entry page reports known path creator author slug draft unpublished =>
    cases hs
    have hp := reports_unique (b := .publishPage) reports
    exact {
      creation := by simp [path, creator]
      author := by simp [Entry.signs, reports, author]
      slug := slug
      published := by simp [draft, hp]
      publishedAt := by simp [unpublished, hp] }
  | published earlier entry now reports ih =>
    cases hs
    obtain ⟨creation, author, slug, -, -⟩ := ih rfl
    have hc := reports_unique (b := .createPage) reports
    exact {
      creation := by
        intro other ho hr
        rcases List.mem_append.1 ho with ho | ho
        · exact creation other ho hr
        · rw [List.mem_singleton.1 ho, hc] at hr
          cases hr
      author := by simp [List.filter_append, Entry.signs, reports, Page.publish]
      slug := slug
      published := by simp [Page.publish, or_and_right, exists_or, reports]
      publishedAt := by simp [Page.publish, or_and_right, exists_or, reports] }
  | deleted earlier entry reports ih => cases hs

theorem history_append_of_quiet (h : entry.concerns id = false) :
    history id (log ++ [entry]) = history id log := by
  simp [history_append, h]

theorem mem_history_iff {a : Action} (hr : entry.reports a id = true) (ha : a.resource = .page) :
    entry ∈ history id log ↔ entry ∈ log := by
  simp [history, concerns_of_reports hr ha id]

theorem exists_history_iff {a : Action} (ha : a.resource = .page) :
    (∃ entry ∈ history id log, entry.reports a id) ↔ ∃ entry ∈ log, entry.reports a id := by
  constructor
  · rintro ⟨entry, hl, hr⟩
    exact ⟨entry, (mem_history_iff hr ha).1 hl, hr⟩
  · rintro ⟨entry, hl, hr⟩
    exact ⟨entry, (mem_history_iff hr ha).2 hl, hr⟩

theorem Tells.of_history (h : Tells (history id log) id page) : Tells log id page := by
  have hs : (history id log).filter (Entry.signs id) = log.filter (Entry.signs id) := by
    rw [history, List.filter_filter]
    congr 1
    funext entry
    cases hc : entry.reports .createPage id <;> cases hp : entry.reports .publishPage id <;>
      simp [Entry.signs, Entry.concerns, hc, hp]
  exact {
    creation := fun entry hl hr => h.creation entry ((mem_history_iff hr rfl).2 hl) hr
    author := by rw [← hs]; exact h.author
    slug := h.slug
    published := h.published.trans (exists_history_iff rfl)
    publishedAt := h.publishedAt.trans (exists_history_iff rfl) }

end Audit

namespace Desk

open Audit

variable {config : Config} {ids : Nat → String} {stamp : Stamp} {actor : Option String}
  {submission : Submission} {desk after : Desk} {id : String}

@[simp] theorem entryOn_error_reports (failure : Failure) (a : Action) (id : String) :
    (entryOn stamp actor submission (.error failure)).reports a id = false := rfl

theorem entryOn_ok_reports {descriptor : Descriptor} {output : Output}
    (h : submission.descriptor? = .ok descriptor) (a : Action) (id : String) :
    (entryOn stamp actor submission (.ok output)).reports a id =
      (decide (descriptor.action = a) && decide (output.resourceId? = some id)) := by
  have hn : descriptor.action.name = a.name ↔ descriptor.action = a :=
    ⟨Action.name_injective, congrArg Action.name⟩
  simp [entryOn, Entry.reports, Note.ofOutcome, Submission.recordedAction_of_ok h, hn]

theorem entryOn_reports {descriptor : Descriptor} {output : Output} {a : Action}
    (h : submission.descriptor? = .ok descriptor) (ha : descriptor.action = a)
    (ho : output.resourceId? = some id) :
    (entryOn stamp actor submission (.ok output)).reports a id = true := by
  simp [entryOn_ok_reports h, ha, ho]

theorem entryOn_concerns {descriptor : Descriptor} {output : Output}
    (h : submission.descriptor? = .ok descriptor) (ha : descriptor.action.resource ≠ .page)
    (id : String) : (entryOn stamp actor submission (.ok output)).concerns id = false := by
  have hne (a : Action) (hp : a.resource = .page) : descriptor.action ≠ a := by
    rintro rfl
    exact ha hp
  simp [Entry.concerns, entryOn_ok_reports h, hne .createPage rfl, hne .publishPage rfl,
    hne .deletePage rfl]

/-- The log accounts for the stored pages, and says nothing of ids yet to be given out. -/
structure Accounted (ids : Nat → String) (desk : Desk) : Prop where
  account : ∀ id, Account id (history id desk.log) (desk.site.pages.findById id)
  fresh : ∀ n, desk.issued ≤ n → history (ids n) desk.log = []

/-- Events that neither change pages nor report on them keep the account. -/
theorem Accounted.of_quiet (h : Accounted ids desk)
    (pages : after.site.pages = desk.site.pages)
    (log : ∀ id, history id after.log = history id desk.log)
    (issued : desk.issued ≤ after.issued) : Accounted ids after where
  account id := by
    rw [log, pages]
    exact h.account id
  fresh n hn := by
    rw [log]
    exact h.fresh n (by omega)

/-- A page command keeps the account of all other ids, so it is enough to see to its own. -/
theorem Accounted.of_entry {entry : Entry} {a : Action} (h : Accounted ids desk)
    (log : after.log = desk.log ++ [entry]) (reports : entry.reports a id = true)
    (page : a.resource = .page)
    (others : ∀ other, id ≠ other →
      after.site.pages.findById other = desk.site.pages.findById other)
    (account : Account id (history id desk.log ++ [entry]) (after.site.pages.findById id))
    (fresh : ∀ n, after.issued ≤ n → desk.issued ≤ n ∧ id ≠ ids n) : Accounted ids after where
  account other := by
    rw [log, history_append, concerns_of_reports reports page]
    by_cases ho : id = other
    · subst ho
      simpa using account
    · rw [others other ho]
      simpa [ho] using h.account other
  fresh n hn := by
    obtain ⟨hi, hne⟩ := fresh n hn
    rw [log, history_append, concerns_of_reports reports page]
    simpa [hne] using h.fresh n hi

theorem Accounted.issued_of_stored (h : Accounted ids desk) {page : Page}
    (hs : desk.site.pages.findById id = some page) (n : Nat) (hn : desk.issued ≤ n) :
    id ≠ ids n := by
  rintro rfl
  have ha := h.account (ids n)
  rw [hs] at ha
  exact ha.ne_nil (h.fresh n hn)

theorem Accounted.of_failure (h : Accounted ids desk) (definitions : List Json)
    (failure : Failure) : Accounted ids
      ((desk.consulted definitions).logged (entryOn stamp actor submission (.error failure))) := by
  refine h.of_quiet rfl ?_ (Nat.le_refl _)
  intro id
  exact history_append_of_quiet (by simp [Entry.concerns, entryOn_error_reports])

theorem Accounted.of_other (h : Accounted ids desk) {descriptor : Descriptor} {output : Output}
    (hd : submission.descriptor? = .ok descriptor) (ha : descriptor.action.resource ≠ .page)
    (pages : after.site.pages = desk.site.pages) (log : after.log = desk.log)
    (issued : desk.issued ≤ after.issued) :
    Accounted ids (after.logged (entryOn stamp actor submission (.ok output))) := by
  refine h.of_quiet pages ?_ issued
  intro id
  simp only [logged, log]
  exact history_append_of_quiet (entryOn_concerns hd ha id)

theorem Accounted.findById_of_resolved (h : Accounted ids desk) {payload : Json.Members}
    {page : Page} (hr : resolved desk.site.pages payload = .ok page) :
    desk.site.pages.findById page.id = some page := by
  obtain ⟨id, hf⟩ := Desk.findById_of_resolved hr
  have ha := h.account id
  rw [hf] at ha
  rw [ha.id_eq]
  exact hf

section Pages

variable {descriptor : Descriptor} {now : Timestamp} {record page : Page} {pages : PageStore}

theorem Accounted.of_creation (hi : Function.Injective ids) (h : Accounted ids desk)
    (hd : submission.descriptor? = .ok descriptor) (action : descriptor.action = .createPage)
    {path : String} {layout : List Block} (definitions : List Json)
    (stored : desk.site.pages.create (ids desk.issued) now actor
      (draft path descriptor.payload layout) = .ok (record, pages)) :
    Accounted ids (logged (entryOn ⟨ids, now⟩ actor submission (.ok (.page record)))
      { desk.consulted definitions with
        site := { desk.site with pages }, issued := desk.issued + 1 }) := by
  obtain ⟨hm, hf⟩ := PageStore.create_ok stored
  have hid : record.id = ids desk.issued := by rw [hm]; rfl
  have hr : (entryOn ⟨ids, now⟩ actor submission (.ok (.page record))).reports .createPage
      (ids desk.issued) = true :=
    entryOn_reports hd action (congrArg some hid)
  have hn : history (ids desk.issued) desk.log = [] := h.fresh _ (Nat.le_refl _)
  have hs : pages.findById (ids desk.issued) = some record := by rw [hf, if_pos rfl]
  refine h.of_entry rfl hr rfl ?_ ?_ ?_
  · intro other ho
    exact (hf other).trans (if_neg ho)
  · simp only [logged, hs, hn, List.nil_append]
    subst hm
    exact .created _ _ hr rfl rfl rfl rfl rfl rfl rfl
  · intro n hn
    have hlt : desk.issued < n := hn
    exact ⟨by omega, fun hc => by have := hi hc; omega⟩

theorem Accounted.of_publication (h : Accounted ids desk)
    (hd : submission.descriptor? = .ok descriptor) (action : descriptor.action = .publishPage)
    (found : resolved desk.site.pages descriptor.payload = .ok page)
    (stored : desk.site.pages.publish now actor page.id = .ok (record, pages)) :
    Accounted ids (logged (entryOn ⟨ids, now⟩ actor submission (.ok (.page record)))
      { desk with site := { desk.site with pages } }) := by
  -- the store publishes under the id that the found page has in its record
  have hp := h.findById_of_resolved found
  obtain ⟨other, ho, hm, hf⟩ := PageStore.publish_ok stored
  rw [hp, Option.some.injEq] at ho
  subst ho
  have hid : record.id = page.id := by rw [hm]; rfl
  have hr : (entryOn ⟨ids, now⟩ actor submission (.ok (.page record))).reports .publishPage
      page.id = true :=
    entryOn_reports hd action (congrArg some hid)
  have hs : pages.findById page.id = some record := by rw [hf, if_pos rfl]
  refine h.of_entry rfl hr rfl ?_ ?_ ?_
  · intro other ho
    exact (hf other).trans (if_neg ho)
  · have ha := h.account page.id
    rw [hp] at ha
    simp only [logged, hs]
    subst hm
    exact ha.published _ now hr
  · intro n hn
    exact ⟨hn, h.issued_of_stored hp n hn⟩

theorem Accounted.of_deletion (h : Accounted ids desk)
    (hd : submission.descriptor? = .ok descriptor) (action : descriptor.action = .deletePage)
    (found : resolved desk.site.pages descriptor.payload = .ok page)
    (stored : desk.site.pages.delete page.id = .ok pages) :
    Accounted ids
      (logged (entryOn ⟨ids, now⟩ actor submission (.ok (.deletedPage page.id page.path)))
        { desk with site := { desk.site with pages } }) := by
  have hp := h.findById_of_resolved found
  obtain ⟨other, -, hf⟩ := PageStore.delete_ok stored
  have hr : (entryOn ⟨ids, now⟩ actor submission
      (.ok (.deletedPage page.id page.path))).reports .deletePage page.id = true :=
    entryOn_reports hd action rfl
  have hs : pages.findById page.id = none := by rw [hf, if_pos rfl]
  refine h.of_entry rfl hr rfl ?_ ?_ ?_
  · intro other ho
    exact (hf other).trans (if_neg ho)
  · have ha := h.account page.id
    rw [hp] at ha
    simp only [logged, hs]
    exact ha.deleted _ hr
  · intro n hn
    exact ⟨hn, h.issued_of_stored hp n hn⟩

end Pages

theorem Accounted.of_effect (hi : Function.Injective ids) (h : Accounted ids desk)
    {now : Timestamp} {descriptor : Descriptor} {outcome : Outcome}
    (hd : submission.descriptor? = .ok descriptor)
    (he : Effect config ⟨ids, now⟩ actor descriptor desk outcome after) :
    Accounted ids (after.logged (entryOn ⟨ids, now⟩ actor submission outcome)) := by
  cases he with
  | failed failure definitions consults => exact h.of_failure definitions failure
  | pageCreated path raws layout definitions record pages action consults validated stored =>
    exact h.of_creation hi hd action definitions stored
  | pagePublished page record pages action found stored =>
    exact h.of_publication hd action found stored
  | pageDeleted page pages action found stored => exact h.of_deletion hd action found stored
  | componentCreated component definitions record components action consults schema stored =>
    exact h.of_other hd (by simp [action, Action.resource]) rfl rfl (Nat.le_succ _)
  | contactsListed records action =>
    exact h.of_other hd (by simp [action, Action.resource]) rfl rfl (Nat.le_refl _)
  | contactMarked record contacts action =>
    exact h.of_other hd (by simp [action, Action.resource]) rfl rfl (Nat.le_refl _)

theorem Accounted.meet (hi : Function.Injective ids) (h : Accounted ids desk) (event : Event) :
    Accounted ids (desk.meet config ids event) := by
  cases event with
  | command now actor submission =>
    rcases serve_effect config ⟨ids, now⟩ actor submission desk with
      ⟨failure, -, hs⟩ | ⟨descriptor, outcome, after, hd, he, hs⟩
    · rw [Desk.meet, hs]
      exact h.of_failure [] failure
    · rw [Desk.meet, hs]
      exact h.of_effect hi hd he
  | registration now component =>
    rcases meet_registration config ids now component desk with
      hm | ⟨record, components, -, hm⟩
    · rw [hm]
      exact h
    · rw [hm]
      exact h.of_quiet rfl (fun id => rfl) (Nat.le_succ _)
  | contact contact => exact h.of_quiet rfl (fun id => rfl) (Nat.le_refl _)
  | expiry hash => exact h.of_quiet rfl (fun id => rfl) (Nat.le_refl _)

theorem accounted_opening (config : Config) (components : Registry) (contacts : ContactStore)
    (issued : Nat) : Accounted ids (opening config components contacts issued) where
  account id := by
    rw [show (opening config components contacts issued).site.pages.findById id = none from
      PageStore.findById_empty id]
    exact .unknown
  fresh n hn := rfl

/-- The log of a session replays to the stored pages: a page is stored under an id exactly if its
creation is reported and no deletion, and the entries on the id tell what is in its record. -/
theorem log_replays_to_pages (config : Config) (ids : Nat → String) (hi : Function.Injective ids)
    (components : Registry) (contacts : ContactStore) (issued : Nat) (events : List Event)
    (id : String) :
    let desk := (opening config components contacts issued).session config ids events
    ((∃ page, desk.site.pages.findById id = some page) ↔
      (∃ entry ∈ desk.log, entry.reports .createPage id) ∧
        ¬ ∃ entry ∈ desk.log, entry.reports .deletePage id) ∧
    ∀ page, desk.site.pages.findById id = some page → Tells desk.log id page := by
  intro desk
  have h : Accounted ids desk :=
    session_invariant (accounted_opening config components contacts issued)
      fun desk event _ h => h.meet hi event
  have ha := h.account id
  refine ⟨?_, ?_⟩
  · rw [← Option.isSome_iff_exists, ha.stored_iff, exists_history_iff rfl, exists_history_iff rfl]
  · intro page hp
    rw [hp] at ha
    exact ha.tells.of_history

theorem log_replays_to_pages_published :
    let creation : Request :=
      ⟨"create_page", [("layout", .array []), ("path", .string "/a")], none⟩
    let publication : Request := ⟨"publish_page", [("target", .string "/a")], none⟩
    let events : List Event := [.command default (some "ann") (.request creation),
      .command default (some "bob") (.request publication)]
    let desk := (opening {} {} {} 0).session {} Nat.repr events
    Function.Injective Nat.repr ∧
      ∃ page, desk.site.pages.findById "0" = some page ∧ page.status = .published ∧
        page.createdBy = some "ann" ∧ page.updatedBy = some "bob" ∧ Tells desk.log "0" page := by
  have hi : Function.Injective Nat.repr := fun _ _ h => Nat.repr_injective h
  exact ⟨hi, _, by rfl, by rfl, by rfl, by rfl,
    (log_replays_to_pages {} Nat.repr hi {} {} 0 _ "0").2 _ (by rfl)⟩

end Desk

end SiteDesk
