import Mathlib.Order.Defs.LinearOrder
import SiteDesk.Proofs.StoreOperations

/-!
The two maps of the page store against each other. Every stored page is found under its own id and
its path leads back to that id; every path that is taken leads to a page that is stored there. All
operations keep this, so a path is free exactly if no stored page has it.
-/
namespace SiteDesk.PageStore

variable {store pages : PageStore} {id : String} {now : Timestamp} {actor : Option String}

/-- The map of paths mirrors the map of pages. -/
structure Mirrored (store : PageStore) : Prop where
  of_page : ∀ id page, store.findById id = some page →
    page.id = id ∧ store.paths[page.path]? = some id
  of_path : ∀ path id, store.paths[path]? = some id →
    ∃ page, store.findById id = some page ∧ page.path = path

theorem mirrored_empty : Mirrored {} where
  of_page id page h := by simp at h
  of_path path id h := by simp at h

theorem Mirrored.path_unique (h : Mirrored store) {other : String} {page found : Page}
    (hp : store.findById id = some page) (hf : store.findById other = some found)
    (he : page.path = found.path) : id = other := by
  have h₁ := (h.of_page id page hp).2
  have h₂ := (h.of_page other found hf).2
  rw [he, h₂, Option.some.injEq] at h₁
  exact h₁.symm

/-- The page that is found at a path is the stored page with that path. -/
theorem Mirrored.findByPath_iff (h : Mirrored store) {path : String} {page : Page} :
    store.findByPath path = some page ↔ ∃ id, store.findById id = some page ∧ page.path = path := by
  unfold findByPath
  rw [Option.bind_eq_some_iff]
  constructor
  · rintro ⟨id, hi, hf⟩
    obtain ⟨found, hs, hp⟩ := h.of_path path id hi
    rw [hf, Option.some.injEq] at hs
    exact ⟨id, hf, hs ▸ hp⟩
  · rintro ⟨id, hf, rfl⟩
    exact ⟨id, (h.of_page id page hf).2, hf⟩

theorem Mirrored.taken_iff (h : Mirrored store) {path : String} :
    store.paths.contains path = true ↔
      ∃ id page, store.findById id = some page ∧ page.path = path := by
  rw [Std.ExtTreeMap.contains_eq_isSome_getElem?, Option.isSome_iff_exists]
  constructor
  · rintro ⟨id, hi⟩
    obtain ⟨page, hp⟩ := h.of_path path id hi
    exact ⟨id, page, hp⟩
  · rintro ⟨id, page, hf, rfl⟩
    exact ⟨id, (h.of_page id page hf).2⟩

theorem create_error_iff {page : NewPage} :
    (∃ error, store.create id now actor page = .error error) ↔
      store.paths.contains page.path = true := by
  unfold create
  split <;> simp_all

/-- A new page is refused exactly if a stored page has its path. -/
theorem Mirrored.create_error_iff (h : Mirrored store) {page : NewPage} :
    (∃ error, store.create id now actor page = .error error) ↔
      ∃ other found, store.findById other = some found ∧ found.path = page.path := by
  rw [PageStore.create_error_iff, h.taken_iff]

theorem create_ok_paths {page : NewPage} {record : Page}
    (h : store.create id now actor page = .ok (record, pages)) :
    store.paths[page.path]? = none ∧
      ∀ path, pages.paths[path]? = if page.path = path then some id else store.paths[path]? := by
  unfold create at h
  split at h
  · cases h
  · next hc =>
    simp only [Except.ok.injEq, Prod.mk.injEq] at h
    obtain ⟨-, rfl⟩ := h
    refine ⟨?_, fun path => by simp [Std.ExtTreeMap.getElem?_insert]⟩
    rwa [Std.ExtTreeMap.contains_eq_isSome_getElem?, Bool.not_eq_true,
      Option.isSome_eq_false_iff, Option.isNone_iff_eq_none] at hc

theorem publish_ok_paths {record : Page} (h : store.publish now actor id = .ok (record, pages)) :
    pages.paths = store.paths := by
  unfold publish at h
  cases hf : store.findById id with
  | none => simp [hf] at h
  | some page =>
    simp only [hf, Except.ok.injEq, Prod.mk.injEq] at h
    rw [← h.2]

theorem delete_ok_paths {page : Page} (hf : store.findById id = some page)
    (h : store.delete id = .ok pages) :
    ∀ path, pages.paths[path]? = if page.path = path then none else store.paths[path]? := by
  unfold delete at h
  simp only [hf, Except.ok.injEq] at h
  subst h
  intro path
  simp [Std.ExtTreeMap.getElem?_erase]

theorem Mirrored.create (h : Mirrored store) (fresh : store.findById id = none) {page : NewPage}
    {record : Page} (hc : store.create id now actor page = .ok (record, pages)) :
    Mirrored pages := by
  obtain ⟨hr, hf⟩ := create_ok hc
  obtain ⟨hfree, hp⟩ := create_ok_paths hc
  have hpath : record.path = page.path := by rw [hr]; rfl
  constructor
  · intro other found ho
    rw [hf] at ho
    rw [hp]
    by_cases hid : id = other
    · rw [if_pos hid, Option.some.injEq] at ho
      subst ho hid
      exact ⟨by rw [hr]; rfl, by rw [hpath, if_pos rfl]⟩
    · rw [if_neg hid] at ho
      obtain ⟨hi, hpo⟩ := h.of_page other found ho
      have hne : page.path ≠ found.path := by
        intro he
        rw [← he, hfree] at hpo
        cases hpo
      exact ⟨hi, by rw [if_neg hne, hpo]⟩
  · intro path other ho
    rw [hp] at ho
    by_cases he : page.path = path
    · rw [if_pos he, Option.some.injEq] at ho
      subst ho
      exact ⟨record, by rw [hf, if_pos rfl], hpath.trans he⟩
    · rw [if_neg he] at ho
      obtain ⟨found, hs, hpf⟩ := h.of_path path other ho
      have hne : id ≠ other := by
        rintro rfl
        rw [fresh] at hs
        cases hs
      exact ⟨found, by rw [hf, if_neg hne, hs], hpf⟩

theorem Mirrored.publish (h : Mirrored store) {record : Page}
    (hp : store.publish now actor id = .ok (record, pages)) : Mirrored pages := by
  obtain ⟨page, hs, hr, hf⟩ := publish_ok hp
  have hpaths := publish_ok_paths hp
  have hpath : record.path = page.path := by rw [hr]; rfl
  obtain ⟨hi, hpi⟩ := h.of_page id page hs
  constructor
  · intro other found ho
    rw [hf] at ho
    rw [hpaths]
    by_cases hid : id = other
    · rw [if_pos hid, Option.some.injEq] at ho
      subst ho hid
      exact ⟨by rw [hr]; exact hi, by rw [hpath, hpi]⟩
    · rw [if_neg hid] at ho
      exact h.of_page other found ho
  · intro path other ho
    rw [hpaths] at ho
    obtain ⟨found, hs', hpf⟩ := h.of_path path other ho
    by_cases hid : id = other
    · subst hid
      rw [hs, Option.some.injEq] at hs'
      subst hs'
      exact ⟨record, by rw [hf, if_pos rfl], hpath.trans hpf⟩
    · exact ⟨found, by rw [hf, if_neg hid, hs'], hpf⟩

theorem Mirrored.delete (h : Mirrored store) (hd : store.delete id = .ok pages) :
    Mirrored pages := by
  obtain ⟨page, hs, hf⟩ := delete_ok hd
  have hp := delete_ok_paths hs hd
  obtain ⟨hi, hpi⟩ := h.of_page id page hs
  constructor
  · intro other found ho
    rw [hf] at ho
    rw [hp]
    by_cases hid : id = other
    · rw [if_pos hid] at ho
      cases ho
    · rw [if_neg hid] at ho
      obtain ⟨ho', hpo⟩ := h.of_page other found ho
      have hne : page.path ≠ found.path := fun he => hid (h.path_unique hs ho he)
      exact ⟨ho', by rw [if_neg hne, hpo]⟩
  · intro path other ho
    rw [hp] at ho
    by_cases he : page.path = path
    · rw [if_pos he] at ho
      cases ho
    · rw [if_neg he] at ho
      obtain ⟨found, hs', hpf⟩ := h.of_path path other ho
      have hne : id ≠ other := by
        rintro rfl
        rw [hs, Option.some.injEq] at hs'
        exact he (hs' ▸ hpf)
      exact ⟨found, by rw [hf, if_neg hne, hs'], hpf⟩

inductive Operation where
  | create (id : String) (now : Timestamp) (actor : Option String) (page : NewPage)
  | publish (now : Timestamp) (actor : Option String) (id : String)
  | delete (id : String)
  | findById (id : String)
  | findByPath (path : String)

/-- The store after an operation; an operation that fails changes nothing. -/
def operate (store : PageStore) : Operation → PageStore
  | .create id now actor page =>
    match store.create id now actor page with
    | .ok (_, pages) => pages
    | .error _ => store
  | .publish now actor id =>
    match store.publish now actor id with
    | .ok (_, pages) => pages
    | .error _ => store
  | .delete id =>
    match store.delete id with
    | .ok pages => pages
    | .error _ => store
  | .findById _ => store
  | .findByPath _ => store

/-- An id that is given to a new page is not the id of a stored one. -/
def IssuesFresh (store : PageStore) : Operation → Prop
  | .create id now actor page =>
    (∃ stored, store.create id now actor page = .ok stored) → store.findById id = none
  | _ => True

/-- In a sequence of operations no id is given out while a page is stored under it. -/
def AllFresh : PageStore → List Operation → Prop
  | _, [] => True
  | store, operation :: rest =>
    store.IssuesFresh operation ∧ (store.operate operation).AllFresh rest

theorem Mirrored.operate (h : Mirrored store) {operation : Operation}
    (fresh : store.IssuesFresh operation) : Mirrored (store.operate operation) := by
  cases operation with
  | create id now actor page =>
    simp only [PageStore.operate]
    cases hc : store.create id now actor page with
    | error error => exact h
    | ok stored => exact h.create (fresh ⟨stored, hc⟩) hc
  | publish now actor id =>
    simp only [PageStore.operate]
    cases hp : store.publish now actor id with
    | error error => exact h
    | ok stored => exact h.publish hp
  | delete id =>
    simp only [PageStore.operate]
    cases hd : store.delete id with
    | error error => exact h
    | ok pages => exact h.delete hd
  | findById id => exact h
  | findByPath path => exact h

theorem Mirrored.operate_all {operations : List Operation} (h : Mirrored store)
    (fresh : store.AllFresh operations) : Mirrored (operations.foldl PageStore.operate store) := by
  induction operations generalizing store with
  | nil => exact h
  | cons operation rest ih => exact ih (h.operate fresh.1) fresh.2

/-- After any sequence of operations, whoever asked for them, the maps mirror each other. So no two
stored pages share a path, a page is found at a path exactly if it is stored with that path, and a
new page is refused exactly if a stored one has its path. -/
theorem maps_mirror_after_operations (operations : List Operation)
    (fresh : AllFresh {} operations) :
    let store := operations.foldl operate {}
    ((∀ (id : String) (page : Page), store.pages[id]? = some page →
        page.id = id ∧ store.paths[page.path]? = some id) ∧
      ∀ (path id : String), store.paths[path]? = some id →
        ∃ page : Page, store.pages[id]? = some page ∧ page.path = path) ∧
    (∀ (id other : String) (page found : Page), store.pages[id]? = some page →
      store.pages[other]? = some found → page.path = found.path → id = other) ∧
    (∀ (path : String) (page : Page), store.findByPath path = some page ↔
      ∃ id : String, store.pages[id]? = some page ∧ page.path = path) ∧
    ∀ (id : String) (now : Timestamp) (actor : Option String) (page : NewPage),
      (∃ error, store.create id now actor page = .error error) ↔
        ∃ (other : String) (found : Page),
          store.pages[other]? = some found ∧ found.path = page.path := by
  intro store
  have h : Mirrored store := mirrored_empty.operate_all fresh
  exact ⟨⟨h.of_page, h.of_path⟩, fun _ _ _ _ => h.path_unique, fun _ _ => h.findByPath_iff,
    fun _ _ _ _ => h.create_error_iff⟩

/-- A path is taken, refused to a second page, freed and taken again. -/
theorem maps_mirror_after_recreation :
    let page : NewPage := ⟨"/a", "a", "a", .draft, []⟩
    let operations : List Operation := [.create "1" default none page,
      .create "2" default none page, .publish default none "1", .delete "1", .delete "1",
      .create "3" default none page]
    AllFresh {} operations ∧
      (operations.foldl operate {}).findByPath "/a" = some (.ofNew "3" default none page) ∧
      ∃ error, (operations.foldl operate {}).create "4" default none page = .error error := by
  intro page operations
  have fresh : AllFresh {} operations :=
    ⟨fun _ => by cbv, fun _ => by cbv, trivial, trivial, trivial, fun _ => by cbv, trivial⟩
  have h := maps_mirror_after_operations operations fresh
  have hs : (operations.foldl operate {}).pages["3"]? = some (.ofNew "3" default none page) := by
    cbv
  exact ⟨fresh, (h.2.2.1 "/a" _).2 ⟨"3", hs, rfl⟩,
    (h.2.2.2 "4" default none page).2 ⟨"3", _, hs, rfl⟩⟩

end SiteDesk.PageStore
