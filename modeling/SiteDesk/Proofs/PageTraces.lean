import SiteDesk.Proofs.PathLocality

/-!
What an operation of the page store touches. Under any other id and at any other path both maps stay
as they were, and a publication changes no more of its page than the status, the time it was
published and who updated it. So a page that is created, published any number of times and deleted
leaves no trace.
-/
namespace SiteDesk.PageStore

variable {store before after : PageStore} {id path : String} {now : Timestamp}
  {actor : Option String}

/-- Two stores are alike but for one id and, if one is given, one path. -/
structure AlikeBut (id : String) (path? : Option String) (before after : PageStore) : Prop where
  pages : ∀ other : String, other ≠ id → after.pages[other]? = before.pages[other]?
  paths : ∀ other : String, some other ≠ path? → after.paths[other]? = before.paths[other]?

theorem AlikeBut.refl (id : String) (path? : Option String) (store : PageStore) :
    AlikeBut id path? store store :=
  ⟨fun _ _ => rfl, fun _ _ => rfl⟩

theorem alikeBut_create (store : PageStore) (id : String) (now : Timestamp) (actor : Option String)
    (page : NewPage) :
    AlikeBut id (some page.path) store (store.operate (.create id now actor page)) := by
  simp only [operate]
  cases hc : store.create id now actor page with
  | error error => exact .refl _ _ _
  | ok stored =>
    obtain ⟨-, hf⟩ := create_ok hc
    obtain ⟨-, hp⟩ := create_ok_paths hc
    exact ⟨fun other away => (hf other).trans (if_neg away.symm),
      fun other away => (hp other).trans (if_neg fun here => away (congrArg some here.symm))⟩

@[simp] theorem paths_operate_publish (store : PageStore) (now : Timestamp) (actor : Option String)
    (id : String) : (store.operate (.publish now actor id)).paths = store.paths := by
  simp only [operate]
  cases hp : store.publish now actor id with
  | error error => rfl
  | ok stored => exact publish_ok_paths hp

theorem alikeBut_publish (store : PageStore) (now : Timestamp) (actor : Option String)
    (id : String) : AlikeBut id none store (store.operate (.publish now actor id)) := by
  refine ⟨?_, fun other _ => by rw [paths_operate_publish]⟩
  simp only [operate]
  cases hp : store.publish now actor id with
  | error error => exact fun _ _ => rfl
  | ok stored =>
    obtain ⟨-, -, -, hf⟩ := publish_ok hp
    exact fun other away => (hf other).trans (if_neg away.symm)

theorem page_operate_publish (store : PageStore) (now : Timestamp) (actor : Option String)
    (id : String) :
    (store.operate (.publish now actor id)).pages[id]? =
      store.pages[id]?.map (Page.publish now actor) := by
  simp only [operate]
  cases hs : store.pages[id]? with
  | none =>
    have missing : store.publish now actor id = .error missing := by simp [publish, findById, hs]
    simp [missing, hs]
  | some page =>
    obtain ⟨pages, hp⟩ := publish_of_found hs now actor
    obtain ⟨-, -, -, hf⟩ := publish_ok hp
    rw [hp]
    exact (hf id).trans (if_pos rfl)

theorem alikeBut_delete (store : PageStore) (id : String) :
    AlikeBut id (store.pages[id]?.map Page.path) store (store.operate (.delete id)) := by
  simp only [operate]
  cases hd : store.delete id with
  | error error => exact .refl _ _ _
  | ok pages =>
    obtain ⟨page, hs, hf⟩ := delete_ok hd
    refine ⟨fun other away => (hf other).trans (if_neg away.symm), fun other away => ?_⟩
    have ne : page.path ≠ other := by
      rintro rfl
      exact away (congrArg (Option.map Page.path) hs).symm
    exact (delete_ok_paths hs hd other).trans (if_neg ne)

/-- A store has a page with an id and a path besides the pages of another store. -/
structure OnePageMore (id path : String) (before after : PageStore) : Prop where
  mirrored : Mirrored after
  page : ∃ page, after.findById id = some page ∧ page.path = path
  others : ∀ other, path ≠ other → after.findByPath other = before.findByPath other

theorem Mirrored.onePageMore (h : Mirrored store) (fresh : store.findById id = none)
    {page : NewPage} {record : Page} (hc : store.create id now actor page = .ok (record, after)) :
    OnePageMore id page.path store after := by
  obtain ⟨hr, hf⟩ := create_ok hc
  refine ⟨h.create fresh hc, ⟨record, (hf id).trans (if_pos rfl), by rw [hr]; rfl⟩, ?_⟩
  exact fun other away => (h.findByPath_create fresh hc other).trans (if_neg away)

theorem OnePageMore.publish (more : OnePageMore id path before store) (now : Timestamp)
    (actor : Option String) :
    ∃ record pages, store.publish now actor id = .ok (record, pages) ∧
      OnePageMore id path before pages := by
  obtain ⟨page, hs, rfl⟩ := more.page
  obtain ⟨pages, hp⟩ := publish_of_found hs now actor
  obtain ⟨-, -, -, hf⟩ := publish_ok hp
  refine ⟨_, pages, hp, more.mirrored.publish hp, ⟨_, (hf id).trans (if_pos rfl), rfl⟩, ?_⟩
  intro other away
  rw [more.mirrored.findByPath_publish hs hp, if_neg away, more.others other away]

def publishAll (id : String) :
    List (Timestamp × Option String) → PageStore → Except StoreError PageStore
  | [], store => .ok store
  | (now, actor) :: rest, store =>
    match store.publish now actor id with
    | .error error => .error error
    | .ok (_, pages) => publishAll id rest pages

theorem OnePageMore.publishAll (more : OnePageMore id path before store)
    (publications : List (Timestamp × Option String)) :
    ∃ published, store.publishAll id publications = .ok published ∧
      OnePageMore id path before published := by
  induction publications generalizing store with
  | nil => exact ⟨store, rfl, more⟩
  | cons publication rest ih =>
    obtain ⟨now, actor⟩ := publication
    obtain ⟨record, pages, hp, more'⟩ := more.publish now actor
    obtain ⟨published, hall, last⟩ := ih more'
    refine ⟨published, ?_, last⟩
    rw [PageStore.publishAll, hp]
    exact hall

/-- The page that was added goes without a trace, as its path is still the one it was added at. -/
theorem OnePageMore.delete (more : OnePageMore id path before store) (h : Mirrored before)
    (free : before.findByPath path = none) : store.delete id = .ok before := by
  obtain ⟨page, hs, rfl⟩ := more.page
  obtain ⟨pages, hd⟩ := delete_of_found hs
  -- The maps of both stores mirror each other, so the pages at all paths are all there is to them.
  rw [hd, (more.mirrored.delete hd).ext h]
  intro other
  rw [more.mirrored.findByPath_delete hs hd]
  split
  · next here => rw [← here, free]
  · next away => exact more.others other away

/-- A page that is created, published any number of times and deleted leaves the store as it was.
Any one operation leaves alone what stands under other ids and at other paths, and a publication
changes nothing but the status, the time of publication and the last actor of its page. -/
theorem deletion_undoes_creation (store : PageStore) (mirrored : Mirrored store) :
    (∀ (id : String) (now : Timestamp) (actor : Option String) (page : NewPage),
      store.findById id = none → store.findByPath page.path = none →
      ∃ record created, store.create id now actor page = .ok (record, created) ∧ record.id = id ∧
        ∀ publications : List (Timestamp × Option String), ∃ published,
          created.publishAll record.id publications = .ok published ∧
            published.delete record.id = .ok store) ∧
    (∀ (id : String) (now : Timestamp) (actor : Option String) (page : NewPage),
      AlikeBut id (some page.path) store (store.operate (.create id now actor page))) ∧
    (∀ (now : Timestamp) (actor : Option String) (id : String),
      let published := store.operate (.publish now actor id)
      AlikeBut id none store published ∧ published.paths = store.paths ∧
        published.pages[id]? = store.pages[id]?.map fun page =>
          { page with status := .published, publishedAt := some now, updatedBy := actor }) ∧
    ∀ id : String, AlikeBut id (store.pages[id]?.map Page.path) store
      (store.operate (.delete id)) := by
  refine ⟨fun id now actor page fresh free => ?_, alikeBut_create store,
    fun now actor id => ⟨alikeBut_publish store now actor id,
      paths_operate_publish store now actor id, page_operate_publish store now actor id⟩,
    alikeBut_delete store⟩
  obtain ⟨created, hc⟩ := mirrored.create_of_free id now actor page free
  refine ⟨_, created, hc, rfl, fun publications => ?_⟩
  obtain ⟨published, hp, more⟩ := (mirrored.onePageMore fresh hc).publishAll publications
  exact ⟨published, hp, more.delete mirrored free⟩

/-- A second page comes, is published by two actors and goes, while the first one stays. -/
theorem deletion_undoes_creation_second :
    let first : NewPage := ⟨"/a", "a", "a", .draft, []⟩
    let second : NewPage := ⟨"/b", "b", "b", .draft, []⟩
    let store := operate {} (.create "1" default none first)
    Mirrored store ∧ store.findByPath "/a" = some (.ofNew "1" default none first) ∧
      ∃ record created published,
        store.create "2" default (some "admin") second = .ok (record, created) ∧
        created.publishAll record.id [(default, some "admin"), (default, some "editor")] =
          .ok published ∧
        published.delete record.id = .ok store := by
  intro first second store
  have mirrored : Mirrored store := mirrored_empty.operate fun _ => by cbv
  obtain ⟨undone, -⟩ := deletion_undoes_creation store mirrored
  obtain ⟨record, created, hc, -, publications⟩ :=
    undone "2" default (some "admin") second (by cbv) (by cbv)
  obtain ⟨published, hp, hd⟩ := publications [(default, some "admin"), (default, some "editor")]
  exact ⟨mirrored, by cbv, record, created, published, hc, hp, hd⟩

end SiteDesk.PageStore
