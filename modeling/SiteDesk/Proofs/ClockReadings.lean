import SiteDesk.Proofs.CacheTransparency

/-!
Stores under two clocks. The stores read the clock for the records they write and look at no reading
afterwards, so from stores that are alike the same calls lead to stores that are alike, and with one
clock to the same stores.
-/
namespace SiteDesk

open SiteDesk.Command

variable {times : Timestamp → Timestamp → Prop} {now now' : Timestamp}

theorem eq_of_rel {α : Type} {R : α → α → Prop} (hr : ∀ a b, R a b → a = b) {x y : Option α}
    (h : Option.Rel R x y) : x = y := by
  cases h with
  | some related => rw [hr _ _ related]
  | none => rfl

theorem isSome_of_rel {α β : Type} {R : α → β → Prop} {x : Option α} {y : Option β}
    (h : Option.Rel R x y) : x.isSome = y.isSome := by
  cases h <;> rfl

theorem rel_and {α β : Type} {R : α → β → Prop} {P : α → Prop} {x : Option α} {y : Option β}
    (h : Option.Rel R x y) (hx : ∀ a, x = some a → P a) :
    Option.Rel (fun a b => R a b ∧ P a) x y := by
  cases h with
  | some related => exact .some ⟨related, hx _ rfl⟩
  | none => exact .none

def Registry.Alike (times : Timestamp → Timestamp → Prop) (registry other : Registry) : Prop :=
  ∀ type, Option.Rel (Component.Alike times) (registry.find type) (other.find type)

namespace Registry

variable {registry other : Registry}

theorem alike_refl (hr : ∀ time, times time time) : registry.Alike times registry :=
  fun _ => rel_refl (Component.alike_refl hr) _

theorem Alike.eq (h : registry.Alike Eq other) : registry = other := by
  obtain ⟨components⟩ := registry
  obtain ⟨components'⟩ := other
  have same : components = components' := by
    apply Std.ExtTreeMap.ext_getElem?
    intro type
    exact eq_of_rel (fun _ _ alike => alike.eq) (h type)
  rw [same]

theorem Alike.contains (h : registry.Alike times other) (type : String) :
    registry.components.contains type = other.components.contains type := by
  rw [Std.ExtTreeMap.contains_eq_isSome_getElem?, Std.ExtTreeMap.contains_eq_isSome_getElem?]
  exact isSome_of_rel (h type)

theorem Alike.create (h : registry.Alike times other) (id : String) (ht : times now now')
    (component : NewComponent) :
    Concur (fun made made' => made.1.Alike times made'.1 ∧ made.2.Alike times made'.2)
      (registry.create id now component) (other.create id now' component) := by
  unfold Registry.create
  rw [← h.contains component.type]
  split
  · exact .error _
  · refine .ok ⟨.mk ht, ?_⟩
    intro type
    simp only [find, Std.ExtTreeMap.getElem?_insert]
    split
    · exact .some (.mk ht)
    · exact h type

end Registry

namespace Page

variable {page other : Page}

theorem Alike.path (h : page.Alike times other) : page.path = other.path := by
  cases h
  rfl

theorem Alike.publish (h : page.Alike times other) (ht : times now now')
    (actor : Option String) : (page.publish now actor).Alike times (other.publish now' actor) := by
  obtain ⟨created, -⟩ := h
  exact .mk created (.some ht)

end Page

namespace PageStore

/-- The same pages at the same paths but for their clock readings. -/
structure Alike (times : Timestamp → Timestamp → Prop) (store other : PageStore) : Prop where
  pages : ∀ id, Option.Rel (Page.Alike times) (store.findById id) (other.findById id)
  paths : store.paths = other.paths

variable {store other : PageStore}

theorem alike_refl (hr : ∀ time, times time time) : store.Alike times store where
  pages _ := rel_refl (Page.alike_refl hr) _
  paths := rfl

theorem Alike.eq (h : store.Alike Eq other) : store = other := by
  obtain ⟨pages, paths⟩ := store
  obtain ⟨pages', paths'⟩ := other
  have same : pages = pages' := by
    apply Std.ExtTreeMap.ext_getElem?
    intro id
    exact eq_of_rel (fun _ _ alike => alike.eq) (h.pages id)
  have samePaths : paths = paths' := h.paths
  rw [same, samePaths]

theorem Alike.insert (h : store.Alike times other) {page page' : Page}
    (hp : page.Alike times page') (id : String) (paths : Std.ExtTreeMap String String) :
    Alike times ⟨store.pages.insert id page, paths⟩ ⟨other.pages.insert id page', paths⟩ where
  pages key := by
    rw [find_insert, find_insert]
    split
    · exact .some hp
    · exact h.pages key
  paths := rfl

theorem Alike.findByPath (h : store.Alike times other) (path : String) :
    Option.Rel (Page.Alike times) (store.findByPath path) (other.findByPath path) := by
  unfold PageStore.findByPath
  rw [← h.paths]
  cases store.paths[path]? with
  | none => exact .none
  | some id => exact h.pages id

theorem Alike.create (h : store.Alike times other) (id : String) (ht : times now now')
    (actor : Option String) (page : NewPage) :
    Concur (fun made made' => made.1.Alike times made'.1 ∧ made.2.Alike times made'.2)
      (store.create id now actor page) (other.create id now' actor page) := by
  unfold PageStore.create
  rw [← h.paths]
  split
  · exact .error _
  · have alike : (Page.ofNew id now actor page).Alike times (Page.ofNew id now' actor page) :=
      .mk ht .none
    exact .ok ⟨alike, h.insert alike id _⟩

theorem Alike.publish (h : store.Alike times other) (ht : times now now')
    (actor : Option String) (id : String) :
    Concur (fun made made' => made.1.Alike times made'.1 ∧ made.2.Alike times made'.2)
      (store.publish now actor id) (other.publish now' actor id) := by
  have found := h.pages id
  unfold PageStore.publish
  generalize store.findById id = page at found ⊢
  generalize other.findById id = page' at found ⊢
  cases found with
  | none => exact .error _
  | some alike =>
    have published := alike.publish ht actor
    refine .ok ⟨published, ?_⟩
    rw [← h.paths]
    exact h.insert published id _

theorem Alike.delete (h : store.Alike times other) (id : String) :
    Concur (Alike times) (store.delete id) (other.delete id) := by
  have found := h.pages id
  unfold PageStore.delete
  generalize store.findById id = page at found ⊢
  generalize other.findById id = page' at found ⊢
  cases found with
  | none => exact .error _
  | some alike =>
    refine .ok ⟨?_, by rw [alike.path, h.paths]⟩
    intro key
    simp only [findById, Std.ExtTreeMap.getElem?_erase]
    split
    · exact .none
    · exact h.pages key

end PageStore

structure Site.Alike (times : Timestamp → Timestamp → Prop) (site other : Site) : Prop where
  components : site.components.Alike times other.components
  pages : site.pages.Alike times other.pages
  contacts : site.contacts = other.contacts

theorem Site.alike_refl (hr : ∀ time, times time time) (site : Site) : site.Alike times site :=
  ⟨Registry.alike_refl hr, PageStore.alike_refl hr, rfl⟩

theorem Site.Alike.eq {site other : Site} (h : site.Alike Eq other) : site = other := by
  obtain ⟨components, pages, contacts⟩ := site
  obtain ⟨components', pages', contacts'⟩ := other
  have hc : components = components' := h.components.eq
  have hp : pages = pages' := h.pages.eq
  have hk : contacts = contacts' := h.contacts
  rw [hc, hp, hk]

namespace Desk

open Schema

/-- Two versed desks with sites that are alike and as many ids given out. -/
structure Alike (definitions : Set Json) (times : Timestamp → Timestamp → Prop)
    (desk other : Desk) : Prop where
  site : desk.site.Alike times other.site
  issued : desk.issued = other.issued
  versed : desk.Versed definitions
  versed' : other.Versed definitions

variable {definitions : Set Json} {ids : Nat → String} {desk other : Desk} {c : Call}

theorem Versed.alike_refl (h : desk.Versed definitions) (hr : ∀ time, times time time) :
    desk.Alike definitions times desk :=
  ⟨desk.site.alike_refl hr, rfl, h, h⟩

theorem Versed.stays (hn : Cache.NoCollision definitions) (h : desk.Versed definitions)
    (hc : c.Within definitions) : (desk.answer ⟨ids, now⟩ c).2.Versed definitions :=
  (h.answerDirectly hn ids now hc desk.schemas).2.2

/-- A store that gives a new record, or the same error, on both desks. -/
theorem Alike.created {α β : Type} {R : β → β → Prop} {S : α → α → Prop} {store : Site → α → Site}
    {result result' : Except StoreError (β × α)} (h : desk.Alike definitions times other)
    (made : Concur (fun made made' => R made.1 made'.1 ∧ S made.2 made'.2) result result')
    (hs : ∀ {changed changed'}, S changed changed' →
      (store desk.site changed).Alike times (store other.site changed')) :
    let reply := desk.created store result
    let reply' := other.created store result'
    Concur R reply.1 reply'.1 ∧ reply.2.site.Alike times reply'.2.site ∧
      reply.2.issued = reply'.2.issued := by
  cases made with
  | error e => exact ⟨.error e, h.site, h.issued⟩
  | ok both => exact ⟨.ok both.1, hs both.2, congrArg (· + 1) h.issued⟩

theorem Alike.replies (h : desk.Alike definitions times other) (ids : Nat → String)
    (ht : times now now') (hc : c.Within definitions) :
    let reply := desk.answer ⟨ids, now⟩ c
    let reply' := other.answer ⟨ids, now'⟩ c
    c.Concurs definitions times reply.1 reply'.1 ∧ reply.2.site.Alike times reply'.2.site ∧
      reply.2.issued = reply'.2.issued := by
  intro reply reply'
  have kept : desk.site.Alike times other.site ∧ desk.issued = other.issued := ⟨h.site, h.issued⟩
  cases c with
  | findComponent type =>
    have known := h.versed.schemas type
    exact ⟨.ok (rel_and (h.site.components type) known), kept⟩
  | createComponent component =>
    have made := h.site.components.create (ids desk.issued) ht component
    simp only [reply, reply', Desk.answer, ← h.issued]
    exact h.created made fun components => ⟨components, h.site.pages, h.site.contacts⟩
  | createPage page actor =>
    have made := h.site.pages.create (ids desk.issued) ht actor page
    simp only [reply, reply', Desk.answer, ← h.issued]
    exact h.created made fun pages => ⟨h.site.components, pages, h.site.contacts⟩
  | publishPage id actor =>
    have made := h.site.pages.publish ht actor id
    simp only [reply, reply', Desk.answer]
    generalize desk.site.pages.publish _ _ _ = result at made ⊢
    generalize other.site.pages.publish _ _ _ = result' at made ⊢
    cases made with
    | error e => exact ⟨.error e, kept⟩
    | ok both => exact ⟨.ok both.1, ⟨h.site.components, both.2, h.site.contacts⟩, kept.2⟩
  | findPageById id => exact ⟨.ok (h.site.pages.pages id), kept⟩
  | findPageByPath path => exact ⟨.ok (h.site.pages.findByPath path), kept⟩
  | deletePage id =>
    have made := h.site.pages.delete id
    simp only [reply, reply', Desk.answer]
    generalize desk.site.pages.delete _ = result at made ⊢
    generalize other.site.pages.delete _ = result' at made ⊢
    cases made with
    | error e => exact ⟨.error e, kept⟩
    | ok both => exact ⟨.ok rfl, ⟨h.site.components, both, h.site.contacts⟩, kept.2⟩
  | listContacts limit =>
    refine ⟨.ok ?_, kept⟩
    rw [h.site.contacts]
  | markContactRead id =>
    simp only [reply, reply', Desk.answer, ← h.site.contacts]
    cases desk.site.contacts.markRead id with
    | none => exact ⟨.ok rfl, kept⟩
    | some marked => exact ⟨.ok rfl, ⟨h.site.components, h.site.pages, rfl⟩, kept.2⟩
  | compileSchema definition =>
    have same := (h.versed.cache.compile_fst hc).trans (h.versed'.cache.compile_fst hc).symm
    exact ⟨same, kept⟩
  | record note => exact ⟨trivial, kept⟩

theorem Alike.answer (hn : Cache.NoCollision definitions)
    (h : desk.Alike definitions times other) (ids : Nat → String) (ht : times now now')
    (hc : c.Within definitions) :
    c.Concurs definitions times (desk.answer ⟨ids, now⟩ c).1 (other.answer ⟨ids, now'⟩ c).1 ∧
      (desk.answer ⟨ids, now⟩ c).2.Alike definitions times (other.answer ⟨ids, now'⟩ c).2 := by
  obtain ⟨concurs, site, issued⟩ := h.replies ids ht hc
  exact ⟨concurs, site, issued, h.versed.stays hn hc, h.versed'.stays hn hc⟩

theorem serve_eq_run (config : Config) (stamp : Stamp) (actor : Option String)
    (submission : Submission) (desk : Desk) :
    desk.serve config stamp actor submission =
      (submission.plan config actor).run (Desk.answer stamp) desk := by
  cases submission <;> rfl

/-- A command comes to alike outcomes on desks that are alike, and these remain alike. -/
theorem Alike.serve (hn : Cache.NoCollision definitions) (h : desk.Alike definitions times other)
    (ht : times now now') (config : Config) (ids : Nat → String) (actor : Option String)
    {submission : Submission}
    (brought : ∀ definition, submission.Brings definition → definition ∈ definitions) :
    let served := desk.serve config ⟨ids, now⟩ actor submission
    let served' := other.serve config ⟨ids, now'⟩ actor submission
    served.1.Alike times served'.1 ∧ served.2.Alike definitions times served'.2 := by
  intro served served'
  have agrees : Plan.Agrees definitions times (Outcome.Alike times)
      (submission.plan config actor) (submission.plan config actor) :=
    Submission.agrees_plan brought
  have both := agrees.run (Desk.Alike definitions times)
    (fun c _ _ hc alike => Alike.answer hn alike ids ht hc) h
  rw [← serve_eq_run, ← serve_eq_run] at both
  exact both

end Desk

end SiteDesk
