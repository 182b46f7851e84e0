import SiteDesk.Proofs.Handling

/-!
What the operations of the stores do, told by look-ups: the record that is written, and that every
other record stays as it was.
-/
namespace SiteDesk

namespace PageStore

variable {store pages : PageStore} {id : String} {now : Timestamp} {actor : Option String}

@[simp] theorem findById_empty (id : String) : findById id {} = none := by
  simp [findById]

@[simp] theorem find_insert (id other : String) (page : Page)
    (paths : Std.ExtTreeMap String String) :
    findById other ⟨store.pages.insert id page, paths⟩ =
      if id = other then some page else store.findById other := by
  simp [findById, Std.ExtTreeMap.getElem?_insert]

theorem create_ok {page : NewPage} {record : Page}
    (h : store.create id now actor page = .ok (record, pages)) :
    record = Page.ofNew id now actor page ∧
      ∀ other, pages.findById other = if id = other then some record else store.findById other := by
  unfold create at h
  split at h
  · cases h
  · simp only [Except.ok.injEq, Prod.mk.injEq] at h
    obtain ⟨rfl, rfl⟩ := h
    exact ⟨rfl, fun other => find_insert id other _ _⟩

theorem publish_ok {record : Page} (h : store.publish now actor id = .ok (record, pages)) :
    ∃ page, store.findById id = some page ∧ record = page.publish now actor ∧
      ∀ other, pages.findById other = if id = other then some record else store.findById other := by
  unfold publish at h
  cases hf : store.findById id with
  | none => simp [hf] at h
  | some page =>
    simp only [hf, Except.ok.injEq, Prod.mk.injEq] at h
    obtain ⟨rfl, rfl⟩ := h
    exact ⟨page, rfl, rfl, fun other => find_insert id other _ _⟩

theorem delete_ok (h : store.delete id = .ok pages) :
    ∃ page, store.findById id = some page ∧
      ∀ other, pages.findById other = if id = other then none else store.findById other := by
  unfold delete at h
  cases hf : store.findById id with
  | none => simp [hf] at h
  | some page =>
    simp only [hf, Except.ok.injEq] at h
    subst h
    exact ⟨page, rfl, fun other => by simp [findById, Std.ExtTreeMap.getElem?_erase]⟩

theorem taken_of_create {page : NewPage} {error : StoreError}
    (h : store.create id now actor page = .error error) : error = taken page.path := by
  unfold create at h
  split at h
  · exact (Except.error.inj h).symm
  · cases h

theorem publish_of_found {page : Page} (h : store.findById id = some page) (now : Timestamp)
    (actor : Option String) :
    ∃ pages, store.publish now actor id = .ok (page.publish now actor, pages) := by
  unfold publish
  rw [h]
  exact ⟨_, rfl⟩

theorem delete_of_found {page : Page} (h : store.findById id = some page) :
    ∃ pages, store.delete id = .ok pages := by
  unfold delete
  rw [h]
  exact ⟨_, rfl⟩

theorem findById_of_find {target : PageTarget} {page : Page} (h : store.find target = some page) :
    ∃ id, store.findById id = some page := by
  cases target with
  | id id => exact ⟨id, h⟩
  | path path =>
    simp only [find, findByPath, Option.bind_eq_some_iff] at h
    obtain ⟨id, -, hf⟩ := h
    exact ⟨id, hf⟩

end PageStore

theorem Registry.create_ok {registry components : Registry} {id : String} {now : Timestamp}
    {component : NewComponent} {record : Component}
    (h : registry.create id now component = .ok (record, components)) :
    record = Component.ofNew id now component ∧ registry.find component.type = none ∧
      ∀ type, components.find type =
        if component.type = type then some record else registry.find type := by
  unfold create at h
  split at h
  · cases h
  · next hc =>
    simp only [Except.ok.injEq, Prod.mk.injEq] at h
    obtain ⟨rfl, rfl⟩ := h
    refine ⟨rfl, ?_, ?_⟩
    · rw [Std.ExtTreeMap.contains_eq_isSome_getElem?, Bool.not_eq_true,
        Option.isSome_eq_false_iff, Option.isNone_iff_eq_none] at hc
      exact hc
    · intro type
      simp [find, Std.ExtTreeMap.getElem?_insert]

theorem Registry.taken_of_create {registry : Registry} {id : String} {now : Timestamp}
    {component : NewComponent} {error : StoreError}
    (h : registry.create id now component = .error error) : error = taken component.type := by
  unfold create at h
  split at h
  · exact (Except.error.inj h).symm
  · cases h

theorem Registry.find_of_create_ok {registry components : Registry} {id : String} {now : Timestamp}
    {component : NewComponent} {record : Component}
    (h : registry.create id now component = .ok (record, components)) {type : String}
    {found : Component} (ht : registry.find type = some found) :
    components.find type = some found := by
  obtain ⟨-, hfree, hf⟩ := create_ok h
  have hne : component.type ≠ type := by
    rintro rfl
    rw [hfree] at ht
    cases ht
  rw [hf, if_neg hne]
  exact ht

theorem Desk.findById_of_resolved {pages : PageStore} {payload : Json.Members} {page : Page}
    (h : resolved pages payload = .ok page) : ∃ id, pages.findById id = some page := by
  unfold resolved at h
  cases ht : Command.text? "target" payload with
  | none => simp [ht] at h
  | some target =>
    cases hf : pages.find (.ofText target) with
    | none => simp [ht, hf] at h
    | some found =>
      simp only [ht, hf, Except.ok.injEq] at h
      subst h
      exact PageStore.findById_of_find hf

end SiteDesk
