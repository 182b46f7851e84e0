import SiteDesk.Proofs.ParsedCommands
import SiteDesk.Proofs.ValidationOutcomes

/-!
Pages by their paths. While its maps mirror each other a page store is no more than the page at
each path, and a command about a path looks at the page there and leaves all other paths alone. So
two commands about different paths come to the same in either order.
-/
namespace SiteDesk

open SiteDesk.Command

attribute [ext] Site PageStore

namespace PageStore

variable {store other pages : PageStore} {id : String} {now : Timestamp} {actor : Option String}

theorem Mirrored.paths_eq (h : Mirrored store) (path : String) :
    store.paths[path]? = (store.findByPath path).map Page.id := by
  cases hp : store.paths[path]? with
  | none => simp [findByPath, hp]
  | some id =>
    obtain ⟨page, hs, -⟩ := h.of_path path id hp
    simp [findByPath, hp, hs, (h.of_page id page hs).1]

theorem Mirrored.findById_iff (h : Mirrored store) {page : Page} :
    store.findById id = some page ↔ store.findByPath page.path = some page ∧ page.id = id := by
  rw [h.findByPath_iff]
  constructor
  · intro hs
    exact ⟨⟨id, hs, rfl⟩, (h.of_page id page hs).1⟩
  · rintro ⟨⟨key, hs, -⟩, rfl⟩
    rwa [(h.of_page key page hs).1]

/-- A store whose maps mirror each other is determined by the page at each path. -/
theorem Mirrored.ext (h : Mirrored store) (ho : Mirrored other)
    (same : ∀ path, store.findByPath path = other.findByPath path) : store = other := by
  apply PageStore.ext
  · apply Std.ExtTreeMap.ext_getElem?
    intro id
    apply Option.ext
    intro page
    change store.findById id = some page ↔ other.findById id = some page
    rw [h.findById_iff, ho.findById_iff, same]
  · apply Std.ExtTreeMap.ext_getElem?
    intro path
    rw [h.paths_eq, ho.paths_eq, same]

theorem Mirrored.create_of_taken (h : Mirrored store) {page : NewPage} {here : Page}
    (hf : store.findByPath page.path = some here) :
    store.create id now actor page = .error (taken page.path) := by
  unfold PageStore.create
  rw [Std.ExtTreeMap.contains_eq_isSome_getElem?, h.paths_eq, hf]
  rfl

theorem Mirrored.create_of_free (h : Mirrored store) (id : String) (now : Timestamp)
    (actor : Option String) (page : NewPage) (hf : store.findByPath page.path = none) :
    ∃ pages, store.create id now actor page = .ok (Page.ofNew id now actor page, pages) := by
  unfold PageStore.create
  rw [Std.ExtTreeMap.contains_eq_isSome_getElem?, h.paths_eq, hf]
  exact ⟨_, rfl⟩

/-- Writing under one id leaves every path alone but that of the page with this id. -/
theorem Mirrored.findByPath_of_write (h : Mirrored store) {stored : Option Page} {path : String}
    (hf : ∀ other, pages.findById other = if id = other then stored else store.findById other)
    (hp : pages.paths[path]? = store.paths[path]?)
    (away : ∀ page, store.findById id = some page → page.path ≠ path) :
    pages.findByPath path = store.findByPath path := by
  unfold findByPath
  rw [hp]
  cases hk : store.paths[path]? with
  | none => rfl
  | some key =>
    obtain ⟨found, hs, hpath⟩ := h.of_path path key hk
    have hne : id ≠ key := by
      rintro rfl
      exact away found hs hpath
    exact (hf key).trans (if_neg hne)

theorem Mirrored.findByPath_create (h : Mirrored store) (fresh : store.findById id = none)
    {page : NewPage} {record : Page} (hc : store.create id now actor page = .ok (record, pages))
    (path : String) :
    pages.findByPath path = if page.path = path then some record else store.findByPath path := by
  obtain ⟨-, hf⟩ := create_ok hc
  obtain ⟨-, hp⟩ := create_ok_paths hc
  split
  · next here =>
    unfold findByPath
    rw [hp, if_pos here]
    exact (hf id).trans (if_pos rfl)
  · next away =>
    exact h.findByPath_of_write hf ((hp path).trans (if_neg away)) (by simp [fresh])

theorem Mirrored.findByPath_publish (h : Mirrored store) {page record : Page}
    (hs : store.findById id = some page)
    (hp : store.publish now actor id = .ok (record, pages)) (path : String) :
    pages.findByPath path = if page.path = path then some record else store.findByPath path := by
  obtain ⟨-, -, -, hf⟩ := publish_ok hp
  split
  · next here =>
    unfold findByPath
    rw [publish_ok_paths hp, ← here, (h.of_page id page hs).2]
    exact (hf id).trans (if_pos rfl)
  · next away =>
    exact h.findByPath_of_write hf (by rw [publish_ok_paths hp]) (by simpa [hs] using away)

theorem Mirrored.findByPath_delete (h : Mirrored store) {page : Page}
    (hs : store.findById id = some page) (hd : store.delete id = .ok pages) (path : String) :
    pages.findByPath path = if page.path = path then none else store.findByPath path := by
  obtain ⟨-, -, hf⟩ := delete_ok hd
  have hp := delete_ok_paths hs hd path
  split
  · next here =>
    unfold findByPath
    rw [hp, if_pos here]
    rfl
  · next away =>
    exact h.findByPath_of_write hf (hp.trans (if_neg away)) (by simpa [hs] using away)

end PageStore

/-- A command to create a page at a path, or to publish or delete the page at a path. The path may
come with blanks around it, and it is not the id of a page. -/
def Task.IsAbout (path : String) (task : Task) : Prop :=
  ∃ descriptor text, task.submission.descriptor? = .ok descriptor ∧
    String.ofList (Text.trim text.toList) = path ∧
    ((descriptor.action = .createPage ∧
        Keyed.get? "path" descriptor.payload = some (.string text)) ∨
      ((descriptor.action = .publishPage ∨ descriptor.action = .deletePage) ∧
        Keyed.get? "target" descriptor.payload = some (.string text) ∧ isId path = false))

/-- What is done about a path: from the page that is there, if any, to what comes of it and the page
that is there afterwards. -/
abbrev PathStep := Option Page → Outcome × Option Page

namespace PathStep

def refusal (failure : Failure) : PathStep :=
  fun here => (.error failure, here)

def creation (task : Task) (page : NewPage) : PathStep
  | some here => (.error (.ofStore (PageStore.taken page.path)), some here)
  | none =>
    let record := Page.ofNew task.id task.now task.actor page
    (.ok (.page record), some record)

def creationOf (config : Config) (components : Registry) (task : Task) (raws : List Json)
    (page : List Block → NewPage) : PathStep :=
  match Desk.layoutOutcome config components Schema.compile 0 raws with
  | .error failure => refusal failure
  | .ok layout => creation task (page layout)

def publication (task : Task) : PathStep
  | some here =>
    let record := here.publish task.now task.actor
    (.ok (.page record), some record)
  | none => (.error (.notFound "Page not found"), none)

def deletion : PathStep
  | some here => (.ok (.deletedPage here.id here.path), none)
  | none => (.error (.notFound "Page not found"), none)

end PathStep

namespace Desk

open PageStore

variable {config : Config} {definitions : Set Json} {components : Registry} {desk : Desk}
  {task other : Task} {path : String} {step : PathStep} {payload : Json.Members}

/-- A step was taken at a path, and nothing else about the site has changed. -/
structure Takes (step : PathStep) (path : String) (desk : Desk) (reached : Outcome × Desk) :
    Prop where
  outcome : reached.1 = (step (desk.site.pages.findByPath path)).1
  pages : ∀ other, reached.2.site.pages.findByPath other =
    if path = other then (step (desk.site.pages.findByPath path)).2
    else desk.site.pages.findByPath other
  components : reached.2.site.components = desk.site.components
  contacts : reached.2.site.contacts = desk.site.contacts

theorem takes_of_kept {reached : Outcome × Desk} (site : reached.2.site = desk.site)
    (h : step (desk.site.pages.findByPath path) =
      (reached.1, desk.site.pages.findByPath path)) : desk.Takes step path reached where
  outcome := by rw [h]
  pages other := by
    rw [site, h]
    split
    · next here => rw [here]
    · rfl
  components := by rw [site]
  contacts := by rw [site]

theorem takes_of_written {outcome : Outcome} {after : Desk} {pages : PageStore}
    {stored : Option Page} (site : after.site = { desk.site with pages })
    (h : step (desk.site.pages.findByPath path) = (outcome, stored))
    (written : ∀ other, pages.findByPath other =
      if path = other then stored else desk.site.pages.findByPath other) :
    desk.Takes step path (outcome, after) where
  outcome := by rw [h]
  pages other := by
    rw [site, h]
    exact written other
  components := by rw [site]
  contacts := by rw [site]

/-- A desk with certain components that answers as the compiler would and whose pages are in order,
none of them under the id of a task. -/
structure Hosts (definitions : Set Json) (components : Registry) (task : Task) (desk : Desk) :
    Prop where
  components : desk.site.components = components
  versed : desk.Versed definitions
  mirrored : desk.site.pages.Mirrored
  fresh : desk.site.pages.findById task.id = none

theorem Hosts.takes_createPage (hn : Schema.Cache.NoCollision definitions)
    (h : desk.Hosts definitions components task) {raws : List Json}
    (hp : text? "path" payload = some path) (hl : layout? payload = some raws) :
    desk.Takes (.creationOf config components task raws (draft path payload)) path
      (desk.carryOut task.stamp (createPage config task.actor payload)) := by
  have valid : (desk.carryOut task.stamp (validateLayout config 0 raws)).1 =
      layoutOutcome config desk.site.components Schema.compile 0 raws :=
    carryOut_validateLayout_fst hn (fun raw definition hb => h.versed.mem_of_blockSchema? hb)
      h.versed.cache 0 raws
  obtain ⟨compiled, -, after⟩ := carryOut_validateLayout_snd config task.stamp 0 raws desk
  rw [carryOut_createPage, hp, hl]
  dsimp only
  rcases hv : desk.carryOut task.stamp (validateLayout config 0 raws) with ⟨outcome, between⟩
  rw [hv] at valid after
  dsimp only at valid after ⊢
  subst after
  unfold PathStep.creationOf
  rw [← h.components, ← valid]
  cases outcome with
  | error failure => exact takes_of_kept rfl rfl
  | ok layout =>
    dsimp only [consulted_site, Task.stamp]
    cases hf : desk.site.pages.findByPath path with
    | some here =>
      have refused : desk.site.pages.create task.id task.now task.actor
          (draft path payload layout) = .error (PageStore.taken path) :=
        h.mirrored.create_of_taken hf
      rw [refused]
      exact takes_of_kept rfl (by rw [hf]; rfl)
    | none =>
      obtain ⟨pages, made⟩ := h.mirrored.create_of_free task.id task.now task.actor
        (draft path payload layout) hf
      rw [made]
      exact takes_of_written rfl (by rw [hf]; rfl) (h.mirrored.findByPath_create h.fresh made)

theorem resolved_of_path {pages : PageStore} (ht : text? "target" payload = some path)
    (hp : isId path = false) :
    resolved pages payload =
      match pages.findByPath path with
      | none => .error (.notFound "Page not found")
      | some page => .ok page := by
  unfold resolved
  rw [ht]
  dsimp only
  rw [PageTarget.ofText, if_neg (by simp [hp])]
  rfl

theorem Hosts.takes_publishPage (h : desk.Hosts definitions components task)
    (ht : text? "target" payload = some path) (hp : isId path = false) :
    desk.Takes (.publication task) path
      (desk.carryOut task.stamp (publishPage task.actor payload)) := by
  rw [carryOut_publishPage, resolved_of_path ht hp]
  cases hf : desk.site.pages.findByPath path with
  | none => exact takes_of_kept rfl (by rw [hf]; rfl)
  | some page =>
    obtain ⟨id, hs, rfl⟩ := h.mirrored.findByPath_iff.1 hf
    obtain rfl := (h.mirrored.of_page id page hs).1
    obtain ⟨pages, published⟩ := publish_of_found hs task.now task.actor
    dsimp only [Task.stamp]
    rw [published]
    exact takes_of_written rfl (by rw [hf]; rfl) (h.mirrored.findByPath_publish hs published)

theorem Hosts.takes_deletePage (h : desk.Hosts definitions components task)
    (ht : text? "target" payload = some path) (hp : isId path = false) :
    desk.Takes .deletion path (desk.carryOut task.stamp (deletePage payload)) := by
  rw [carryOut_deletePage, resolved_of_path ht hp]
  cases hf : desk.site.pages.findByPath path with
  | none => exact takes_of_kept rfl (by rw [hf]; rfl)
  | some page =>
    obtain ⟨id, hs, rfl⟩ := h.mirrored.findByPath_iff.1 hf
    obtain rfl := (h.mirrored.of_page id page hs).1
    obtain ⟨pages, deleted⟩ := delete_of_found hs
    dsimp only
    rw [deleted]
    exact takes_of_written rfl (by rw [hf]; rfl) (h.mirrored.findByPath_delete hs deleted)

/-- A command about a path takes one and the same step there on whatever desk hosts it. -/
theorem takes_handle (hn : Schema.Cache.NoCollision definitions) {descriptor : Descriptor}
    (about : task.IsAbout path) (known : task.submission.descriptor? = .ok descriptor) :
    ∃ step : PathStep, ∀ desk : Desk, desk.Hosts definitions components task →
      desk.Takes step path (desk.carryOut task.stamp (handle config task.actor descriptor)) := by
  obtain ⟨descriptor, text, known', rfl, about⟩ := about
  obtain rfl := Except.ok.inj (known.symm.trans known')
  rcases about with ⟨action, given⟩ | ⟨action | action, given, noId⟩
  all_goals simp only [handle, action]
  · rcases text?_of_string given with blank | ht
    · refine ⟨.refusal (.invalidPayload .missingPath), fun desk h => ?_⟩
      rw [carryOut_createPage, blank]
      exact takes_of_kept rfl rfl
    · cases hl : layout? descriptor.payload with
      | none =>
        refine ⟨.refusal (.invalidPayload .layoutNotArray), fun desk h => ?_⟩
        rw [carryOut_createPage, ht, hl]
        exact takes_of_kept rfl rfl
      | some raws => exact ⟨_, fun desk h => h.takes_createPage hn ht hl⟩
  · rcases text?_of_string given with blank | ht
    · refine ⟨.refusal (.invalidPayload .missingTarget), fun desk h => ?_⟩
      rw [carryOut_publishPage, resolved, blank]
      exact takes_of_kept rfl rfl
    · exact ⟨_, fun desk h => h.takes_publishPage ht noId⟩
  · rcases text?_of_string given with blank | ht
    · refine ⟨.refusal (.invalidPayload .missingTarget), fun desk h => ?_⟩
      rw [carryOut_deletePage, resolved, blank]
      exact takes_of_kept rfl rfl
    · exact ⟨_, fun desk h => h.takes_deletePage ht noId⟩

/-- Serves a command under the id and at the time it is given. -/
def undertake (config : Config) (task : Task) (desk : Desk) : Outcome × Desk :=
  desk.serve config task.stamp task.actor task.submission

theorem takes_undertake (hn : Schema.Cache.NoCollision definitions) (config : Config)
    (components : Registry) (about : task.IsAbout path) :
    ∃ step : PathStep, ∀ desk : Desk, desk.Hosts definitions components task →
      desk.Takes step path (desk.undertake config task) := by
  have ⟨descriptor, _, known, _⟩ := about
  obtain ⟨step, takes⟩ := takes_handle hn about known
  refine ⟨step, fun desk h => ?_⟩
  unfold undertake
  rw [serve_eq]
  simp only [attend, known]
  obtain ⟨outcome, pages, components, contacts⟩ := takes desk h
  exact ⟨outcome, pages, components, contacts⟩

theorem Versed.undertake (hn : Schema.Cache.NoCollision definitions) (h : desk.Versed definitions)
    (about : task.IsAbout path) : (desk.undertake config task).2.Versed definitions := by
  have within : (task.plan config).Within definitions := by
    apply Plan.Careful.within
    apply Submission.careful_plan
    intro descriptor known action
    obtain ⟨known', text, hk, -, about⟩ := about
    obtain rfl := Except.ok.inj (known.symm.trans hk)
    rcases about with ⟨other, -⟩ | ⟨other | other, -⟩ <;> cases action.symm.trans other
  have run := (h.run hn task.id task.now within).2.2
  change ((task.plan config).run (Desk.answer task.stamp) desk).2.Versed definitions at run
  rwa [Task.run_plan] at run

theorem Hosts.undertake (hn : Schema.Cache.NoCollision definitions)
    (h : desk.Hosts definitions components task) (ho : desk.Hosts definitions components other)
    (about : task.IsAbout path) (distinct : task.id ≠ other.id)
    (takes : desk.Takes step path (desk.undertake config task)) :
    (desk.undertake config task).2.Hosts definitions components other where
  components := takes.components.trans h.components
  versed := h.versed.undertake hn about
  mirrored := mirrored_serve h.mirrored h.fresh
  fresh := free_serve distinct ho.fresh

/-- A step at a path comes to the same before and after a step at another path. -/
theorem Takes.outcome_eq {away : PathStep} {elsewhere : String}
    {reached late early : Outcome × Desk}
    (first : desk.Takes away elsewhere reached) (after : reached.2.Takes step path late)
    (alone : desk.Takes step path early) (hne : elsewhere ≠ path) : late.1 = early.1 := by
  rw [after.outcome, alone.outcome, first.pages, if_neg hne]

theorem Takes.findByPath_eq {away : PathStep} {elsewhere : String} {reached late : Outcome × Desk}
    (first : desk.Takes away elsewhere reached) (after : reached.2.Takes step path late)
    (hne : elsewhere ≠ path) (other : String) :
    late.2.site.pages.findByPath other =
      if path = other then (step (desk.site.pages.findByPath path)).2
      else if elsewhere = other then (away (desk.site.pages.findByPath elsewhere)).2
      else desk.site.pages.findByPath other := by
  rw [after.pages, first.pages, first.pages, if_neg hne]

/-- Two commands about different paths, each with an id of its own, can change places. -/
theorem Hosts.commute (hn : Schema.Cache.NoCollision definitions) {a b : Task} {p q : String}
    (hostsA : desk.Hosts definitions components a) (hostsB : desk.Hosts definitions components b)
    (aboutA : a.IsAbout p) (aboutB : b.IsAbout q) (paths : p ≠ q) (distinct : a.id ≠ b.id) :
    ((desk.undertake config a).2.undertake config b).1 = (desk.undertake config b).1 ∧
      ((desk.undertake config b).2.undertake config a).1 = (desk.undertake config a).1 ∧
      ((desk.undertake config a).2.undertake config b).2.site =
        ((desk.undertake config b).2.undertake config a).2.site := by
  obtain ⟨stepA, takesA⟩ := takes_undertake hn config components aboutA
  obtain ⟨stepB, takesB⟩ := takes_undertake hn config components aboutB
  have aloneA := takesA desk hostsA
  have aloneB := takesB desk hostsB
  have hostsAfterA := hostsA.undertake hn hostsB aboutA distinct aloneA
  have hostsAfterB := hostsB.undertake hn hostsA aboutB distinct.symm aloneB
  have lateB := takesB _ hostsAfterA
  have lateA := takesA _ hostsAfterB
  refine ⟨aloneA.outcome_eq lateB aloneB paths, aloneB.outcome_eq lateA aloneA paths.symm, ?_⟩
  have pages : ((desk.undertake config a).2.undertake config b).2.site.pages =
      ((desk.undertake config b).2.undertake config a).2.site.pages := by
    apply (mirrored_serve hostsAfterA.mirrored hostsAfterA.fresh).ext
      (mirrored_serve hostsAfterB.mirrored hostsAfterB.fresh)
    intro path
    refine (aloneA.findByPath_eq lateB paths path).trans
      (Eq.trans ?_ (aloneB.findByPath_eq lateA paths.symm path).symm)
    by_cases hq : q = path
    · rw [if_pos hq, if_neg (hq ▸ paths), if_pos hq]
    · rw [if_neg hq, if_neg hq]
  have components := (lateB.components.trans aloneA.components).trans
    (lateA.components.trans aloneB.components).symm
  have contacts := (lateB.contacts.trans aloneA.contacts).trans
    (lateA.contacts.trans aloneB.contacts).symm
  exact Site.ext components pages contacts

theorem versed_session (config : Config) (ids : Nat → String) (components : Registry)
    (contacts : ContactStore) (issued : Nat) (events : List Event)
    (hn : Schema.Cache.NoCollision (schemasInPlay components events)) :
    let desk := (opening config components contacts issued).session config ids events
    desk.Versed (schemasInPlay components events) := by
  intro desk
  have sound : Sound config (schemasInPlay components events) desk :=
    session_invariant (sound_opening config components contacts issued events)
      fun desk event he h => h.meet hn event fun definition hd => Or.inr ⟨event, he, hd⟩
  exact ⟨fun type component hf definition hs => sound.schemas type component definition hf hs,
    sound.cache⟩

/-- Two commands about different paths, each with an id of its own, come to the same in either
order: each has the same outcome, and the components, pages and contacts are the same in the end.
No id is given out twice in the session before them, nor was either of theirs, and no two of the
schemas in play have one hash. -/
theorem commands_at_two_paths_commute (config : Config) (ids : Nat → String)
    (hi : Function.Injective ids) (components : Registry) (contacts : ContactStore) (issued : Nat)
    (events : List Event) (hn : Schema.Cache.NoCollision (schemasInPlay components events)) :
    let desk := (opening config components contacts issued).session config ids events
    ∀ (a b : Task) (p q : String), a.IsAbout p → b.IsAbout q → p ≠ q → a.id ≠ b.id →
      desk.site.pages.findById a.id = none → desk.site.pages.findById b.id = none →
      let (resultA, afterA) := desk.undertake config a
      let (resultB, afterB) := desk.undertake config b
      (afterA.undertake config b).1 = resultB ∧ (afterB.undertake config a).1 = resultA ∧
        (afterA.undertake config b).2.site = (afterB.undertake config a).2.site := by
  intro desk a b p q aboutA aboutB paths distinct freshA freshB
  have versed : desk.Versed (schemasInPlay components events) :=
    versed_session config ids components contacts issued events hn
  have mirrored : desk.site.pages.Mirrored :=
    mirrored_session config hi components contacts issued events
  have hostsA : desk.Hosts _ desk.site.components a := ⟨rfl, versed, mirrored, freshA⟩
  have hostsB : desk.Hosts _ desk.site.components b := ⟨rfl, versed, mirrored, freshB⟩
  exact hostsA.commute hn hostsB aboutA aboutB paths distinct

/-- One page is created and another one deleted, in either order. -/
theorem commands_at_two_paths_commute_deletion :
    let creation (path : String) : Submission :=
      .request ⟨"create_page", [("layout", .array []), ("path", .string path)], none⟩
    let desk := (opening {} {} {} 0).session {} Nat.repr [.command default none (creation "/a")]
    let a : Task := ⟨"a", default, none, creation " /b "⟩
    let b : Task := ⟨"b", default, none, .text "delete page /a"⟩
    ∃ created, (desk.undertake {} a).1 = .ok (.page created) ∧ created.path = "/b" ∧
      (desk.undertake {} b).1 = .ok (.deletedPage "0" "/a") ∧
      ((desk.undertake {} a).2.undertake {} b).1 = .ok (.deletedPage "0" "/a") ∧
      ((desk.undertake {} b).2.undertake {} a).1 = .ok (.page created) ∧
      ((desk.undertake {} a).2.undertake {} b).2.site =
        ((desk.undertake {} b).2.undertake {} a).2.site := by
  intro creation desk a b
  have hi : Function.Injective Nat.repr := fun _ _ h => Nat.repr_injective h
  have noSchema : schemasInPlay {} [.command default none (creation "/a")] = ∅ := by
    rw [Set.eq_empty_iff_forall_notMem]
    rintro definition (⟨type, component, hf, -⟩ | ⟨event, he, hb⟩)
    · simp [Registry.find] at hf
    · obtain rfl := List.mem_singleton.1 he
      obtain ⟨descriptor, hd, action, -⟩ := hb
      cases hd
      cases action
  have aboutA : a.IsAbout "/b" := ⟨_, " /b ", rfl, rfl, .inl ⟨rfl, rfl⟩⟩
  have aboutB : b.IsAbout "/a" := ⟨_, "/a", rfl, rfl, .inr ⟨.inr rfl, rfl, rfl⟩⟩
  obtain ⟨fstB, fstA, site⟩ := commands_at_two_paths_commute {} Nat.repr hi {} {} 0 _
    (by rw [noSchema]; simp [Schema.Cache.NoCollision]) a b "/b" "/a" aboutA aboutB (by decide)
    (by decide) (by decide +kernel) (by decide +kernel)
  have deleted : (desk.undertake {} b).1 = .ok (.deletedPage "0" "/a") := by rfl
  exact ⟨_, rfl, rfl, deleted, fstB.trans deleted, fstA, site⟩

end Desk

end SiteDesk
