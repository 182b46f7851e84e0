import Mathlib.Data.Fin.VecNotation
import SiteDesk.Proofs.Effects
import SiteDesk.Proofs.Linearization

/-!
Commands that a desk carries out at the same time, with their calls interleaved in any way. There is
always an order in which the desk could have served them one after the other.
-/
namespace SiteDesk

open SiteDesk.Command

/-- A command with its time, the one who gives it, and the id of what it may create. -/
structure Task where
  id : String
  now : Timestamp
  actor : Option String
  submission : Submission

namespace Task

def stamp (task : Task) : Stamp :=
  ⟨fun _ => task.id, task.now⟩

def plan (config : Config) (task : Task) : Plan Outcome :=
  task.submission.plan config task.actor

def Creates (path : String) (task : Task) : Prop :=
  ∃ descriptor, task.submission.descriptor? = .ok descriptor ∧
    descriptor.action = .createPage ∧ text? "path" descriptor.payload = some path

def schemasInPlay {ι : Type} (components : Registry) (tasks : ι → Task) : Set Json :=
  { definition |
    (∃ type component, components.find type = some component ∧
      component.schema? = some definition) ∨
    ∃ i descriptor, (tasks i).submission.descriptor? = .ok descriptor ∧
      descriptor.action = .createComponent ∧
        Desk.newSchema? descriptor.payload = some definition }

theorem run_plan (config : Config) (task : Task) (desk : Desk) :
    (task.plan config).run (Desk.answer task.stamp) desk =
      desk.serve config task.stamp task.actor task.submission :=
  Submission.run_plan task.submission desk

end Task

namespace Desk

open PageStore

variable {config : Config} {stamp : Stamp} {actor : Option String} {submission : Submission}
  {desk : Desk}

/-- To the pages, every command is an operation. -/
theorem pages_serve (config : Config) (stamp : Stamp) (actor : Option String)
    (submission : Submission) (desk : Desk) :
    ∃ operation : Operation, operation.Gives (stamp.id desk.issued) ∧
      (desk.serve config stamp actor submission).2.site.pages =
        desk.site.pages.operate operation := by
  have unchanged : ∃ operation : Operation, operation.Gives (stamp.id desk.issued) ∧
      desk.site.pages = desk.site.pages.operate operation := ⟨.findById "", trivial, rfl⟩
  rcases serve_effect config stamp actor submission desk with
    ⟨failure, -, hs⟩ | ⟨descriptor, outcome, after, -, effect, hs⟩
  · rw [hs]
    exact unchanged
  · rw [hs]
    cases effect with
    | failed failure definitions consults => exact unchanged
    | pageCreated path raws layout definitions record pages action consults validated stored =>
      refine ⟨.create _ stamp.now actor (draft path descriptor.payload layout), rfl, ?_⟩
      simp only [operate, stored]
      rfl
    | pagePublished page record pages action found stored =>
      refine ⟨.publish stamp.now actor page.id, trivial, ?_⟩
      simp only [operate, stored]
      rfl
    | pageDeleted page pages action found stored =>
      refine ⟨.delete page.id, trivial, ?_⟩
      simp only [operate, stored]
      rfl
    | componentCreated component definitions record components action consults schema stored =>
      exact unchanged
    | contactsListed records action => exact unchanged
    | contactMarked record contacts action => exact unchanged

theorem mirrored_serve (h : desk.site.pages.Mirrored)
    (fresh : desk.site.pages.findById (stamp.id desk.issued) = none) :
    (desk.serve config stamp actor submission).2.site.pages.Mirrored := by
  obtain ⟨operation, hg, ho⟩ := pages_serve config stamp actor submission desk
  rw [ho]
  exact h.operate (hg.issuesFresh fresh)

theorem free_serve {id : String} (hne : stamp.id desk.issued ≠ id)
    (h : desk.site.pages.findById id = none) :
    (desk.serve config stamp actor submission).2.site.pages.findById id = none := by
  obtain ⟨operation, hg, ho⟩ := pages_serve config stamp actor submission desk
  rw [ho]
  exact operate_free hg hne h

/-- A command that reports a page as deleted has deleted the page that its target names. -/
theorem serve_deletedPage {id path : String}
    (h : (desk.serve config stamp actor submission).1 = .ok (.deletedPage id path)) :
    ∃ page, (∃ key, desk.site.pages.findById key = some page) ∧ page.id = id ∧ page.path = path ∧
      desk.site.pages.delete id = .ok (desk.serve config stamp actor submission).2.site.pages := by
  rcases serve_effect config stamp actor submission desk with
    ⟨failure, -, hs⟩ | ⟨descriptor, outcome, after, -, effect, hs⟩
  · rw [hs] at h
    cases h
  · rw [hs] at h ⊢
    dsimp only at h
    subst h
    cases effect with
    | pageDeleted page pages action found stored =>
      exact ⟨page, findById_of_resolved found, rfl, rfl, stored⟩

theorem carryOut_createPage_ok {payload : Json.Members} {path : String} {output : Output}
    {after : Desk} (hp : text? "path" payload = some path)
    (h : desk.carryOut stamp (createPage config actor payload) = (.ok output, after)) :
    desk.site.pages.paths[path]? = none ∧ after.site.pages.paths[path]? ≠ none := by
  rw [carryOut_createPage, hp] at h
  cases hl : layout? payload with
  | none => simp [hl] at h
  | some raws =>
    obtain ⟨definitions, -, hv⟩ := carryOut_validateLayout_snd config stamp 0 raws desk
    rcases hm : desk.carryOut stamp (validateLayout config 0 raws) with ⟨validated, between⟩
    rw [hm] at hv
    dsimp only at hv
    subst hv
    cases validated with
    | error failure => simp [hl, hm] at h
    | ok layout =>
      simp only [hl, hm] at h
      cases hs : (desk.consulted definitions).site.pages.create
          (stamp.id (desk.consulted definitions).issued) stamp.now actor
          (draft path payload layout) with
      | error error =>
        rw [hs] at h
        cases h
      | ok stored =>
        obtain ⟨free, taken⟩ := create_ok_paths hs
        rw [hs] at h
        refine ⟨free, ?_⟩
        rw [← (Prod.mk.inj h).2]
        have ht : stored.2.paths[path]? = some (stamp.id desk.issued) := by
          rw [taken]
          exact if_pos rfl
        change stored.2.paths[path]? ≠ none
        rw [ht]
        exact Option.some_ne_none _

theorem serve_createPage {descriptor : Descriptor} {path : String} {output : Output}
    (known : submission.descriptor? = .ok descriptor) (action : descriptor.action = .createPage)
    (hp : text? "path" descriptor.payload = some path)
    (h : (desk.serve config stamp actor submission).1 = .ok output) :
    desk.site.pages.paths[path]? = none ∧
      (desk.serve config stamp actor submission).2.site.pages.paths[path]? ≠ none := by
  rcases hc : desk.carryOut stamp (createPage config actor descriptor.payload) with ⟨outcome, after⟩
  have attended : desk.attend config stamp actor submission = (outcome, after) := by
    simp only [attend, known, handle, action, hc]
  rw [serve_eq, attended] at h ⊢
  dsimp only at h ⊢
  rw [h] at hc
  obtain ⟨free, taken⟩ := carryOut_createPage_ok hp hc
  exact ⟨free, taken⟩

/-- A path that is taken stays so, unless a page is reported as deleted from it. -/
theorem taken_serve (hm : desk.site.pages.Mirrored) {path : String}
    (h : desk.site.pages.paths[path]? ≠ none)
    (undeleted : ∀ id, (desk.serve config stamp actor submission).1 ≠ .ok (.deletedPage id path)) :
    (desk.serve config stamp actor submission).2.site.pages.paths[path]? ≠ none := by
  rcases serve_effect config stamp actor submission desk with
    ⟨failure, -, hs⟩ | ⟨descriptor, outcome, after, -, effect, hs⟩
  · rw [hs]
    exact h
  · rw [hs] at undeleted ⊢
    dsimp only at undeleted ⊢
    cases effect with
    | failed failure definitions consults => exact h
    | pageCreated other raws layout definitions record pages action consults validated stored =>
      change pages.paths[path]? ≠ none
      rw [(create_ok_paths stored).2]
      split
      · simp
      · exact h
    | pagePublished page record pages action found stored =>
      change pages.paths[path]? ≠ none
      rw [publish_ok_paths stored]
      exact h
    | pageDeleted page pages action found stored =>
      obtain ⟨key, hk⟩ := findById_of_resolved found
      have hid : page.id = key := (hm.of_page key page hk).1
      change pages.paths[path]? ≠ none
      rw [delete_ok_paths (hid ▸ hk) stored, if_neg]
      · exact h
      · rintro rfl
        exact undeleted page.id rfl
    | componentCreated component definitions record components action consults schema stored =>
      exact h
    | contactsListed records action => exact h
    | contactMarked record contacts action => exact h

section Tasks

variable {ι : Type} {tasks : ι → Task} {order : List ι} {outcomes : ι → Outcome}

/-- The pages are in order, and none of them has the id of one that is still to be created. -/
structure Ready (tasks : ι → Task) (order : List ι) (desk : Desk) : Prop where
  nodup : order.Nodup
  mirrored : desk.site.pages.Mirrored
  fresh : ∀ i ∈ order, desk.site.pages.findById (tasks i).id = none

theorem Ready.serve (distinct : Function.Injective fun i => (tasks i).id) {i : ι} {rest : List ι}
    (h : Ready tasks (i :: rest) desk) :
    Ready tasks rest
      (desk.serve config (tasks i).stamp (tasks i).actor (tasks i).submission).2 := by
  obtain ⟨hi, hr⟩ := List.nodup_cons.1 h.nodup
  refine ⟨hr, mirrored_serve h.mirrored (h.fresh i (by simp)), ?_⟩
  intro j hj
  apply free_serve
  · intro he
    exact hi (distinct he ▸ hj)
  · exact h.fresh j (List.mem_cons_of_mem _ hj)

theorem deletions_in_turn (distinct : Function.Injective fun i => (tasks i).id)
    (ready : Ready tasks order desk)
    (run : (Plan.inTurn (fun i => answer (tasks i).stamp) (fun i => (tasks i).plan config) order
      desk).1 = order.map outcomes) (id : String) :
    ∀ i ∈ order, ∀ j ∈ order, (∃ path, outcomes i = .ok (.deletedPage id path)) →
      (∃ path, outcomes j = .ok (.deletedPage id path)) → i = j := by
  refine Plan.winner_unique (fun order desk => desk.site.pages.findById id = none ∧
    ∀ i ∈ order, (tasks i).id ≠ id) ?_ ?_ ?_ ready run
  · intro i rest desk ready
    rw [Task.run_plan]
    exact ready.serve distinct
  · rintro i rest desk ready result ⟨path, hp⟩
    rw [Task.run_plan] at result ⊢
    obtain ⟨-, -, -, -, hd⟩ := serve_deletedPage (result.trans hp)
    obtain ⟨found, hf, hg⟩ := delete_ok hd
    refine ⟨by rw [hg, if_pos rfl], ?_⟩
    intro j hj he
    have free := ready.fresh j (List.mem_cons_of_mem _ hj)
    rw [he, hf] at free
    cases free
  · rintro i rest desk ready ⟨gone, never⟩ result
    rw [Task.run_plan] at result ⊢
    refine ⟨?_, free_serve (never i (by simp)) gone, ?_⟩
    · rintro ⟨path, hp⟩
      obtain ⟨-, -, -, -, hd⟩ := serve_deletedPage (result.trans hp)
      obtain ⟨found, hf, -⟩ := delete_ok hd
      rw [gone] at hf
      cases hf
    · exact fun j hj => never j (List.mem_cons_of_mem _ hj)

theorem creations_in_turn (distinct : Function.Injective fun i => (tasks i).id)
    (ready : Ready tasks order desk)
    (run : (Plan.inTurn (fun i => answer (tasks i).stamp) (fun i => (tasks i).plan config) order
      desk).1 = order.map outcomes)
    {path : String} (undeleted : ∀ i id, outcomes i ≠ .ok (.deletedPage id path)) :
    ∀ i ∈ order, ∀ j ∈ order, ((tasks i).Creates path ∧ ∃ output, outcomes i = .ok output) →
      ((tasks j).Creates path ∧ ∃ output, outcomes j = .ok output) → i = j := by
  refine Plan.winner_unique (fun _ desk => desk.site.pages.paths[path]? ≠ none) ?_ ?_ ?_ ready run
  · intro i rest desk ready
    rw [Task.run_plan]
    exact ready.serve distinct
  · rintro i rest desk ready result ⟨⟨descriptor, known, action, hp⟩, output, ho⟩
    rw [Task.run_plan] at result ⊢
    exact (serve_createPage known action hp (result.trans ho)).2
  · intro i rest desk ready taken result
    rw [Task.run_plan] at result ⊢
    refine ⟨?_, taken_serve ready.mirrored taken fun id hd => undeleted i id (result ▸ hd)⟩
    rintro ⟨⟨descriptor, known, action, hp⟩, output, ho⟩
    exact taken (serve_createPage known action hp (result.trans ho)).1

end Tasks

/-- However the calls of commands are interleaved, there is an order in which the desk comes to the
same outcomes and the same site when it serves the commands one after the other, and in which a
command that ended before another began comes before it. So at most one of them deletes a certain
page, and at most one creates a page at a certain path if none deletes a page there. The ids that
the commands would give out differ and are not taken, no two of the schemas in play have one hash,
and the cache tells the truth about them. -/
theorem commands_linearizable (config : Config) {ι : Type} [DecidableEq ι] (tasks : ι → Task)
    (desk after : Desk) (schedule : List ι) (outcomes : ι → Outcome)
    (mirrored : desk.site.pages.Mirrored)
    (distinct : Function.Injective fun i => (tasks i).id)
    (fresh : ∀ i, desk.site.pages.findById (tasks i).id = none)
    (collisionFree :
      Schema.Cache.NoCollision (Task.schemasInPlay desk.site.components tasks))
    (faithful :
      Schema.Cache.Faithful (Task.schemasInPlay desk.site.components tasks) desk.schemas)
    (run : Plan.Interleaving (fun i => answer (tasks i).stamp) (fun i => (tasks i).plan config) desk
      schedule outcomes after) :
    (∃ order last, order.Nodup ∧ (∀ i, i ∈ order) ∧
      (∀ i j, Plan.Precedes schedule i j → Plan.Precedes order i j) ∧
      Plan.inTurn (fun i => answer (tasks i).stamp) (fun i => (tasks i).plan config) order desk =
        (order.map outcomes, last) ∧
      last.site = after.site) ∧
    (∀ i j id path other, outcomes i = .ok (.deletedPage id path) →
      outcomes j = .ok (.deletedPage id other) → i = j) ∧
    ∀ path, (∀ i id, outcomes i ≠ .ok (.deletedPage id path)) →
      ∀ i j output other, (tasks i).Creates path → (tasks j).Creates path →
        outcomes i = .ok output → outcomes j = .ok other → i = j := by
  have versed : desk.Versed (Task.schemasInPlay desk.site.components tasks) :=
    ⟨fun type component hf definition hs => Or.inl ⟨type, component, hf, hs⟩, faithful⟩
  have within : ∀ i, ((tasks i).plan config).Within
      (Task.schemasInPlay desk.site.components tasks) := by
    intro i
    apply Plan.Careful.within
    apply Submission.careful_plan
    exact fun descriptor known action definition hd => Or.inr ⟨i, descriptor, known, action, hd⟩
  have underway : Underway (fun i => (tasks i).id) (fun i => (tasks i).now)
      (fun i => (tasks i).plan config) [] (fun _ => none) (fun i => (tasks i).plan config)
      desk.site := by
    refine ⟨mirrored, fun i _ => fresh i, fun i _ => Or.inl (asking_start ?_), by simp⟩
    exact Submission.careful_plan fun _ _ _ _ _ => trivial
  obtain ⟨-, order, hs⟩ :=
    underway.serializable distinct (versed.interleaving collisionFree run within)
  have members : ∀ i, i ∈ order := fun i => (hs.members i).2 rfl
  obtain ⟨results, site⟩ := versed.inTurn collisionFree within order
  rw [hs.runs] at results site
  have ready : Ready tasks order desk := ⟨hs.nodup, mirrored, fun i _ => fresh i⟩
  refine ⟨⟨order, _, hs.nodup, members, ?_, Prod.ext results rfl, site⟩, ?_, ?_⟩
  · exact fun i j hp => hs.precedes i j (members i) (members j) hp
  · intro i j id path other hi hj
    exact deletions_in_turn distinct ready results id i (members i) j (members j) ⟨path, hi⟩
      ⟨other, hj⟩
  · intro path undeleted i j output other ci cj hi hj
    exact creations_in_turn distinct ready results undeleted i (members i) j (members j)
      ⟨ci, output, hi⟩ ⟨cj, other, hj⟩

/-- Two commands to create a page at one path. Both look their component up before either creates
the page; the one that comes first there succeeds. -/
theorem commands_linearizable_race :
    let creation : Submission := .descriptor ⟨.createPage,
      [("layout", .array [.object [("type", .string "Hero")]]), ("path", .string "/a")], ""⟩
    let tasks : Fin 2 → Task := ![⟨"1", default, none, creation⟩, ⟨"2", default, none, creation⟩]
    let desk := ((empty {}).answer ⟨Nat.repr, default⟩ (.createComponent ⟨"Hero", "", none⟩)).2
    ∃ (created : Page) (after : Desk) (order : List (Fin 2)) (last : Desk),
      Plan.Interleaving (fun i => answer (tasks i).stamp) (fun i => (tasks i).plan {}) desk
        [0, 1, 1, 0, 0, 1] ![.error (.ofStore (PageStore.taken "/a")), .ok (.page created)] after ∧
      order.Nodup ∧ (∀ i, i ∈ order) ∧
      Plan.inTurn (fun i => answer (tasks i).stamp) (fun i => (tasks i).plan {}) order desk =
        (order.map ![.error (.ofStore (PageStore.taken "/a")), .ok (.page created)], last) ∧
      last.site = after.site := by
  intro creation tasks desk
  obtain ⟨created, after, run⟩ : ∃ created after,
      Plan.Interleaving (fun i => answer (tasks i).stamp) (fun i => (tasks i).plan {}) desk
        [0, 1, 1, 0, 0, 1] ![.error (.ofStore (PageStore.taken "/a")), .ok (.page created)] after :=
    ⟨_, _, .step rfl <| .step rfl <| .step rfl <| .step rfl <| .step rfl <| .step rfl <|
      .done _ (Fin.forall_fin_two.2 ⟨rfl, rfl⟩)⟩
  have distinct : Function.Injective fun i => (tasks i).id := by
    show ∀ i j : Fin 2, (tasks i).id = (tasks j).id → i = j
    decide
  have noSchema : Task.schemasInPlay desk.site.components tasks = ∅ := by
    rw [Set.eq_empty_iff_forall_notMem]
    rintro definition (⟨type, component, hf, hs⟩ | ⟨i, descriptor, known, action, -⟩)
    · have hc : (({} : Registry).create "0" default ⟨"Hero", "", none⟩) =
          .ok (.ofNew "0" default ⟨"Hero", "", none⟩, desk.site.components) := rfl
      rw [(Registry.create_ok hc).2.2] at hf
      split at hf
      · cases hf
        cases hs
      · simp [Registry.find] at hf
    · have same : ∀ i, (tasks i).submission = creation := Fin.forall_fin_two.2 ⟨rfl, rfl⟩
      rw [same i] at known
      cases known
      cases action
  have mirrored : desk.site.pages.Mirrored := PageStore.mirrored_empty
  have fresh : ∀ i, desk.site.pages.findById (tasks i).id = none :=
    fun i => PageStore.findById_empty _
  obtain ⟨⟨order, last, nodup, members, -, runs, site⟩, -⟩ :=
    commands_linearizable {} tasks desk after _ _ mirrored distinct fresh
      (by rw [noSchema]; simp [Schema.Cache.NoCollision])
      (Schema.Cache.faithful_of_entries_eq_empty rfl) run
  exact ⟨created, after, order, last, run, nodup, members, runs, site⟩

end Desk

end SiteDesk
