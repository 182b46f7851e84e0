import SiteDesk.Proofs.CacheFidelity
import SiteDesk.Proofs.Discipline
import SiteDesk.Proofs.PathIndex

/-!
A site that answers calls by itself, with the compiler in place of the cache and without a log. As
long as the cache is faithful a desk cannot be told from its site by the plans of commands, whether
they run in turn or interleaved.
-/
namespace SiteDesk

open SiteDesk.Command

def Site.answer (id : String) (now : Timestamp) (c : Call) (site : Site) : c.Reply × Site :=
  let (reply, desk) := Desk.answer ⟨fun _ => id, now⟩ c { site, schemas := { capacity := 0 } }
  (reply, desk.site)

namespace Command

def Call.Within (definitions : Set Json) : Call → Prop
  | .compileSchema definition => definition ∈ definitions
  | .createComponent component =>
    ∀ definition, schemaOf component.propsSchema = some definition → definition ∈ definitions
  | _ => True

/-- An answer as it comes from stores in memory: no look-up fails, and the schema of a component is
among some definitions. -/
def Call.Expects (definitions : Set Json) : (c : Call) → c.Reply → Prop
  | .findComponent _, reply =>
    ∃ found, reply = .ok found ∧ ∀ component : Component, found = some component →
      component.SchemaIn definitions
  | .findPageById _, reply => ∃ found, reply = .ok found
  | .findPageByPath _, reply => ∃ found, reply = .ok found
  | _, _ => True

namespace Plan

variable {definitions : Set Json} {α : Type}

def Within (definitions : Set Json) : Plan α → Prop
  | .done _ => True
  | .call c next =>
    c.Within definitions ∧ ∀ reply, c.Expects definitions reply → Within definitions (next reply)

theorem Settles.within {outcome : Outcome} {plan : Plan Outcome} (h : plan.Settles outcome) :
    plan.Within definitions := by
  induction plan with
  | done result => trivial
  | call c next ih =>
    obtain ⟨hc, hs⟩ := h
    cases c <;> first
      | exact hc.elim
      | exact ⟨trivial, fun reply _ => ih reply (hs reply)⟩

theorem Pursues.within {id : String} {plan : Plan Outcome} (h : plan.Pursues id) :
    plan.Within definitions := by
  cases h with
  | publish settles missing => exact ⟨trivial, fun reply _ => (settles reply).choose_spec.within⟩
  | delete settles missing => exact ⟨trivial, fun reply _ => (settles reply).choose_spec.within⟩

theorem FollowsUp.within {next : Except StoreError (Option Page) → Plan Outcome}
    (h : FollowsUp next) (found : Option Page) : (next (.ok found)).Within definitions := by
  cases found with
  | none => exact h.absent.within
  | some page => exact (h.present page).within

theorem Careful.within {plan : Plan Outcome} (h : plan.Careful definitions) :
    plan.Within definitions := by
  induction h with
  | @last c next isLast settles =>
    refine ⟨?_, fun reply _ => (settles reply).choose_spec.within⟩
    cases c <;> first
      | exact isLast
      | exact isLast.elim
  | findComponent absent present ih =>
    refine ⟨trivial, ?_⟩
    rintro _ ⟨_ | component, rfl, hs⟩
    · exact absent.choose_spec.within
    · exact ih component (hs component rfl)
  | compileSchema known compiled ih => exact ⟨known, fun reply _ => ih reply⟩
  | findPageById follows =>
    refine ⟨trivial, ?_⟩
    rintro _ ⟨found, rfl⟩
    exact follows.within found
  | findPageByPath follows =>
    refine ⟨trivial, ?_⟩
    rintro _ ⟨found, rfl⟩
    exact follows.within found

end Plan

end Command

namespace Desk

open Schema

variable {definitions : Set Json} {desk : Desk}

/-- The registered schemas are among some definitions, and the cache is faithful to these. -/
structure Versed (definitions : Set Json) (desk : Desk) : Prop where
  schemas : ∀ type component, desk.site.components.find type = some component →
    component.SchemaIn definitions
  cache : Cache.Faithful definitions desk.schemas

theorem Versed.mem_of_blockSchema? (h : desk.Versed definitions) {raw definition : Json}
    (hb : blockSchema? desk.site.components raw = some definition) : definition ∈ definitions := by
  obtain ⟨type, component, hf, hs⟩ := blockSchema?_eq_some hb
  exact h.schemas type component hf definition hs

/-- A desk answers as its site does, and stays versed. -/
theorem Versed.answer (hn : Cache.NoCollision definitions) (h : desk.Versed definitions)
    (id : String) (now : Timestamp) {c : Call} (hc : c.Within definitions) :
    (desk.answer ⟨fun _ => id, now⟩ c).1 = (desk.site.answer id now c).1 ∧
      (desk.answer ⟨fun _ => id, now⟩ c).2.site = (desk.site.answer id now c).2 ∧
      (desk.answer ⟨fun _ => id, now⟩ c).2.Versed definitions ∧
      c.Expects definitions (desk.answer ⟨fun _ => id, now⟩ c).1 := by
  cases c with
  | findComponent type =>
    refine ⟨rfl, rfl, h, _, rfl, ?_⟩
    intro component hf
    exact h.schemas type component hf
  | createComponent component =>
    simp only [Desk.answer, Site.answer, created]
    cases hs : desk.site.components.create id now component with
    | error error => exact ⟨rfl, rfl, h, trivial⟩
    | ok stored =>
      obtain ⟨hr, hfree, hf⟩ := Registry.create_ok hs
      refine ⟨rfl, rfl, ⟨?_, h.cache⟩, trivial⟩
      intro type found ht
      change stored.2.find type = some found at ht
      rw [hf] at ht
      split at ht
      · intro definition hd
        rw [← Option.some.inj ht, hr] at hd
        exact hc definition hd
      · exact h.schemas type found ht
  | createPage page actor =>
    simp only [Desk.answer, Site.answer, created]
    cases desk.site.pages.create id now actor page <;>
      exact ⟨rfl, rfl, ⟨h.schemas, h.cache⟩, trivial⟩
  | publishPage id actor =>
    simp only [Desk.answer, Site.answer]
    cases desk.site.pages.publish now actor id <;>
      exact ⟨rfl, rfl, ⟨h.schemas, h.cache⟩, trivial⟩
  | findPageById id => exact ⟨rfl, rfl, h, _, rfl⟩
  | findPageByPath path => exact ⟨rfl, rfl, h, _, rfl⟩
  | deletePage id =>
    simp only [Desk.answer, Site.answer]
    cases desk.site.pages.delete id <;> exact ⟨rfl, rfl, ⟨h.schemas, h.cache⟩, trivial⟩
  | listContacts limit => exact ⟨rfl, rfl, h, trivial⟩
  | markContactRead id =>
    simp only [Desk.answer, Site.answer]
    cases desk.site.contacts.markRead id <;> exact ⟨rfl, rfl, ⟨h.schemas, h.cache⟩, trivial⟩
  | compileSchema definition =>
    have hd := h.cache.compile_fst hc
    have he : (Cache.compile definition { capacity := 0 }).1 = Schema.compile definition :=
      (Cache.faithful_of_entries_eq_empty rfl).compile_fst hc
    exact ⟨hd.trans he.symm, rfl, ⟨h.schemas, h.cache.compile_snd hn hc⟩, trivial⟩
  | record note => exact ⟨rfl, rfl, ⟨h.schemas, h.cache⟩, trivial⟩

section Plans

variable {α ι : Type} {ids : ι → String} {times : ι → Timestamp}

theorem Versed.run (hn : Cache.NoCollision definitions) {plan : Plan α} (id : String)
    (now : Timestamp) (h : desk.Versed definitions) (hp : plan.Within definitions) :
    (plan.run (Desk.answer ⟨fun _ => id, now⟩) desk).1 =
        (plan.run (Site.answer id now) desk.site).1 ∧
      (plan.run (Desk.answer ⟨fun _ => id, now⟩) desk).2.site =
        (plan.run (Site.answer id now) desk.site).2 ∧
      (plan.run (Desk.answer ⟨fun _ => id, now⟩) desk).2.Versed definitions := by
  induction plan generalizing desk with
  | done result => exact ⟨rfl, rfl, h⟩
  | call c next ih =>
    obtain ⟨hr, hs, hv, he⟩ := h.answer hn id now hp.1
    have hi := ih _ hv (hp.2 _ he)
    rw [Plan.run_call, Plan.run_call, ← hr, ← hs]
    exact hi

theorem Versed.inTurn (hn : Cache.NoCollision definitions) {plan : ι → Plan α}
    (hp : ∀ i, (plan i).Within definitions) (order : List ι) (h : desk.Versed definitions) :
    (Plan.inTurn (fun i => Desk.answer ⟨fun _ => ids i, times i⟩) plan order desk).1 =
        (Plan.inTurn (fun i => Site.answer (ids i) (times i)) plan order desk.site).1 ∧
      (Plan.inTurn (fun i => Desk.answer ⟨fun _ => ids i, times i⟩) plan order desk).2.site =
        (Plan.inTurn (fun i => Site.answer (ids i) (times i)) plan order desk.site).2 := by
  induction order generalizing desk with
  | nil => exact ⟨rfl, rfl⟩
  | cons i rest ih =>
    obtain ⟨hr, hs, hv⟩ := h.run hn (ids i) (times i) (hp i)
    obtain ⟨hi, hl⟩ := ih hv
    simp only [Plan.inTurn]
    rw [hi, hl, hr, hs]
    exact ⟨rfl, rfl⟩

theorem Versed.interleaving [DecidableEq ι] (hn : Cache.NoCollision definitions)
    {progress : ι → Plan α} {schedule : List ι} {results : ι → α} {after : Desk}
    (run : Plan.Interleaving (fun i => Desk.answer ⟨fun _ => ids i, times i⟩) progress desk schedule
      results after)
    (hp : ∀ i, (progress i).Within definitions) (h : desk.Versed definitions) :
    Plan.Interleaving (fun i => Site.answer (ids i) (times i)) progress desk.site schedule results
      after.site := by
  induction run with
  | done state ended => exact .done _ ended
  | @step progress desk after schedule results i c next asks later ih =>
    have hw : (Plan.call c next).Within definitions := asks ▸ hp i
    obtain ⟨hr, hs, hv, he⟩ := h.answer hn (ids i) (times i) hw.1
    refine .step asks ?_
    rw [← hr, ← hs]
    apply ih _ hv
    intro j
    by_cases hj : j = i
    · subst hj
      rw [Function.update_self]
      exact hw.2 _ he
    · rw [Function.update_of_ne hj]
      exact hp j

end Plans

end Desk

namespace PageStore

variable {store : PageStore} {id : String}

def Operation.Gives (id : String) : Operation → Prop
  | .create given _ _ _ => given = id
  | _ => True

theorem Operation.Gives.issuesFresh {operation : Operation} (h : operation.Gives id)
    (fresh : store.findById id = none) : store.IssuesFresh operation := by
  cases operation with
  | create given now actor page =>
    have hid : given = id := h
    exact fun _ => hid ▸ fresh
  | _ => trivial

theorem operate_free {operation : Operation} (hg : operation.Gives id) {other : String}
    (hne : id ≠ other) (h : store.findById other = none) :
    (store.operate operation).findById other = none := by
  cases operation with
  | create given now actor page =>
    have hid : given = id := hg
    simp only [operate]
    cases hc : store.create given now actor page with
    | error error => exact h
    | ok stored =>
      obtain ⟨-, hf⟩ := create_ok hc
      rw [hf, hid, if_neg hne]
      exact h
  | publish now actor key =>
    simp only [operate]
    cases hp : store.publish now actor key with
    | error error => exact h
    | ok stored =>
      obtain ⟨page, hs, -, hf⟩ := publish_ok hp
      have hk : key ≠ other := by
        rintro rfl
        rw [h] at hs
        cases hs
      rw [hf, if_neg hk]
      exact h
  | delete key =>
    simp only [operate]
    cases hd : store.delete key with
    | error error => exact h
    | ok pages =>
      obtain ⟨page, -, hf⟩ := delete_ok hd
      rw [hf]
      split
      · rfl
      · exact h
  | findById key => exact h
  | findByPath path => exact h

/-- A page is stored under the id and at the path of another record of it. -/
def Keeps (page : Page) (store : PageStore) : Prop :=
  ∃ kept, store.findById page.id = some kept ∧ kept.path = page.path

/-- Nothing is stored under the id and at the path of a page. -/
def Lacks (page : Page) (store : PageStore) : Prop :=
  store.findById page.id = none ∧ store.findByPath page.path = none

theorem Keeps.operate {page : Page} (h : store.Keeps page) {operation : Operation}
    (hg : operation.Gives id) (fresh : store.findById id = none) :
    (store.operate operation).Keeps page ∨ (store.operate operation).Lacks page := by
  obtain ⟨kept, hs, hpath⟩ := h
  cases operation with
  | create given now actor new =>
    have hid : given = id := hg
    simp only [PageStore.operate]
    cases hc : store.create given now actor new with
    | error error => exact Or.inl ⟨kept, hs, hpath⟩
    | ok stored =>
      obtain ⟨-, hf⟩ := create_ok hc
      have hne : given ≠ page.id := by
        intro he
        rw [← he, hid, fresh] at hs
        cases hs
      exact Or.inl ⟨kept, by rw [hf, if_neg hne, hs], hpath⟩
  | publish now actor key =>
    simp only [PageStore.operate]
    cases hp : store.publish now actor key with
    | error error => exact Or.inl ⟨kept, hs, hpath⟩
    | ok stored =>
      obtain ⟨old, ho, hr, hf⟩ := publish_ok hp
      by_cases hk : key = page.id
      · subst hk
        rw [hs, Option.some.injEq] at ho
        refine Or.inl ⟨stored.1, by rw [hf, if_pos rfl], ?_⟩
        rw [hr, ← ho]
        exact hpath
      · exact Or.inl ⟨kept, by rw [hf, if_neg hk, hs], hpath⟩
  | delete key =>
    simp only [PageStore.operate]
    cases hd : store.delete key with
    | error error => exact Or.inl ⟨kept, hs, hpath⟩
    | ok pages =>
      obtain ⟨old, ho, hf⟩ := delete_ok hd
      by_cases hk : key = page.id
      · subst hk
        right
        refine ⟨by rw [hf, if_pos rfl], ?_⟩
        -- the path of the record is freed along with it
        have hp := delete_ok_paths hs hd page.path
        rw [if_pos hpath] at hp
        rw [findByPath, hp]
        rfl
      · exact Or.inl ⟨kept, by rw [hf, if_neg hk, hs], hpath⟩
  | findById key => exact Or.inl ⟨kept, hs, hpath⟩
  | findByPath path => exact Or.inl ⟨kept, hs, hpath⟩

end PageStore

/-- No component is missing or different in a registry that has grown. -/
def Registry.Within (registry grown : Registry) : Prop :=
  ∀ type component, registry.find type = some component → grown.find type = some component

namespace Site

open PageStore

variable {site : Site} {id : String} {now : Timestamp} {c : Call}

/-- To the pages, every call is an operation. -/
theorem pages_answer (site : Site) (id : String) (now : Timestamp) (c : Call) :
    ∃ operation : Operation, operation.Gives id ∧
      (site.answer id now c).2.pages = site.pages.operate operation := by
  cases c with
  | createPage page actor =>
    refine ⟨.create id now actor page, rfl, ?_⟩
    simp only [Site.answer, Desk.answer, Desk.created, operate]
    cases site.pages.create id now actor page <;> rfl
  | publishPage key actor =>
    refine ⟨.publish now actor key, trivial, ?_⟩
    simp only [Site.answer, Desk.answer, operate]
    cases site.pages.publish now actor key <;> rfl
  | deletePage key =>
    refine ⟨.delete key, trivial, ?_⟩
    simp only [Site.answer, Desk.answer, operate]
    cases site.pages.delete key <;> rfl
  | createComponent component =>
    refine ⟨.findById id, trivial, ?_⟩
    simp only [Site.answer, Desk.answer, Desk.created, operate]
    cases site.components.create id now component <;> rfl
  | markContactRead key =>
    refine ⟨.findById id, trivial, ?_⟩
    simp only [Site.answer, Desk.answer, operate]
    cases site.contacts.markRead key <;> rfl
  | _ => exact ⟨.findById id, trivial, rfl⟩

theorem mirrored_answer (h : site.pages.Mirrored) (fresh : site.pages.findById id = none) :
    (site.answer id now c).2.pages.Mirrored := by
  obtain ⟨operation, hg, ho⟩ := site.pages_answer id now c
  rw [ho]
  exact h.operate (hg.issuesFresh fresh)

theorem free_answer {other : String} (hne : id ≠ other) (h : site.pages.findById other = none) :
    (site.answer id now c).2.pages.findById other = none := by
  obtain ⟨operation, hg, ho⟩ := site.pages_answer id now c
  rw [ho]
  exact operate_free hg hne h

theorem kept_answer {page : Page} (h : site.pages.Keeps page)
    (fresh : site.pages.findById id = none) :
    (site.answer id now c).2.pages.Keeps page ∨ (site.answer id now c).2.pages.Lacks page := by
  obtain ⟨operation, hg, ho⟩ := site.pages_answer id now c
  rw [ho]
  exact h.operate hg fresh

theorem within_answer : site.components.Within (site.answer id now c).2.components := by
  intro type component h
  cases c with
  | createComponent new =>
    simp only [Site.answer, Desk.answer, Desk.created]
    cases hc : site.components.create id now new with
    | error error => exact h
    | ok stored => exact Registry.find_of_create_ok hc h
  | createPage page actor =>
    simp only [Site.answer, Desk.answer, Desk.created]
    cases site.pages.create id now actor page <;> exact h
  | publishPage key actor =>
    simp only [Site.answer, Desk.answer]
    cases site.pages.publish now actor key <;> exact h
  | deletePage key =>
    simp only [Site.answer, Desk.answer]
    cases site.pages.delete key <;> exact h
  | markContactRead key =>
    simp only [Site.answer, Desk.answer]
    cases site.contacts.markRead key <;> exact h
  | _ => exact h

end Site

end SiteDesk
