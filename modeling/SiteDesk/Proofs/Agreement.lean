import Mathlib.Data.List.Forall2
import SiteDesk.Outage
import SiteDesk.Proofs.SiteAnswers

/-!
One command answered twice. Records may differ in their clock readings from one answer to the other,
and nothing else is known of the readings but how they are related; what a log answers may differ
in any way. The plan of a command then makes the same calls both times, and its outcomes differ in
clock readings at most.
-/
namespace SiteDesk

open SiteDesk.Command

/-- A component with another clock reading, to which its own is related. -/
inductive Component.Alike (times : Timestamp → Timestamp → Prop) (component : Component) :
    Component → Prop
  | mk {created : Timestamp} (createdAt : times component.createdAt created) :
      Component.Alike times component { component with createdAt := created }

inductive Page.Alike (times : Timestamp → Timestamp → Prop) (page : Page) : Page → Prop
  | mk {created : Timestamp} {published : Option Timestamp}
      (createdAt : times page.createdAt created)
      (publishedAt : Option.Rel times page.publishedAt published) :
      Page.Alike times page { page with createdAt := created, publishedAt := published }

inductive Command.Output.Alike (times : Timestamp → Timestamp → Prop) : Output → Output → Prop
  | page {record other : Page} (alike : record.Alike times other) :
      Output.Alike times (.page record) (.page other)
  | component {record other : Component} (alike : record.Alike times other) :
      Output.Alike times (.component record) (.component other)
  | contacts (records : List Contact) : Output.Alike times (.contacts records) (.contacts records)
  | contact (record : Contact) : Output.Alike times (.contact record) (.contact record)
  | deletedPage (id path : String) :
      Output.Alike times (.deletedPage id path) (.deletedPage id path)

/-- Both fail with one error, or both succeed with related results. -/
inductive Concur {ε α β : Type} (R : α → β → Prop) : Except ε α → Except ε β → Prop
  | ok {a : α} {b : β} (related : R a b) : Concur R (.ok a) (.ok b)
  | error (e : ε) : Concur R (.error e) (.error e)

/-- Outcomes that differ in clock readings at most. -/
abbrev Command.Outcome.Alike (times : Timestamp → Timestamp → Prop) : Outcome → Outcome → Prop :=
  Concur (Output.Alike times)

section Records

variable {times : Timestamp → Timestamp → Prop} {ε α : Type}

theorem rel_refl {R : α → α → Prop} (hr : ∀ a, R a a) (x : Option α) : Option.Rel R x x := by
  cases x with
  | some a => exact .some (hr a)
  | none => exact .none

theorem Concur.refl {R : α → α → Prop} (hr : ∀ a, R a a) (x : Except ε α) : Concur R x x := by
  cases x with
  | ok a => exact .ok (hr a)
  | error e => exact .error e

theorem Concur.eq {x y : Except ε α} (h : Concur Eq x y) : x = y := by
  obtain rfl | error := h <;> rfl

theorem Component.alike_refl (hr : ∀ time, times time time) (component : Component) :
    component.Alike times component :=
  .mk (hr component.createdAt)

theorem Page.alike_refl (hr : ∀ time, times time time) (page : Page) : page.Alike times page :=
  .mk (hr page.createdAt) (rel_refl hr page.publishedAt)

theorem Component.Alike.eq {component other : Component} (h : component.Alike Eq other) :
    component = other := by
  obtain ⟨rfl⟩ := h
  rfl

theorem Component.Alike.schema?_eq {component other : Component} (h : component.Alike times other) :
    component.schema? = other.schema? := by
  cases h
  rfl

theorem Page.Alike.eq {page other : Page} (h : page.Alike Eq other) : page = other := by
  obtain ⟨rfl, hp⟩ := h
  obtain ⟨id, path, slug, title, status, layout, createdBy, updatedBy, createdAt, published⟩ := page
  cases hp with
  | some ht => rw [ht]
  | none => rfl

theorem Command.Outcome.Alike.eq {outcome other : Outcome} (h : outcome.Alike Eq other) :
    outcome = other := by
  cases h with
  | error failure => rfl
  | ok related =>
    cases related with
    | page alike => rw [alike.eq]
    | component alike => rw [alike.eq]
    | _ => rfl

theorem Command.eq_of_alike {outcomes others : List Outcome}
    (h : List.Forall₂ (Outcome.Alike Eq) outcomes others) : outcomes = others :=
  List.forall₂_eq_eq_eq ▸ h.imp fun _ _ alike => alike.eq

theorem Command.Outcome.Alike.ofOutcome {outcome other : Outcome} (h : outcome.Alike times other)
    (actor : Option String) (action : String) (resource : Option Resource) (command : String) :
    Audit.Note.ofOutcome actor action resource command outcome =
      Audit.Note.ofOutcome actor action resource command other := by
  cases h with
  | error failure => rfl
  | ok related =>
    cases related with
    | page alike => cases alike; rfl
    | component alike => cases alike; rfl
    | _ => rfl

end Records

namespace Command

/-- Two answers to a call that differ in clock readings at most, a note apart; the schema of a
component that is found is among some definitions. -/
def Call.Concurs (definitions : Set Json) (times : Timestamp → Timestamp → Prop) :
    (c : Call) → c.Reply → c.Reply → Prop
  | .findComponent _, reply, other =>
    Concur (Option.Rel fun a b => a.Alike times b ∧ a.SchemaIn definitions) reply other
  | .createComponent _, reply, other => Concur (Component.Alike times) reply other
  | .createPage _ _, reply, other => Concur (Page.Alike times) reply other
  | .publishPage _ _, reply, other => Concur (Page.Alike times) reply other
  | .findPageById _, reply, other => Concur (Option.Rel (Page.Alike times)) reply other
  | .findPageByPath _, reply, other => Concur (Option.Rel (Page.Alike times)) reply other
  | .deletePage _, reply, other => Concur Eq reply other
  | .listContacts _, reply, other => Concur Eq reply other
  | .markContactRead _, reply, other => Concur Eq reply other
  | .compileSchema _, reply, other => reply = other
  | .record _, _, _ => True

namespace Plan

variable {ι α β γ δ σ τ : Type} {definitions : Set Json} {times : Timestamp → Timestamp → Prop}

/-- Two plans that make the same calls as long as the answers concur, and come to related results.
They bring no schema but those among some definitions. -/
inductive Agrees (definitions : Set Json) (times : Timestamp → Timestamp → Prop)
    (R : α → β → Prop) : Plan α → Plan β → Prop
  | done {a : α} {b : β} (related : R a b) : Agrees definitions times R (.done a) (.done b)
  | call {c : Call} {next : c.Reply → Plan α} {other : c.Reply → Plan β}
      (within : c.Within definitions)
      (goesOn : ∀ reply reply', c.Concurs definitions times reply reply' →
        Agrees definitions times R (next reply) (other reply')) :
      Agrees definitions times R (.call c next) (.call c other)

theorem Agrees.bind {R : α → β → Prop} {S : γ → δ → Prop} {plan : Plan α} {other : Plan β}
    {f : α → Plan γ} {g : β → Plan δ} (h : Agrees definitions times R plan other)
    (hf : ∀ a b, R a b → Agrees definitions times S (f a) (g b)) :
    Agrees definitions times S (plan.bind f) (other.bind g) := by
  induction h with
  | done related => exact hf _ _ related
  | call within goesOn ih => exact .call within ih

/-- Two states answer the calls of agreeing plans alike: what relates the states goes on to do so,
and the results are related. -/
theorem Agrees.run {R : α → β → Prop} (Sim : σ → τ → Prop)
    {answer : (c : Call) → σ → c.Reply × σ} {answer' : (c : Call) → τ → c.Reply × τ}
    (sim : ∀ c state state', c.Within definitions → Sim state state' →
      c.Concurs definitions times (answer c state).1 (answer' c state').1 ∧
        Sim (answer c state).2 (answer' c state').2)
    {plan : Plan α} {other : Plan β} (h : Agrees definitions times R plan other) {state : σ}
    {state' : τ} (hs : Sim state state') :
    R (plan.run answer state).1 (other.run answer' state').1 ∧
      Sim (plan.run answer state).2 (other.run answer' state').2 := by
  induction h generalizing state state' with
  | done related => exact ⟨related, hs⟩
  | call within goesOn ih =>
    obtain ⟨hc, hn⟩ := sim _ state state' within hs
    exact ih _ _ hc hn

theorem inTurn_agrees {R : α → β → Prop} (Sim : σ → τ → Prop)
    {answer : ι → (c : Call) → σ → c.Reply × σ} {answer' : ι → (c : Call) → τ → c.Reply × τ}
    {plan : ι → Plan α} {other : ι → Plan β} {order : List ι}
    (sim : ∀ i c state state', c.Within definitions → Sim state state' →
      c.Concurs definitions times (answer i c state).1 (answer' i c state').1 ∧
        Sim (answer i c state).2 (answer' i c state').2)
    (h : ∀ i ∈ order, Agrees definitions times R (plan i) (other i)) {state : σ} {state' : τ}
    (hs : Sim state state') :
    List.Forall₂ R (inTurn answer plan order state).1 (inTurn answer' other order state').1 ∧
      Sim (inTurn answer plan order state).2 (inTurn answer' other order state').2 := by
  induction order generalizing state state' with
  | nil => exact ⟨.nil, hs⟩
  | cons i rest ih =>
    obtain ⟨hr, hn⟩ := (h i (by simp)).run Sim (sim i) hs
    obtain ⟨hrs, hl⟩ := ih (fun j hj => h j (List.mem_cons_of_mem _ hj)) hn
    exact ⟨.cons hr hrs, hl⟩

end Plan

namespace Plan

variable {α β γ δ : Type} {definitions : Set Json} {times : Timestamp → Timestamp → Prop}

theorem agrees_report {R : β → β → Prop} {output : β → Output} {reply other : Except StoreError β}
    (h : Concur R reply other)
    (related : ∀ record record', R record record' →
      Output.Alike times (output record) (output record')) :
    Agrees definitions times (Outcome.Alike times) (report output reply) (report output other) := by
  cases h with
  | ok hr => exact .done (.ok (related _ _ hr))
  | error e => exact .done (.error _)

theorem agrees_found {R : β → β → Prop} {S : α → α → Prop} {absent : Failure}
    {next : β → Plan (Except Failure α)} {reply other : Except StoreError (Option β)}
    (h : Concur (Option.Rel R) reply other)
    (goesOn : ∀ record record', R record record' →
      Agrees definitions times (Concur S) (next record) (next record')) :
    Agrees definitions times (Concur S) (found absent next reply) (found absent next other) := by
  cases h with
  | error e => exact .done (.error _)
  | ok hr =>
    cases hr with
    | none => exact .done (.error _)
    | some related => exact goesOn _ _ related

theorem agrees_onPage {target : PageTarget} {edit : Page → Plan Outcome}
    (h : ∀ page other : Page, page.Alike times other →
      Agrees definitions times (Outcome.Alike times) (edit page) (edit other)) :
    Agrees definitions times (Outcome.Alike times) (onPage target edit) (onPage target edit) := by
  cases target with
  | id id => exact .call trivial fun reply other concurs => agrees_found concurs h
  | path path => exact .call trivial fun reply other concurs => agrees_found concurs h

theorem LastStep.agrees {plan : Plan Outcome} (h : LastStep definitions plan) :
    Agrees definitions times (Outcome.Alike times) plan plan := by
  cases h with
  | createPage page actor =>
    exact .call trivial fun reply other concurs => agrees_report concurs fun _ _ => .page
  | createComponent component known =>
    exact .call known fun reply other concurs => agrees_report concurs fun _ _ => .component
  | listContacts limit =>
    refine .call trivial fun reply other concurs => agrees_report concurs ?_
    rintro records _ rfl
    exact .contacts records
  | markContactRead id =>
    refine .call trivial fun reply other concurs => ?_
    obtain rfl := concurs.eq
    refine agrees_found (Concur.refl (rel_refl fun _ => rfl) reply) ?_
    rintro contact _ rfl
    exact .done (.ok (.contact contact))
  | publishPage target actor =>
    refine agrees_onPage fun page other alike => ?_
    cases alike
    exact .call trivial fun reply other concurs => agrees_report concurs fun _ _ => .page
  | deletePage target =>
    refine agrees_onPage fun page other alike => ?_
    cases alike
    refine .call trivial fun reply other concurs => agrees_report concurs fun _ _ _ => ?_
    exact .deletedPage page.id page.path

theorem Course.agrees {plan other : Plan Outcome}
    (h : Course definitions (LastStep definitions) plan other) :
    Agrees definitions times (Outcome.Alike times) plan plan := by
  induction h with
  | ends last => exact last.agrees
  | fails failure => exact .done (.error failure)
  | stopped forTags plan => exact .done (.error _)
  | findComponent bySchema goesOn ih =>
    refine .call trivial fun reply other concurs => agrees_found concurs ?_
    rintro component other ⟨alike, schemaIn⟩
    rw [← bySchema component other alike.schema?_eq]
    exact ih component schemaIn
  | compileSchema known goesOn ih =>
    refine .call known ?_
    rintro reply _ rfl
    exact ih reply

end Plan

def Submission.Brings (definition : Json) (submission : Submission) : Prop :=
  ∃ descriptor, submission.descriptor? = .ok descriptor ∧
    descriptor.action = .createComponent ∧ Desk.newSchema? descriptor.payload = some definition

theorem Submission.agrees_plan {config : Config} {actor : Option String} {submission : Submission}
    {definitions : Set Json} {times : Timestamp → Timestamp → Prop}
    (brought : ∀ definition, submission.Brings definition → definition ∈ definitions) :
    Plan.Agrees definitions times (Outcome.Alike times) (submission.plan config actor)
      (submission.plan config actor) := by
  rw [plan_eq]
  refine Plan.Agrees.bind (R := Outcome.Alike times) ?_ fun outcome other alike => ?_
  · unfold handled
    cases hd : submission.descriptor? with
    | error failure => exact .done (.error failure)
    | ok known =>
      refine Plan.Course.agrees (Handler.course_handle fun action definition hs => ?_)
      exact brought definition ⟨known, hd, action, hs⟩
  · -- the notes are the same, and what the log answers to them is not looked at
    unfold audited
    rw [alike.ofOutcome]
    exact .call trivial fun _ _ _ => .done alike

/-- An answer in which no component has a schema beyond some definitions. -/
def Call.Honest (definitions : Set Json) : (c : Call) → c.Reply → Prop
  | .findComponent _, reply =>
    ∀ component : Component, reply = .ok (some component) → component.SchemaIn definitions
  | _, _ => True

theorem Call.honest_univ (c : Call) (reply : c.Reply) : c.Honest Set.univ reply := by
  cases c with
  | findComponent type => exact fun _ _ _ _ => trivial
  | _ => trivial

theorem Call.Expects.honest {definitions : Set Json} {c : Call} {reply : c.Reply}
    (h : c.Expects definitions reply) : c.Honest definitions reply := by
  cases c with
  | findComponent type =>
    obtain ⟨found, rfl, hs⟩ := h
    exact fun component hc => hs component (Except.ok.inj hc)
  | _ => trivial

/-- What a call is refused with is an error, which tells of no component. -/
theorem Call.honest_refusal {definitions : Set Json} {outages : Outages} {c : Call}
    {reply : c.Reply} (h : outages.refusal? c = some reply) : c.Honest definitions reply := by
  cases c with
  | findComponent type =>
    simp only [Outages.refusal?, Call.refusal?, Option.bind_some, Option.map_eq_some_iff] at h
    obtain ⟨error, -, rfl⟩ := h
    exact fun _ hc => nomatch hc
  | _ => trivial

theorem Call.Honest.concurs {definitions : Set Json} {c : Call} {reply : c.Reply}
    (h : c.Honest definitions reply) : c.Concurs definitions Eq reply reply := by
  cases c with
  | findComponent type =>
    cases reply with
    | error e => exact .error e
    | ok found =>
      cases found with
      | none => exact .ok .none
      | some component => exact .ok (.some ⟨component.alike_refl fun _ => rfl, h component rfl⟩)
  | createComponent component => exact Concur.refl (Component.alike_refl fun _ => rfl) reply
  | createPage page actor => exact Concur.refl (Page.alike_refl fun _ => rfl) reply
  | publishPage id actor => exact Concur.refl (Page.alike_refl fun _ => rfl) reply
  | findPageById id => exact Concur.refl (rel_refl (Page.alike_refl fun _ => rfl)) reply
  | findPageByPath path => exact Concur.refl (rel_refl (Page.alike_refl fun _ => rfl)) reply
  | compileSchema definition => rfl
  | record note => trivial
  | _ => exact Concur.refl (fun _ => rfl) reply

def Call.IsCompilation : Call → Prop
  | .compileSchema _ => True
  | _ => False

end Command

namespace Desk

/-- The log and the cache have no part in any call but a note and a compilation. -/
theorem answer_with (stamp : Stamp) {c : Call} (hn : ¬ c.IsNote) (hc : ¬ c.IsCompilation)
    (log : List Audit.Entry) (schemas : Schema.Cache) (desk : Desk) :
    answer stamp c { desk with log, schemas } =
      ((answer stamp c desk).1, { (answer stamp c desk).2 with log, schemas }) := by
  cases c with
  | record note => exact absurd trivial hn
  | compileSchema definition => exact absurd trivial hc
  | createComponent component =>
    simp only [answer, created]
    cases desk.site.components.create (stamp.id desk.issued) stamp.now component <;> rfl
  | createPage page actor =>
    simp only [answer, created]
    cases desk.site.pages.create (stamp.id desk.issued) stamp.now actor page <;> rfl
  | publishPage id actor =>
    simp only [answer]
    cases desk.site.pages.publish stamp.now actor id <;> rfl
  | deletePage id =>
    simp only [answer]
    cases desk.site.pages.delete id <;> rfl
  | markContactRead id =>
    simp only [answer]
    cases desk.site.contacts.markRead id <;> rfl
  | _ => rfl

theorem answer_withLog (stamp : Stamp) {c : Call} (hn : ¬ c.IsNote) (log : List Audit.Entry)
    (desk : Desk) :
    answer stamp c { desk with log } =
      ((answer stamp c desk).1, { (answer stamp c desk).2 with log }) := by
  by_cases hc : c.IsCompilation
  · cases c with
    | compileSchema definition => rfl
    | _ => exact hc.elim
  · have hs : (answer stamp c desk).2.schemas = desk.schemas :=
      congrArg (fun reply => reply.2.schemas) (answer_with stamp hn hc desk.log desk.schemas desk)
    rw [answer_with stamp hn hc log desk.schemas desk, ← hs]

theorem answer_withSchemas (stamp : Stamp) {c : Call} (hc : ¬ c.IsCompilation)
    (schemas : Schema.Cache) (desk : Desk) :
    answer stamp c { desk with schemas } =
      ((answer stamp c desk).1, { (answer stamp c desk).2 with schemas }) := by
  by_cases hn : c.IsNote
  · cases c with
    | record note => rfl
    | _ => exact hn.elim
  · have hl : (answer stamp c desk).2.log = desk.log :=
      congrArg (fun reply => reply.2.log) (answer_with stamp hn hc desk.log desk.schemas desk)
    rw [answer_with stamp hn hc desk.log schemas desk, ← hl]

end Desk

end SiteDesk
