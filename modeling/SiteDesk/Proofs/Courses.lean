import Mathlib.Data.Set.Basic
import SiteDesk.Proofs.Schedules

/-!
The courses a command can take. Up to its last step a command looks components up, of which it uses
the schema alone, and compiles schemas; then it fails, or takes one of six last steps. A lenient
setting changes nothing about this, except that the other may stop the command for unknown tags.
-/
namespace SiteDesk

open SiteDesk.Command

/-- The schema of a component, if it has one, is among some definitions. -/
def Component.SchemaIn (definitions : Set Json) (component : Component) : Prop :=
  ∀ definition, component.schema? = some definition → definition ∈ definitions

namespace Config

def lenient (config : Config) : Config :=
  { config with rejectUnknownTags := false }

@[simp] theorem refusesTags_lenient (config : Config) (schema : Schema.Compiled) :
    refusesTags config.lenient schema = false := rfl

end Config

namespace Command

def Failure.ForTags (failure : Failure) : Prop :=
  ∃ type tags, tags ≠ [] ∧ failure = .invalidPayload (.unknownTags type tags)

theorem Failure.forTags_of_refused {config : Config} {schema : Schema.Compiled} {type : String}
    (h : refusesTags config schema = true) :
    Failure.ForTags (.invalidPayload (.unknownTags type schema.unknownTags)) := by
  simp only [refusesTags, Schema.Compiled.hasUnknownTags, Bool.and_eq_true] at h
  exact ⟨type, schema.unknownTags, by simpa using h.2, rfl⟩

def pageMissing : Outcome := .error (.notFound "Page not found")

namespace Plan

variable {α β γ : Type} {definitions : Set Json}

def found (absent : Failure) (next : β → Plan (Except Failure α)) :
    Except StoreError (Option β) → Plan (Except Failure α)
  | .error error => .done (.error (.ofStore error))
  | .ok none => .done (.error absent)
  | .ok (some record) => next record

def onPage (target : PageTarget) (edit : Page → Plan Outcome) : Plan Outcome :=
  (lookUp target).bind (found (.notFound "Page not found") edit)

/-- What a store answers to the last call of a command is what comes of the command. -/
def report (output : β → Output) (reply : Except StoreError β) : Plan Outcome :=
  .done ((reply.mapError Failure.ofStore).map output)

/-- The last steps of commands. A page is edited under the id that it was found to have. -/
inductive LastStep (definitions : Set Json) : Plan Outcome → Prop
  | createPage (page : NewPage) (actor : Option String) :
      LastStep definitions (.call (.createPage page actor) (report .page))
  | createComponent (component : NewComponent)
      (known : ∀ definition, schemaOf component.propsSchema = some definition →
        definition ∈ definitions) :
      LastStep definitions (.call (.createComponent component) (report .component))
  | listContacts (limit : Nat) :
      LastStep definitions (.call (.listContacts limit) (report .contacts))
  | markContactRead (id : String) :
      LastStep definitions (.call (.markContactRead id)
        (found (.notFound "Contact submission not found") fun contact =>
          .done (.ok (.contact contact))))
  | publishPage (target : PageTarget) (actor : Option String) :
      LastStep definitions (onPage target fun page =>
        .call (.publishPage page.id actor) (report .page))
  | deletePage (target : PageTarget) :
      LastStep definitions (onPage target fun page =>
        .call (.deletePage page.id) (report fun _ => .deletedPage page.id page.path))

/-- Two plans that take the same course to an end, unless the first is stopped for unknown tags.
The schemas on the way are among some definitions. -/
inductive Course (definitions : Set Json) (Ends : Plan (Except Failure α) → Prop) :
    Plan (Except Failure α) → Plan (Except Failure α) → Prop
  | ends {plan : Plan (Except Failure α)} (last : Ends plan) : Course definitions Ends plan plan
  | fails (failure : Failure) :
      Course definitions Ends (.done (.error failure)) (.done (.error failure))
  | stopped {failure : Failure} (forTags : failure.ForTags) (plan : Plan (Except Failure α)) :
      Course definitions Ends (.done (.error failure)) plan
  | findComponent {type : String} {absent : Failure}
      {next other : Component → Plan (Except Failure α)}
      (bySchema : ∀ a b : Component, a.schema? = b.schema? → next a = next b)
      (goesOn : ∀ component : Component, component.SchemaIn definitions →
        Course definitions Ends (next component) (other component)) :
      Course definitions Ends (.call (.findComponent type) (found absent next))
        (.call (.findComponent type) (found absent other))
  | compileSchema {definition : Json}
      {next other : Except Schema.CompileError Schema.Compiled → Plan (Except Failure α)}
      (known : definition ∈ definitions)
      (goesOn : ∀ reply, Course definitions Ends (next reply) (other reply)) :
      Course definitions Ends (.call (.compileSchema definition) next)
        (.call (.compileSchema definition) other)

def Returns (Holds : α → Prop) (plan : Plan (Except Failure α)) : Prop :=
  ∃ result, Holds result ∧ plan = .done (.ok result)

theorem found_bind (absent : Failure) (next : β → Plan (Except Failure α)) (f : α → Handler γ) :
    (fun reply => (found absent next reply).bind (ExceptT.bindCont f)) =
      found absent fun record => (next record).bind (ExceptT.bindCont f) := by
  funext reply
  rcases reply with error | _ | record <;> rfl

theorem run_found (plan : Plan (Except StoreError (Option β))) (absent : Failure)
    (f : β → Handler α) :
    ExceptT.run (do
      let reply ← Handler.ofStore plan
      let record ← Handler.orFail absent reply
      f record) = plan.bind (found absent fun record => (f record).run) := by
  rw [ExceptT.run_bind]
  change (plan.bind _).bind _ = _
  rw [bind_assoc]
  congr 1
  funext reply
  rcases reply with error | _ | record <;> rfl

theorem run_report (plan : Plan (Except StoreError β)) (output : β → Output) :
    ExceptT.run (do
      let record ← Handler.ofStore plan
      return output record) = plan.bind (report output) := by
  rw [ExceptT.run_bind]
  change (plan.bind _).bind _ = _
  rw [bind_assoc]
  congr 1
  funext reply
  cases reply <;> rfl

namespace Course

theorem bind {Holds : α → Prop} {Ends : Plan (Except Failure β) → Prop} {handler other : Handler α}
    {f g : α → Handler β} (h : Course definitions (Returns Holds) handler.run other.run)
    (next : ∀ result, Holds result → Course definitions Ends (f result).run (g result).run) :
    Course definitions Ends (handler >>= f).run (other >>= g).run := by
  change Course definitions Ends (Plan.bind handler.run (ExceptT.bindCont f))
    (Plan.bind other.run (ExceptT.bindCont g))
  generalize handler.run = plan, other.run = loose at h
  induction h with
  | ends last =>
    obtain ⟨result, holds, rfl⟩ := last
    exact next result holds
  | fails failure => exact .fails failure
  | stopped forTags plan => exact .stopped forTags _
  | findComponent bySchema goesOn ih =>
    change Course definitions Ends (.call _ fun reply => _) (.call _ fun reply => _)
    rw [found_bind, found_bind]
    exact .findComponent (fun a b same => by rw [bySchema a b same]) ih
  | compileSchema known goesOn ih => exact .compileSchema known ih

theorem of_orFail {Ends : Plan (Except Failure β) → Prop} {absent : Failure} {result : Option α}
    {f g : α → Handler β}
    (next : ∀ a, result = some a → Course definitions Ends (f a).run (g a).run) :
    Course definitions Ends (Handler.orFail absent result >>= f).run
      (Handler.orFail absent result >>= g).run := by
  cases result with
  | none => exact .fails absent
  | some a => exact next a rfl

theorem returns {Holds : α → Prop} {result : α} (holds : Holds result) :
    Course definitions (Returns Holds) (.done (.ok result)) (.done (.ok result)) :=
  .ends ⟨result, holds, rfl⟩

end Course

end Plan

namespace Handler

open Plan

variable {config : Config} {definitions : Set Json}

theorem course_judge (context : Schema.BlockContext) (schema : Schema.Compiled) (props : Json) :
    Course definitions (Returns fun _ => True) (.done (judge config context schema props))
      (.done (judge config.lenient context schema props)) := by
  unfold judge
  rw [Config.refusesTags_lenient]
  cases refused : refusesTags config schema with
  | true => exact .stopped (Failure.forTags_of_refused refused) _
  | false =>
    cases schema.run props context with
    | ok validated => exact .returns trivial
    | error failure => exact .fails _

theorem course_validateProps {context : Schema.BlockContext} {component : Component} {props : Json}
    (schemaIn : component.SchemaIn definitions) :
    Course definitions (Returns fun _ => True) (validateProps config context component props).run
      (validateProps config.lenient context component props).run := by
  unfold validateProps
  cases hs : component.schema? with
  | none => exact .returns trivial
  | some definition =>
    refine .compileSchema (schemaIn definition hs) ?_
    rintro (error | schema)
    · exact .returns trivial
    · exact course_judge context schema _

theorem course_validateBlock (index : Nat) (raw : Json) :
    Course definitions (Returns fun _ => True) (validateBlock config index raw).run
      (validateBlock config.lenient index raw).run := by
  refine Course.of_orFail fun type _ => ?_
  rw [run_found, run_found]
  refine .findComponent (fun a b same => ?_) fun component schemaIn =>
    course_validateProps schemaIn
  unfold validateProps
  rw [same]

theorem course_validateLayout (index : Nat) (raws : List Json) :
    Course definitions (Returns fun _ => True) (validateLayout config index raws).run
      (validateLayout config.lenient index raws).run := by
  induction raws generalizing index with
  | nil => exact .returns trivial
  | cons raw rest ih =>
    exact (course_validateBlock index raw).bind fun block _ =>
      (ih (index + 1)).bind fun blocks _ => .returns trivial

theorem course_vetSchema {type : String} {definition : Json} (known : definition ∈ definitions) :
    Course definitions (Returns fun _ => True) (vetSchema config type definition).run
      (vetSchema config.lenient type definition).run := by
  refine .compileSchema known ?_
  rintro (error | schema)
  · exact .returns trivial
  · change Course _ _ (ExceptT.run (if refusesTags config schema then _ else _)) (.done (.ok ()))
    cases refused : refusesTags config schema with
    | true => exact .stopped (Failure.forTags_of_refused refused) _
    | false => exact .returns trivial

theorem course_newSchema {type : String} {payload : Json.Members}
    (brought : ∀ definition, Desk.newSchema? payload = some definition → definition ∈ definitions) :
    Course definitions
      (Returns fun schema => ∀ definition, schemaOf schema = some definition →
        definition ∈ definitions)
      (newSchema config type payload).run (newSchema config.lenient type payload).run := by
  unfold newSchema
  cases hk : Keyed.get? "propsSchema" payload with
  | none => exact .returns nofun
  | some value =>
    cases value with
    | null => exact .returns nofun
    | object members =>
      have known : Json.object members ∈ definitions :=
        brought _ (by simp [Desk.newSchema?, hk, schemaOf])
      refine (course_vetSchema known).bind fun _ _ => .returns fun definition hd => ?_
      cases hd
      exact known
    | _ => exact .fails _

theorem course_resolvePage {edit : Page → Handler Output}
    (last : ∀ target, LastStep definitions (onPage target fun page => (edit page).run))
    (payload : Json.Members) :
    Course definitions (LastStep definitions) (resolvePage payload >>= edit).run
      (resolvePage payload >>= edit).run := by
  simp only [resolvePage, requiredText, LawfulMonad.bind_assoc]
  refine Course.of_orFail fun target _ => .ends ?_
  rw [run_found]
  exact last _

theorem course_handle {actor : Option String} {descriptor : Descriptor}
    (brought : descriptor.action = .createComponent → ∀ definition,
      Desk.newSchema? descriptor.payload = some definition → definition ∈ definitions) :
    Course definitions (LastStep definitions) (handle config actor descriptor).run
      (handle config.lenient actor descriptor).run := by
  unfold handle
  cases ha : descriptor.action with
  | createPage =>
    refine Course.of_orFail fun path _ => Course.of_orFail fun raws _ => ?_
    refine (course_validateLayout 0 raws).bind fun layout _ => .ends ?_
    rw [run_report]
    exact .createPage _ actor
  | publishPage =>
    refine course_resolvePage (fun target => ?_) _
    simp only [run_report]
    exact .publishPage target actor
  | deletePage =>
    refine course_resolvePage (fun target => ?_) _
    simp only [run_report]
    exact .deletePage target
  | createComponent =>
    refine Course.of_orFail fun type _ => ?_
    refine (course_newSchema (brought ha)).bind fun schema known => .ends ?_
    rw [run_report]
    exact .createComponent _ known
  | listContacts =>
    refine .ends ?_
    dsimp only [listContacts]
    rw [run_report]
    exact .listContacts _
  | markContactRead =>
    refine Course.of_orFail fun id _ => .ends ?_
    rw [run_found]
    exact .markContactRead id

end Handler

end Command

end SiteDesk
