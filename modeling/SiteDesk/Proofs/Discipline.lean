import SiteDesk.Proofs.Courses

/-!
The order in which commands make their calls. A command looks components and pages up and compiles
schemas, and it writes at most once. Once it knows that something is missing, or the store it writes
has answered, its outcome is settled and only the note is left. A page that was found is not looked
up again: the command publishes or deletes it under its id, and fails if it is gone by then.
-/
namespace SiteDesk

namespace Command

namespace Plan

/-- Nothing is left to do but notes, and the outcome is certain. -/
def Settles (outcome : Outcome) : Plan Outcome → Prop
  | .done result => result = outcome
  | .call c next => c.IsNote ∧ ∀ reply, Settles outcome (next reply)

def Concludes (outcome : Outcome) (plan : Plan Outcome) : Prop :=
  ∃ note next, plan = .call (.record note) next ∧ ∀ reply, (next reply).Settles outcome

/-- The page with an id is to be published or deleted; whatever the store answers settles the
outcome. -/
inductive Pursues (id : String) : Plan Outcome → Prop
  | publish {actor : Option String} {next : Except StoreError Page → Plan Outcome}
      (settles : ∀ reply, ∃ outcome, (next reply).Settles outcome)
      (missing : (next (.error PageStore.missing)).Settles pageMissing) :
      Pursues id (.call (.publishPage id actor) next)
  | delete {next : Except StoreError Unit → Plan Outcome}
      (settles : ∀ reply, ∃ outcome, (next reply).Settles outcome)
      (missing : (next (.error PageStore.missing)).Settles pageMissing) :
      Pursues id (.call (.deletePage id) next)

structure FollowsUp (next : Except StoreError (Option Page) → Plan Outcome) : Prop where
  absent : (next (.ok none)).Settles pageMissing
  present : ∀ page, (next (.ok (some page))).Pursues page.id
  same : ∀ page other : Page, page.id = other.id → page.path = other.path →
    next (.ok (some page)) = next (.ok (some other))

end Plan

/-- A call that is the last but for the note, and brings no schema but those among some
definitions. -/
def Call.IsLast (definitions : Set Json) : Call → Prop
  | .createPage _ _ => True
  | .createComponent component =>
    ∀ definition, schemaOf component.propsSchema = some definition → definition ∈ definitions
  | .listContacts _ => True
  | .markContactRead _ => True
  | .record _ => True
  | _ => False

namespace Plan

/-- The plans of commands; the schemas they compile or register are among some definitions, if
those of the components are. -/
inductive Careful (definitions : Set Json) : Plan Outcome → Prop
  | last {c : Call} {next : c.Reply → Plan Outcome} (isLast : c.IsLast definitions)
      (settles : ∀ reply, ∃ outcome, (next reply).Settles outcome) :
      Careful definitions (.call c next)
  | findComponent {type : String} {next : Except StoreError (Option Component) → Plan Outcome}
      (absent : ∃ outcome, (next (.ok none)).Settles outcome)
      (present : ∀ component : Component, component.SchemaIn definitions →
        Careful definitions (next (.ok (some component)))) :
      Careful definitions (.call (.findComponent type) next)
  | compileSchema {definition : Json}
      {next : Except Schema.CompileError Schema.Compiled → Plan Outcome}
      (known : definition ∈ definitions) (compiled : ∀ reply, Careful definitions (next reply)) :
      Careful definitions (.call (.compileSchema definition) next)
  | findPageById {id : String} {next : Except StoreError (Option Page) → Plan Outcome}
      (follows : FollowsUp next) : Careful definitions (.call (.findPageById id) next)
  | findPageByPath {path : String} {next : Except StoreError (Option Page) → Plan Outcome}
      (follows : FollowsUp next) : Careful definitions (.call (.findPageByPath path) next)

variable {definitions : Set Json} {plan : Plan Outcome} {outcome : Outcome}

theorem Concludes.settles (h : plan.Concludes outcome) : plan.Settles outcome := by
  obtain ⟨note, next, rfl, hs⟩ := h
  exact ⟨trivial, hs⟩

theorem Concludes.careful (h : plan.Concludes outcome) : plan.Careful definitions := by
  obtain ⟨note, next, rfl, hs⟩ := h
  exact .last trivial fun reply => ⟨outcome, hs reply⟩

theorem concludes_audited (actor : Option String) (action : String) (resource : Option Resource)
    (command : String) (outcome : Outcome) :
    (audited actor action resource command outcome).Concludes outcome :=
  ⟨_, _, rfl, fun _ => rfl⟩

end Plan

namespace Plan

variable {α β : Type} {definitions : Set Json} {ending : Outcome → Plan Outcome}

theorem settles_of_report {output : β → Output} {reply : Except StoreError β}
    (concludes : ∀ outcome, (ending outcome).Concludes outcome) :
    ∃ outcome, ((report output reply).bind ending).Settles outcome :=
  ⟨_, (concludes _).settles⟩

theorem careful_onPage {target : PageTarget} {edit : Page → Plan Outcome}
    (concludes : ∀ outcome, (ending outcome).Concludes outcome)
    (pursues : ∀ page, ((edit page).bind ending).Pursues page.id)
    (same : ∀ page other : Page, page.id = other.id → page.path = other.path →
      edit page = edit other) :
    ((onPage target edit).bind ending).Careful definitions := by
  have follows : FollowsUp fun reply =>
      (found (.notFound "Page not found") edit reply).bind ending :=
    { absent := (concludes pageMissing).settles
      present := pursues
      same := fun page other hi hp => by simp only [found, same page other hi hp] }
  cases target with
  | id id => exact .findPageById follows
  | path path => exact .findPageByPath follows

theorem LastStep.careful {plan : Plan Outcome} (h : LastStep definitions plan)
    (concludes : ∀ outcome, (ending outcome).Concludes outcome) :
    (plan.bind ending).Careful definitions := by
  cases h with
  | createPage page actor => exact .last trivial fun reply => settles_of_report concludes
  | createComponent component known => exact .last known fun reply => settles_of_report concludes
  | listContacts limit => exact .last trivial fun reply => settles_of_report concludes
  | markContactRead id =>
    refine .last trivial ?_
    rintro (error | _ | contact)
    · exact ⟨_, (concludes _).settles⟩
    · exact ⟨_, (concludes (.error (.notFound "Contact submission not found"))).settles⟩
    · exact ⟨_, (concludes (.ok (.contact contact))).settles⟩
  | publishPage target actor =>
    refine careful_onPage concludes (fun page => .publish ?_ ?_) ?_
    · exact fun reply => settles_of_report concludes
    · exact (concludes pageMissing).settles
    · exact fun page other hi _ => by rw [hi]
  | deletePage target =>
    refine careful_onPage concludes (fun page => .delete ?_ ?_) ?_
    · exact fun reply => settles_of_report concludes
    · exact (concludes pageMissing).settles
    · exact fun page other hi hp => by rw [hi, hp]

theorem Course.careful {plan other : Plan Outcome}
    (h : Course definitions (LastStep definitions) plan other)
    (concludes : ∀ outcome, (ending outcome).Concludes outcome) :
    (plan.bind ending).Careful definitions := by
  induction h with
  | ends last => exact last.careful concludes
  | fails failure => exact (concludes _).careful
  | stopped forTags plan => exact (concludes _).careful
  | findComponent bySchema goesOn ih => exact .findComponent ⟨_, (concludes _).settles⟩ ih
  | compileSchema known goesOn ih => exact .compileSchema known ih

end Plan

theorem Submission.careful_plan {config : Config} {actor : Option String} {submission : Submission}
    {definitions : Set Json}
    (brought : ∀ descriptor, submission.descriptor? = .ok descriptor →
      descriptor.action = .createComponent → ∀ definition,
        Desk.newSchema? descriptor.payload = some definition → definition ∈ definitions) :
    (submission.plan config actor).Careful definitions := by
  have concludes := Plan.concludes_audited actor submission.recordedAction
    submission.recordedResource? submission.recordedText
  rw [plan_eq]
  unfold handled
  cases hd : submission.descriptor? with
  | error failure => exact (concludes _).careful
  | ok known => exact (Handler.course_handle (brought known hd)).careful concludes

end Command

end SiteDesk
