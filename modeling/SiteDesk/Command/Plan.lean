import SiteDesk.Audit
import SiteDesk.Site.PageStore

/-!
Plans: what a command does, as a tree of calls on the stores, the schema cache and the audit log.
Each call is one step that its receiver answers at once; between two steps anything may happen. A
plan does nothing by itself; `Plan.run` lets a state answer its calls.
-/
namespace SiteDesk.Command

inductive Call where
  | findComponent (type : String)
  | createComponent (component : NewComponent)
  | createPage (page : NewPage) (actor : Option String)
  | publishPage (id : String) (actor : Option String)
  | findPageById (id : String)
  | findPageByPath (path : String)
  | deletePage (id : String)
  | listContacts (limit : Nat)
  | markContactRead (id : String)
  | compileSchema (definition : Json)
  | record (note : Audit.Note)

@[reducible] def Call.Reply : Call → Type
  | .findComponent _ => Except StoreError (Option Component)
  | .createComponent _ => Except StoreError Component
  | .createPage _ _ => Except StoreError Page
  | .publishPage _ _ => Except StoreError Page
  | .findPageById _ => Except StoreError (Option Page)
  | .findPageByPath _ => Except StoreError (Option Page)
  | .deletePage _ => Except StoreError Unit
  | .listContacts _ => Except StoreError (List Contact)
  | .markContactRead _ => Except StoreError (Option Contact)
  | .compileSchema _ => Except Schema.CompileError Schema.Compiled
  | .record _ => Except StoreError Unit

/-- A result, or a call and the plan that follows each answer to it. -/
inductive Plan (α : Type) where
  | done (result : α)
  | call (c : Call) (next : c.Reply → Plan α)

namespace Plan

variable {α β σ : Type}

def bind : Plan α → (α → Plan β) → Plan β
  | .done result, f => f result
  | .call c next, f => .call c fun reply => (next reply).bind f

instance : Monad Plan where
  pure := .done
  bind := bind

def ask (c : Call) : Plan c.Reply :=
  .call c .done

/-- Runs a plan on a state that answers each call and may change with it. -/
def run (answer : (c : Call) → σ → c.Reply × σ) : Plan α → σ → α × σ
  | .done result, state => (result, state)
  | .call c next, state =>
    let (reply, state) := answer c state
    (next reply).run answer state

@[simp] theorem run_done (answer : (c : Call) → σ → c.Reply × σ) (result : α) (state : σ) :
    (Plan.done result).run answer state = (result, state) := rfl

@[simp] theorem run_call (answer : (c : Call) → σ → c.Reply × σ) (c : Call)
    (next : c.Reply → Plan α) (state : σ) :
    (Plan.call c next).run answer state =
      (next (answer c state).1).run answer (answer c state).2 := rfl

theorem bind_done (plan : Plan α) : plan.bind .done = plan := by
  induction plan with
  | done result => rfl
  | call c next ih => exact congrArg (Plan.call c) (funext ih)

theorem bind_assoc {γ : Type} (plan : Plan α) (f : α → Plan β) (g : β → Plan γ) :
    (plan.bind f).bind g = plan.bind fun result => (f result).bind g := by
  induction plan with
  | done result => rfl
  | call c next ih => exact congrArg (Plan.call c) (funext ih)

/-- Running one plan after another runs the second from where the first ended. -/
@[simp] theorem run_bind (answer : (c : Call) → σ → c.Reply × σ) (plan : Plan α)
    (f : α → Plan β) (state : σ) :
    (plan.bind f).run answer state =
      (f (plan.run answer state).1).run answer (plan.run answer state).2 := by
  induction plan generalizing state with
  | done result => rfl
  | call c next ih => exact ih _ _

instance : LawfulMonad Plan :=
  LawfulMonad.mk' Plan bind_done (fun _ _ => rfl) bind_assoc

end Plan

end SiteDesk.Command
