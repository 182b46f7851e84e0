import SiteDesk.Desk

/-!
Outages: while a receiver of calls is out, it refuses every call of one kind with a fixed error, and
nothing behind it changes. Schema compilation has no outage.
-/
namespace SiteDesk

open SiteDesk.Command

inductive CallKind where
  | findComponent
  | createComponent
  | createPage
  | publishPage
  | findPageById
  | findPageByPath
  | deletePage
  | listContacts
  | markContactRead
  | record
  deriving DecidableEq, Repr

namespace Command.Call

/-- The kind of a call, and what refusing it with an error answers; none for a call that is never
refused. -/
def refusal? : (c : Call) → Option (CallKind × (StoreError → c.Reply))
  | .findComponent _ => some (.findComponent, .error)
  | .createComponent _ => some (.createComponent, .error)
  | .createPage _ _ => some (.createPage, .error)
  | .publishPage _ _ => some (.publishPage, .error)
  | .findPageById _ => some (.findPageById, .error)
  | .findPageByPath _ => some (.findPageByPath, .error)
  | .deletePage _ => some (.deletePage, .error)
  | .listContacts _ => some (.listContacts, .error)
  | .markContactRead _ => some (.markContactRead, .error)
  | .record _ => some (.record, .error)
  | .compileSchema _ => none

end Command.Call

/-- The error with which calls of a kind are refused at present, if they are. -/
abbrev Outages := CallKind → Option StoreError

namespace Outages

def none : Outages := fun _ => .none

def start (kind : CallKind) (error : StoreError) (outages : Outages) : Outages :=
  fun k => if k = kind then some error else outages k

def stop (kind : CallKind) (outages : Outages) : Outages :=
  fun k => if k = kind then .none else outages k

def refusal? (outages : Outages) (c : Call) : Option c.Reply :=
  c.refusal?.bind fun (kind, refuse) => (outages kind).map refuse

def answer {σ : Type} (outages : Outages) (otherwise : (c : Call) → σ → c.Reply × σ) (c : Call)
    (state : σ) : c.Reply × σ :=
  match outages.refusal? c with
  | some reply => (reply, state)
  | .none => otherwise c state

end Outages

namespace Desk

def executeDuring (outages : Outages) (config : Config) (stamp : Stamp) (actor : Option String)
    (text : String) (desk : Desk) : Outcome × Desk :=
  (Command.execute config actor text).run (outages.answer (answer stamp)) desk

def executeRequestDuring (outages : Outages) (config : Config) (stamp : Stamp)
    (actor : Option String) (request : Request) (desk : Desk) : Outcome × Desk :=
  (Command.executeRequest config actor request).run (outages.answer (answer stamp)) desk

end Desk

end SiteDesk
