import SiteDesk.Proofs.Effects

/-!
Sessions: a desk starts without pages and is then met by events, one after the other. Most are
commands, of any form, time and actor. Between commands component types may be registered, contact
submissions may come in and compiled schemas may leave the cache; pages change by commands alone.
-/
namespace SiteDesk

open SiteDesk.Command

/-- What a desk can meet with; a compiled schema may leave the cache at any time. -/
inductive Event where
  | command (now : Timestamp) (actor : Option String) (submission : Submission)
  | registration (now : Timestamp) (component : NewComponent)
  | contact (contact : Contact)
  | expiry (hash : String)

namespace Desk

variable {config : Config} {ids : Nat → String} {desk : Desk}

def opening (config : Config) (components : Registry) (contacts : ContactStore) (issued : Nat) :
    Desk where
  site := { components, contacts }
  schemas := { capacity := config.schemaCacheCapacity }
  issued := issued

def meet (config : Config) (ids : Nat → String) (desk : Desk) : Event → Desk
  | .command now actor submission => (desk.serve config ⟨ids, now⟩ actor submission).2
  | .registration now component => (desk.answer ⟨ids, now⟩ (.createComponent component)).2
  | .contact contact => desk.insertContact contact
  | .expiry hash =>
    { desk with schemas := { desk.schemas with entries := desk.schemas.entries.erase hash } }

def session (config : Config) (ids : Nat → String) (events : List Event) (desk : Desk) : Desk :=
  events.foldl (meet config ids) desk

/-- What holds at first and is kept by every event of a session holds after it. -/
theorem session_invariant {Holds : Desk → Prop} {events : List Event}
    (start : Holds desk)
    (step : ∀ desk event, event ∈ events → Holds desk → Holds (desk.meet config ids event)) :
    Holds (desk.session config ids events) :=
  List.foldlRecOn events (meet config ids) start fun desk h event he => step desk event he h

theorem meet_registration (config : Config) (ids : Nat → String) (now : Timestamp)
    (component : NewComponent) (desk : Desk) :
    desk.meet config ids (.registration now component) = desk ∨
      ∃ record components,
        desk.site.components.create (ids desk.issued) now component = .ok (record, components) ∧
        desk.meet config ids (.registration now component) =
          { desk with site := { desk.site with components }, issued := desk.issued + 1 } := by
  cases hc : desk.site.components.create (ids desk.issued) now component with
  | error error =>
    left
    simp only [meet, answer, hc, created]
  | ok made =>
    right
    exact ⟨made.1, made.2, rfl, by simp only [meet, answer, hc, created]⟩

end Desk

end SiteDesk
