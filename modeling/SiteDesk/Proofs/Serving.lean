import SiteDesk.Proofs.Handling

/-!
What serving a command does to a desk, whichever way the command comes in: one entry is added to
the log, and the stores change as the action's effect says, or not at all. Sessions serve commands
one after the other; what each command keeps, a session keeps.
-/
namespace SiteDesk

namespace Command

/-- A command as it comes in: as a text, as a request or as a descriptor. -/
inductive Submission where
  | text (text : String)
  | request (request : Request)
  | descriptor (descriptor : Descriptor)

theorem mapError_eq_ok {α β γ : Type} {f : α → β} {x : Except α γ} {result : γ} :
    x.mapError f = .ok result ↔ x = .ok result := by
  cases x with
  | error e =>
    constructor
    · intro h; cases h
    · intro h; cases h
  | ok found =>
    constructor
    · intro h; rw [Except.ok.inj h]
    · intro h; rw [Except.ok.inj h]; rfl

theorem mapError_eq_error {α β γ : Type} {f : α → β} {x : Except α γ} {failure : β} :
    x.mapError f = .error failure ↔ ∃ e, x = .error e ∧ f e = failure := by
  cases x with
  | error e =>
    constructor
    · intro h
      exact ⟨e, rfl, Except.error.inj h⟩
    · rintro ⟨other, h, rfl⟩
      rw [Except.error.inj h]
      rfl
  | ok found =>
    constructor
    · intro h; cases h
    · rintro ⟨other, h, -⟩; cases h

namespace Submission

def descriptor? : Submission → Except Failure Descriptor
  | .text line => (parse line).mapError .unparsed
  | .request given => given.descriptor.mapError .unsupportedAction
  | .descriptor given => .ok given

def recordedText : Submission → String
  | .text line => line
  | .request given => given.raw.getD given.action
  | .descriptor given => given.raw

def recordedAction : Submission → String
  | .text line =>
    match parse line with
    | .ok parsed => parsed.action.name
    | .error _ => Audit.unparsedAction
  | .request given => given.action
  | .descriptor given => given.action.name

def recordedResource? (submission : Submission) : Option Resource :=
  submission.descriptor?.toOption.map fun descriptor => descriptor.action.resource

theorem recordedAction_of_ok {submission : Submission} {descriptor : Descriptor}
    (h : submission.descriptor? = .ok descriptor) :
    submission.recordedAction = descriptor.action.name := by
  cases submission with
  | text line =>
    have hp : parse line = .ok descriptor := mapError_eq_ok.1 h
    simp only [recordedAction, hp]
  | request given =>
    have hr : given.descriptor = .ok descriptor := mapError_eq_ok.1 h
    unfold Request.descriptor at hr
    cases ha : Action.ofName? given.action with
    | none => simp [ha] at hr
    | some action =>
      simp only [ha, Except.ok.injEq] at hr
      subst hr
      exact (Action.name_of_ofName? ha).symm
  | descriptor given =>
    have hg : given = descriptor := Except.ok.inj h
    rw [hg]
    rfl

theorem raw_of_parse {line : String} {descriptor : Descriptor} (h : parse line = .ok descriptor) :
    descriptor.raw = line := by
  unfold parse at h
  cases hv : verbPhrase? line.toList with
  | none => simp [hv] at h
  | some phrase =>
    obtain ⟨verb, rest⟩ := phrase
    cases hm : payload verb rest with
    | error e => simp [hv, hm, Except.map] at h
    | ok members =>
      simp only [hv, hm, Except.map, Except.ok.injEq] at h
      rw [← h]

theorem recordedText_of_ok {submission : Submission} {descriptor : Descriptor}
    (h : submission.descriptor? = .ok descriptor) : submission.recordedText = descriptor.raw := by
  cases submission with
  | text line => exact (raw_of_parse (mapError_eq_ok.1 h)).symm
  | request given =>
    have hr : given.descriptor = .ok descriptor := mapError_eq_ok.1 h
    unfold Request.descriptor at hr
    cases ha : Action.ofName? given.action with
    | none => simp [ha] at hr
    | some action =>
      simp only [ha, Except.ok.injEq] at hr
      rw [← hr]
      rfl
  | descriptor given =>
    have hg : given = descriptor := Except.ok.inj h
    rw [hg]
    rfl

end Submission

end Command

open SiteDesk.Command

namespace Desk

variable {config : Config} {stamp : Stamp} {actor : Option String} {desk : Desk}

def serve (config : Config) (stamp : Stamp) (actor : Option String) (submission : Submission)
    (desk : Desk) : Outcome × Desk :=
  match submission with
  | .text text => desk.execute config stamp actor text
  | .request request => desk.executeRequest config stamp actor request
  | .descriptor descriptor => desk.perform config stamp actor descriptor

def attend (config : Config) (stamp : Stamp) (actor : Option String) (submission : Submission)
    (desk : Desk) : Outcome × Desk :=
  match submission.descriptor? with
  | .error failure => (.error failure, desk)
  | .ok descriptor => desk.carryOut stamp (handle config actor descriptor)

def entryOn (stamp : Stamp) (actor : Option String) (submission : Submission)
    (outcome : Outcome) : Audit.Entry :=
  ⟨Audit.Note.ofOutcome actor submission.recordedAction submission.recordedResource?
    submission.recordedText outcome, stamp.now⟩

def logged (entry : Audit.Entry) (desk : Desk) : Desk :=
  { desk with log := desk.log ++ [entry] }

theorem perform_eq (descriptor : Descriptor) :
    desk.perform config stamp actor descriptor =
      let (outcome, after) := desk.carryOut stamp (handle config actor descriptor)
      (outcome, after.logged ⟨Audit.Note.ofOutcome actor descriptor.action.name
        (some descriptor.action.resource) descriptor.raw outcome, stamp.now⟩) := by
  unfold perform Command.perform
  rw [Plan.run_bind]
  rfl

theorem serve_of_error {submission : Submission} {failure : Failure}
    (h : submission.descriptor? = .error failure) :
    desk.serve config stamp actor submission =
      (.error failure, desk.logged (entryOn stamp actor submission (.error failure))) := by
  unfold entryOn Submission.recordedResource?
  rw [h]
  cases submission with
  | text line =>
    obtain ⟨e, hp, rfl⟩ := mapError_eq_error.1 h
    simp only [serve, execute, Command.execute, Submission.recordedAction, hp]
    rfl
  | request given =>
    obtain ⟨e, hr, rfl⟩ := mapError_eq_error.1 h
    simp only [serve, executeRequest, Command.executeRequest, hr]
    rfl
  | descriptor given => cases h

theorem serve_of_ok {submission : Submission} {descriptor : Descriptor}
    (h : submission.descriptor? = .ok descriptor) :
    desk.serve config stamp actor submission = desk.perform config stamp actor descriptor := by
  cases submission with
  | text line =>
    have hp : parse line = .ok descriptor := mapError_eq_ok.1 h
    simp only [serve, execute, Command.execute, hp, perform]
  | request given =>
    have hr : given.descriptor = .ok descriptor := mapError_eq_ok.1 h
    simp only [serve, executeRequest, Command.executeRequest, hr, perform]
  | descriptor given =>
    have hg : given = descriptor := Except.ok.inj h
    simp only [serve, hg]

/-- Whichever way a command comes in, it is attended to and then logged. -/
theorem serve_eq (submission : Submission) :
    desk.serve config stamp actor submission =
      ((desk.attend config stamp actor submission).1,
        (desk.attend config stamp actor submission).2.logged
          (entryOn stamp actor submission (desk.attend config stamp actor submission).1)) := by
  unfold attend
  cases hd : submission.descriptor? with
  | error failure => exact serve_of_error hd
  | ok descriptor =>
    unfold entryOn Submission.recordedResource?
    rw [serve_of_ok hd, perform_eq, Submission.recordedAction_of_ok hd,
      Submission.recordedText_of_ok hd, hd]
    rfl

end Desk

end SiteDesk
