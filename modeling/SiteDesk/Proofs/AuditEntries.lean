import Mathlib.Data.List.Forall2
import SiteDesk.Outage
import SiteDesk.Proofs.Courses

/-!
One entry in the audit log for each command. No handler records anything, so all that is recorded of
a command is the note at the end of its plan. It is so whatever the stores answer, as long as the
log itself is kept in memory.
-/
namespace SiteDesk

open SiteDesk.Command

namespace Command

namespace Plan

variable {α β : Type}

def Silent : Plan α → Prop
  | .done _ => True
  | .call c next => ¬ c.IsNote ∧ ∀ reply, Silent (next reply)

theorem silent_found {absent : Failure} {next : β → Plan (Except Failure α)}
    (h : ∀ record, (next record).Silent) (reply : Except StoreError (Option β)) :
    (found absent next reply).Silent := by
  rcases reply with error | _ | record
  · trivial
  · trivial
  · exact h record

theorem silent_onPage {target : PageTarget} {edit : Page → Plan Outcome}
    (h : ∀ page, (edit page).Silent) : (onPage target edit).Silent := by
  cases target with
  | id id => exact ⟨nofun, silent_found h⟩
  | path path => exact ⟨nofun, silent_found h⟩

theorem LastStep.silent {definitions : Set Json} {plan : Plan Outcome}
    (h : LastStep definitions plan) : plan.Silent := by
  cases h with
  | markContactRead id => exact ⟨nofun, silent_found fun contact => trivial⟩
  | publishPage target actor => exact silent_onPage fun page => ⟨nofun, fun reply => trivial⟩
  | deletePage target => exact silent_onPage fun page => ⟨nofun, fun reply => trivial⟩
  | _ => exact ⟨nofun, fun reply => trivial⟩

theorem Course.silent {plan other : Plan Outcome}
    (h : Course Set.univ (LastStep Set.univ) plan other) : plan.Silent := by
  induction h with
  | ends last => exact last.silent
  | fails failure => trivial
  | stopped forTags plan => trivial
  | findComponent bySchema goesOn ih =>
    exact ⟨nofun, silent_found fun component => ih component fun _ _ => trivial⟩
  | compileSchema known goesOn ih => exact ⟨nofun, ih⟩

end Plan

theorem Submission.silent_handled {config : Config} {actor : Option String}
    (submission : Submission) : (submission.handled config actor).Silent := by
  unfold handled
  cases submission.descriptor? with
  | ok known => exact Plan.Course.silent (Handler.course_handle fun _ _ _ => trivial)
  | error failure => trivial

end Command

namespace Audit

/-- A log in memory behind a receiver of calls: a note becomes the last entry, and no other call
touches the log. -/
structure KeepsLog {σ : Type} (log : σ → List Entry) (answer : (c : Call) → σ → c.Reply × σ) :
    Prop where
  record : ∀ note state, ∃ now, log (answer (.record note) state).2 = log state ++ [⟨note, now⟩]
  other : ∀ c state, ¬ c.IsNote → log (answer c state).2 = log state

theorem keepsLog_answer (stamp : Stamp) : KeepsLog Desk.log (Desk.answer stamp) where
  record note desk := ⟨stamp.now, rfl⟩
  other c desk hc := by
    cases c with
    | record note => exact absurd trivial hc
    | createComponent component =>
      simp only [Desk.answer, Desk.created]
      split <;> rfl
    | createPage page actor =>
      simp only [Desk.answer, Desk.created]
      split <;> rfl
    | publishPage id actor =>
      simp only [Desk.answer]
      split <;> rfl
    | deletePage id =>
      simp only [Desk.answer]
      split <;> rfl
    | markContactRead id =>
      simp only [Desk.answer]
      split <;> rfl
    | _ => rfl

/-- Outages of the stores do not touch the log, as long as the log is not out itself. -/
theorem KeepsLog.during {σ : Type} {log : σ → List Entry} {answer : (c : Call) → σ → c.Reply × σ}
    (h : KeepsLog log answer) {outages : Outages} (hr : outages .record = none) :
    KeepsLog log (outages.answer answer) where
  record note state := by
    have hn : outages.refusal? (.record note) = none := by
      simp [Outages.refusal?, Call.refusal?, hr]
    simp only [Outages.answer, hn]
    exact h.record note state
  other c state hc := by
    unfold Outages.answer
    split
    · rfl
    · exact h.other c state hc

variable {σ : Type} {log : σ → List Entry} {answer : (c : Call) → σ → c.Reply × σ}

theorem KeepsLog.run_silent {α : Type} (h : KeepsLog log answer) {plan : Plan α}
    (hs : plan.Silent) (state : σ) : log (plan.run answer state).2 = log state := by
  induction plan generalizing state with
  | done result => rfl
  | call c next ih =>
    rw [Plan.run_call, ih _ (hs.2 _), h.other c state hs.1]

/-- An entry says by whom a command was given, in which words, what it was to do, and what came of
it. -/
structure Entry.Attests (actor : Option String) (submission : Submission) (outcome : Outcome)
    (entry : Entry) : Prop where
  actor : entry.actor = actor
  command : entry.command = submission.recordedText
  action : entry.action = submission.recordedAction
  resource : entry.resource = submission.recordedResource?
  success : entry.success = true ↔ ∃ output, outcome = .ok output
  resourceId : entry.resourceId = match outcome with
    | .ok output => output.resourceId?
    | .error _ => none
  details : entry.details = match outcome with
    | .ok output => output.summary
    | .error failure => failure.toJson

theorem attests_note (actor : Option String) (submission : Submission) (outcome : Outcome)
    (now : Timestamp) :
    Entry.Attests actor submission outcome
      ⟨Note.ofOutcome actor submission.recordedAction submission.recordedResource?
        submission.recordedText outcome, now⟩ where
  actor := by cases outcome <;> rfl
  command := by cases outcome <;> rfl
  action := by cases outcome <;> rfl
  resource := by cases outcome <;> rfl
  success := by cases outcome <;> simp [Note.ofOutcome]
  resourceId := by cases outcome <;> rfl
  details := by cases outcome <;> rfl

/-- A command that is carried out leaves one more entry, which attests it. -/
theorem KeepsLog.run_plan (h : KeepsLog log answer) (config : Config) (actor : Option String)
    (submission : Submission) (state : σ) :
    ∃ entry, log ((submission.plan config actor).run answer state).2 = log state ++ [entry] ∧
      entry.Attests actor submission ((submission.plan config actor).run answer state).1 := by
  obtain ⟨now, hr⟩ := h.record (Note.ofOutcome actor submission.recordedAction
    submission.recordedResource? submission.recordedText
    ((submission.handled config actor).run answer state).1)
    ((submission.handled config actor).run answer state).2
  rw [h.run_silent submission.silent_handled] at hr
  rw [Submission.plan_eq, Plan.run_bind]
  exact ⟨_, hr, attests_note actor submission _ now⟩

structure Turn where
  now : Timestamp
  actor : Option String
  submission : Submission

/-- Any sequence of commands leaves one entry for each of them behind the entries that were there,
in the order of the commands, and each entry attests its command and what came of it. -/
theorem one_entry_per_command (config : Config)
    (receiver : Turn → (c : Call) → σ → c.Reply × σ)
    (keeps : ∀ turn, KeepsLog log (receiver turn)) (turns : List Turn) (state : σ) :
    let session := fun turns => Plan.inTurn receiver
      (fun turn : Turn => turn.submission.plan config turn.actor) turns state
    (session turns).1.length = turns.length ∧
    ∃ entries,
      List.Forall₂ (fun call entry => Entry.Attests call.1.actor call.1.submission call.2 entry)
        (turns.zip (session turns).1) entries ∧
      ∀ n, log (session (turns.take n)).2 = log state ++ entries.take n := by
  dsimp only
  induction turns generalizing state with
  | nil => exact ⟨rfl, [], .nil, fun n => by simp [Plan.inTurn]⟩
  | cons turn rest ih =>
    obtain ⟨entry, hl, ha⟩ := (keeps turn).run_plan config turn.actor turn.submission state
    obtain ⟨hlen, entries, hf, hn⟩ :=
      ih ((turn.submission.plan config turn.actor).run (receiver turn) state).2
    refine ⟨congrArg (· + 1) hlen, entry :: entries, .cons ha hf, ?_⟩
    intro n
    cases n with
    | zero => simp [Plan.inTurn]
    | succ n =>
      rw [List.take_succ_cons, List.take_succ_cons, Plan.inTurn]
      dsimp only
      rw [hn n, hl, List.append_assoc, List.singleton_append]

/-- While no page can be created, a page is asked for, then something that is no command, then an
action that does not exist. -/
theorem one_entry_per_command_during_outage :
    let outages := Outages.none.start .createPage (.backend "full")
    let receiver := fun turn : Turn => outages.answer (Desk.answer ⟨Nat.repr, turn.now⟩)
    let turns : List Turn := [⟨default, some "ann", .text " create page /a "⟩,
      ⟨default, none, .text "hello"⟩, ⟨default, none, .request ⟨"archive", [], none⟩⟩]
    (∀ turn, KeepsLog Desk.log (receiver turn)) ∧
      ∃ first second third,
        (Plan.inTurn receiver (fun turn : Turn => turn.submission.plan {} turn.actor) turns
          (.empty {})).2.log =
            [first, second, third] ∧
        first.action = "create_page" ∧ first.command = " create page /a " ∧
        first.success = false ∧
        first.details = Failure.toJson (.internal "storage backend error: full") ∧
        second.action = "unparsed_command" ∧ third.action = "archive" ∧ third.resource = none := by
  intro outages receiver turns
  have keeps : ∀ turn, KeepsLog Desk.log (receiver turn) := fun turn =>
    (keepsLog_answer ⟨Nat.repr, turn.now⟩).during rfl
  refine ⟨keeps, ?_⟩
  obtain ⟨-, entries, attested, kept⟩ := one_entry_per_command {} receiver keeps turns (.empty {})
  have outcomes : (Plan.inTurn receiver (fun turn : Turn => turn.submission.plan {} turn.actor)
      turns (.empty {})).1 = [.error (.internal "storage backend error: full"),
        .error (.unparsed .unsupported), .error (.unsupportedAction ⟨"archive"⟩)] := by
    rfl
  rw [outcomes] at attested
  obtain _ | ⟨first, _ | ⟨second, _ | ⟨third, _ | _⟩⟩⟩ := attested
  have failed := mt first.success.1 nofun
  exact ⟨_, _, _, kept 3, first.action, first.command, Bool.eq_false_iff.2 failed,
    first.details, second.action, third.action, third.resource⟩

end Audit

end SiteDesk
