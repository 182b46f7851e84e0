import SiteDesk.Proofs.Agreement
import SiteDesk.Proofs.AuditEntries

/-!
Audit sinks: receivers of log entries that may refuse any of them. No command looks at what its
note is answered with, so two desks whose entries go to different sinks come to the same outcomes
and cannot be told apart, and neither can be told from a desk that keeps its log in memory.
-/
namespace SiteDesk

open SiteDesk.Command

namespace Audit

variable {σ τ υ : Type}

abbrev Sink (τ : Type) := Entry → τ → Except StoreError Unit × τ

namespace Sink

/-- Sends the notes for the log to a sink; all other calls are answered as before. -/
def answer (sink : Sink τ) (now : Timestamp) (otherwise : (c : Call) → σ → c.Reply × σ) :
    (c : Call) → σ × τ → c.Reply × (σ × τ)
  | .record note, (state, kept) =>
    let (reply, kept) := sink ⟨note, now⟩ kept
    (reply, state, kept)
  | c, (state, kept) =>
    let (reply, state) := otherwise c state
    (reply, state, kept)

/-- The outcomes of commands on a desk whose entries go to a sink, and how desk and sink end. Some
calls on the stores may be refused during a command. -/
def session (sink : Sink τ) (config : Config) (ids : Nat → String) (outages : Turn → Outages)
    (turns : List Turn) (desk : Desk) (kept : τ) : List Outcome × (Desk × τ) :=
  Plan.inTurn
    (fun turn => sink.answer turn.now ((outages turn).answer (Desk.answer ⟨ids, turn.now⟩)))
    (fun turn => turn.submission.plan config turn.actor) turns (desk, kept)

theorem answer_of_not_note (sink : Sink τ) (now : Timestamp)
    (otherwise : (c : Call) → σ → c.Reply × σ) {c : Call} (hc : ¬ c.IsNote) (state : σ) (kept : τ) :
    sink.answer now otherwise c (state, kept) =
      ((otherwise c state).1, (otherwise c state).2, kept) := by
  cases c with
  | record note => exact absurd trivial hc
  | _ => rfl

end Sink

end Audit

namespace Desk

theorem during_withLog (stamp : Stamp) (outages : Outages) {c : Call} (hn : ¬ c.IsNote)
    (log : List Audit.Entry) (desk : Desk) :
    outages.answer (answer stamp) c { desk with log } =
      ((outages.answer (answer stamp) c desk).1,
        { (outages.answer (answer stamp) c desk).2 with log }) := by
  unfold Outages.answer
  cases outages.refusal? c with
  | some reply => rfl
  | none => exact answer_withLog stamp hn log desk

end Desk

namespace Audit

variable {τ υ : Type} {outages : Outages} {now : Timestamp} {ids : Nat → String} {c : Call}

theorem Sink.answer_concurs (sink : Sink τ) (other : Sink υ) (desk : Desk) (kept : τ) (kept' : υ) :
    let reply := sink.answer now (outages.answer (Desk.answer ⟨ids, now⟩)) c (desk, kept)
    let reply' := other.answer now (outages.answer (Desk.answer ⟨ids, now⟩)) c (desk, kept')
    c.Concurs Set.univ Eq reply.1 reply'.1 ∧ reply.2.1 = reply'.2.1 := by
  by_cases hc : c.IsNote
  · cases c with
    | record note => exact ⟨trivial, rfl⟩
    | _ => exact hc.elim
  · rw [answer_of_not_note _ _ _ hc, answer_of_not_note _ _ _ hc]
    exact ⟨(c.honest_univ _).concurs, rfl⟩

/-- A desk keeps its log as a sink would, and takes no further notice of it. -/
theorem Sink.answer_concurs_memory (sink : Sink τ) (log : List Entry) (desk : Desk) (kept : τ) :
    let reply := sink.answer now (outages.answer (Desk.answer ⟨ids, now⟩)) c
      ({ desk with log }, kept)
    let reply' := outages.answer (Desk.answer ⟨ids, now⟩) c desk
    c.Concurs Set.univ Eq reply.1 reply'.1 ∧ reply.2.1 = { reply'.2 with log } := by
  by_cases hc : c.IsNote
  · cases c with
    | record note =>
      refine ⟨trivial, ?_⟩
      unfold Outages.answer
      cases outages.refusal? (.record note) <;> rfl
    | _ => exact hc.elim
  · rw [answer_of_not_note _ _ _ hc, Desk.during_withLog _ _ hc]
    exact ⟨(c.honest_univ _).concurs, rfl⟩

/-- Whatever two sinks answer and however they change, every command comes to the same outcome with
both, and the desk to the same stores and the same cache; and so does a desk that keeps the log
itself. -/
theorem sinks_never_change_outcomes (config : Config) (ids : Nat → String)
    (outages : Turn → Outages) (sink : Sink τ) (other : Sink υ) (turns : List Turn) (desk : Desk)
    (kept : τ) (kept' : υ) :
    let run := sink.session config ids outages turns desk kept
    let run' := other.session config ids outages turns desk kept'
    let plain := Plan.inTurn (fun turn => (outages turn).answer (Desk.answer ⟨ids, turn.now⟩))
      (fun turn => turn.submission.plan config turn.actor) turns desk
    (run.1 = run'.1 ∧ run.2.1 = run'.2.1) ∧
      run.1 = plain.1 ∧ run.2.1 = { plain.2 with log := desk.log } := by
  intro run run' plain
  have agrees : ∀ turn ∈ turns, Plan.Agrees Set.univ Eq (Outcome.Alike Eq)
      (turn.submission.plan config turn.actor) (turn.submission.plan config turn.actor) :=
    fun turn _ => Submission.agrees_plan fun _ _ => trivial
  have both : List.Forall₂ (Outcome.Alike Eq) run.1 run'.1 ∧ run.2.1 = run'.2.1 := by
    refine Plan.inTurn_agrees (fun (s : Desk × τ) (s' : Desk × υ) => s.1 = s'.1) ?_ agrees rfl
    rintro turn c ⟨desk, kept⟩ ⟨-, kept'⟩ - ⟨⟩
    exact sink.answer_concurs other desk kept kept'
  have memory : List.Forall₂ (Outcome.Alike Eq) run.1 plain.1 ∧
      run.2.1 = { plain.2 with log := desk.log } := by
    refine Plan.inTurn_agrees
      (fun (s : Desk × τ) (d : Desk) => s.1 = { d with log := desk.log }) ?_ agrees rfl
    rintro turn c ⟨-, kept⟩ state - ⟨⟩
    exact sink.answer_concurs_memory desk.log state kept
  exact ⟨⟨eq_of_alike both.1, both.2⟩, eq_of_alike memory.1, memory.2⟩

end Audit

end SiteDesk
