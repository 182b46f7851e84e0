import Mathlib.Logic.Function.Basic
import SiteDesk.Proofs.Serving

/-!
Several plans over one state. They run in turn, each to its end before the next begins, or
interleaved, where a schedule says which of them makes the next call.
-/
namespace SiteDesk.Command

def Submission.plan (config : Config) (actor : Option String) : Submission → Plan Outcome
  | .text line => execute config actor line
  | .request given => executeRequest config actor given
  | .descriptor given => perform config actor given

def Submission.handled (config : Config) (actor : Option String) (submission : Submission) :
    Plan Outcome :=
  match submission.descriptor? with
  | .ok known => (handle config actor known).run
  | .error failure => .done (.error failure)

theorem Submission.run_plan {config : Config} {stamp : Stamp} {actor : Option String}
    (submission : Submission) (desk : Desk) :
    (submission.plan config actor).run (Desk.answer stamp) desk =
      desk.serve config stamp actor submission := by
  cases submission <;> rfl

/-- Every command ends in a note on what came of it. -/
theorem Submission.plan_eq (config : Config) (actor : Option String) (submission : Submission) :
    submission.plan config actor =
      Plan.bind (submission.handled config actor)
        (audited actor submission.recordedAction submission.recordedResource?
          submission.recordedText) := by
  unfold handled
  cases hd : submission.descriptor? with
  | ok known =>
    rw [recordedAction_of_ok hd, recordedText_of_ok hd, recordedResource?, hd]
    cases submission with
    | text line =>
      have hp : parse line = .ok known := mapError_eq_ok.1 hd
      simp only [plan, execute, hp]
      rfl
    | request given =>
      have hr : given.descriptor = .ok known := mapError_eq_ok.1 hd
      simp only [plan, executeRequest, hr]
      rfl
    | descriptor given =>
      have hg : given = known := Except.ok.inj hd
      rw [hg]
      rfl
  | error failure =>
    rw [recordedResource?, hd]
    cases submission with
    | text line =>
      obtain ⟨e, hp, rfl⟩ := mapError_eq_error.1 hd
      simp only [plan, execute, recordedAction, hp]
      rfl
    | request given =>
      obtain ⟨e, hr, rfl⟩ := mapError_eq_error.1 hd
      simp only [plan, executeRequest, hr]
      rfl
    | descriptor given => cases hd

def Call.IsNote : Call → Prop
  | .record _ => True
  | _ => False

namespace Plan

variable {ι α σ : Type}

def inTurn (answer : ι → (c : Call) → σ → c.Reply × σ) (plan : ι → Plan α) :
    List ι → σ → List α × σ
  | [], state => ([], state)
  | i :: rest, state =>
    let (result, state) := (plan i).run (answer i) state
    let (results, state) := inTurn answer plan rest state
    (result :: results, state)

theorem inTurn_append (answer : ι → (c : Call) → σ → c.Reply × σ) (plan : ι → Plan α)
    (earlier later : List ι) (state : σ) :
    inTurn answer plan (earlier ++ later) state =
      ((inTurn answer plan earlier state).1 ++
          (inTurn answer plan later (inTurn answer plan earlier state).2).1,
        (inTurn answer plan later (inTurn answer plan earlier state).2).2) := by
  induction earlier generalizing state with
  | nil => rfl
  | cons i rest ih => simp [inTurn, ih]

theorem inTurn_of_unchanged {answer : ι → (c : Call) → σ → c.Reply × σ} {plan : ι → Plan α}
    {result : α} {state : σ} {order : List ι}
    (h : ∀ i ∈ order, (plan i).run (answer i) state = (result, state)) :
    inTurn answer plan order state = (order.map fun _ => result, state) := by
  induction order with
  | nil => rfl
  | cons i rest ih =>
    have hr := ih fun j hj => h j (List.mem_cons_of_mem _ hj)
    rw [inTurn, h i (by simp)]
    dsimp only
    rw [hr]
    rfl

/-- Of plans that run in turn at most one wins, if whoever wins leaves a state in which no one does
any more. -/
theorem winner_unique {answer : ι → (c : Call) → σ → c.Reply × σ} {plan : ι → Plan α}
    {results : ι → α} {Wins : ι → Prop} {Ready : List ι → σ → Prop} (Spent : List ι → σ → Prop)
    (ready : ∀ i rest state, Ready (i :: rest) state →
      Ready rest ((plan i).run (answer i) state).2)
    (wins : ∀ i rest state, Ready (i :: rest) state →
      ((plan i).run (answer i) state).1 = results i → Wins i →
        Spent rest ((plan i).run (answer i) state).2)
    (spent : ∀ i rest state, Ready (i :: rest) state → Spent (i :: rest) state →
      ((plan i).run (answer i) state).1 = results i →
        ¬ Wins i ∧ Spent rest ((plan i).run (answer i) state).2)
    {order : List ι} {state : σ} (h : Ready order state)
    (run : (inTurn answer plan order state).1 = order.map results) :
    ∀ i ∈ order, ∀ j ∈ order, Wins i → Wins j → i = j := by
  have lost : ∀ order state, Ready order state → Spent order state →
      (inTurn answer plan order state).1 = order.map results → ∀ j ∈ order, ¬ Wins j := by
    intro order
    induction order with
    | nil => simp
    | cons i rest ih =>
      intro state hr hs run
      obtain ⟨head, tail⟩ := List.cons.inj run
      obtain ⟨hw, hl⟩ := spent i rest state hr hs head
      exact List.forall_mem_cons.2 ⟨hw, ih _ (ready i rest state hr) hl tail⟩
  induction order generalizing state with
  | nil => simp
  | cons i rest ih =>
    obtain ⟨head, tail⟩ := List.cons.inj run
    have hr := ready i rest state h
    have after : Wins i → ∀ j ∈ rest, ¬ Wins j :=
      fun hi => lost rest _ hr (wins i rest state h head hi) tail
    intro j hj k hk wj wk
    rcases List.mem_cons.1 hj with rfl | hjr
    · rcases List.mem_cons.1 hk with rfl | hkr
      · rfl
      · exact absurd wk (after wj k hkr)
    · rcases List.mem_cons.1 hk with rfl | hkr
      · exact absurd wj (after wk j hjr)
      · exact ih hr tail j hjr k hkr wj wk

/-- Runs plans at the same time, one call after another; the schedule names the plan that makes the
next call, and at its end every plan has come to its result. -/
inductive Interleaving [DecidableEq ι] (answer : ι → (c : Call) → σ → c.Reply × σ) :
    (ι → Plan α) → σ → List ι → (ι → α) → σ → Prop
  | done {progress : ι → Plan α} {results : ι → α} (state : σ)
      (ended : ∀ i, progress i = .done (results i)) :
      Interleaving answer progress state [] results state
  | step {progress : ι → Plan α} {state after : σ} {schedule : List ι} {results : ι → α} {i : ι}
      {c : Call} {next : c.Reply → Plan α} (asks : progress i = .call c next)
      (later : Interleaving answer (Function.update progress i (next (answer i c state).1))
        (answer i c state).2 schedule results after) :
      Interleaving answer progress state (i :: schedule) results after

/-- In a list in which every plan occurs, all occurrences of one come before all of another. -/
def Precedes (schedule : List ι) (i j : ι) : Prop :=
  ∃ early late, schedule = early ++ late ∧ i ∉ late ∧ j ∉ early

theorem Precedes.append_left {earlier schedule : List ι} {i j : ι} (h : Precedes schedule i j)
    (hj : j ∉ earlier) : Precedes (earlier ++ schedule) i j := by
  obtain ⟨early, late, rfl, hi, he⟩ := h
  exact ⟨earlier ++ early, late, by rw [List.append_assoc], hi, by simp [hj, he]⟩

theorem not_precedes_of_mem {past later : List ι} {i j : ι} (hj : j ∈ past) (hi : i ∈ later) :
    ¬ Precedes (past ++ later) i j := by
  rintro ⟨early, late, hs, hil, hje⟩
  rcases List.append_eq_append_iff.1 hs with ⟨more, rfl, -⟩ | ⟨more, -, rfl⟩
  · exact hje (List.mem_append_left _ hj)
  · exact hil (List.mem_append_right _ hi)

theorem not_precedes_self {schedule : List ι} {i : ι} (hi : i ∈ schedule) :
    ¬ Precedes schedule i i := by
  rintro ⟨early, late, rfl, hil, hie⟩
  rcases List.mem_append.1 hi with h | h
  · exact hie h
  · exact hil h

theorem Interleaving.done_of_not_mem [DecidableEq ι]
    {answer : ι → (c : Call) → σ → c.Reply × σ} {progress : ι → Plan α} {state after : σ}
    {schedule : List ι} {results : ι → α}
    (h : Interleaving answer progress state schedule results after) {i : ι} (hi : i ∉ schedule) :
    progress i = .done (results i) := by
  induction h with
  | done state ended => exact ended i
  | step asks later ih =>
    simp only [List.mem_cons, not_or] at hi
    have hp := ih hi.2
    rwa [Function.update_of_ne hi.1] at hp

end Plan

end SiteDesk.Command
