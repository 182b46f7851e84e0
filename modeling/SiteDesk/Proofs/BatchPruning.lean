import SiteDesk.Batch
import SiteDesk.Proofs.ClockReadings
import SiteDesk.Proofs.FailedCommands

/-!
Batches without some of their failed commands. A failure leaves the stores as they are, uses up no
id, and what it leaves in the schema cache cannot be seen; so the other commands come to what they
came to before, each at a time of its own.
-/
namespace SiteDesk.Batch

open SiteDesk.Command

/-- The elements of a list whose places are kept. -/
def retained {α : Type} (keep : Nat → Bool) : List α → List α
  | [] => []
  | a :: rest =>
    let others := retained (fun n => keep (n + 1)) rest
    if keep 0 then a :: others else others

structure Entry.Alike (times : Timestamp → Timestamp → Prop) (entry other : Entry) : Prop where
  command : entry.command = other.command
  outcome : entry.outcome.Alike times other.outcome

def runTimed (config : Config) (ids : Nat → String) (clock : Nat → Timestamp)
    (actor : Option String) : List String → Desk → List Entry × Desk
  | [], desk => ([], desk)
  | text :: rest, desk =>
    let (outcome, desk) := desk.execute config ⟨ids, clock 0⟩ actor text
    let (entries, desk) := runTimed config ids (fun n => clock (n + 1)) actor rest desk
    (⟨text, outcome⟩ :: entries, desk)

variable {α : Type} {config : Config} {ids : Nat → String} {actor : Option String}
  {times : Timestamp → Timestamp → Prop} {definitions : Set Json} {desk other : Desk}

theorem retained_cons_of_keep {keep : Nat → Bool} (h : keep 0 = true) (a : α) (rest : List α) :
    retained keep (a :: rest) = a :: retained (fun n => keep (n + 1)) rest := by
  simp [retained, h]

theorem retained_cons_of_drop {keep : Nat → Bool} (h : keep 0 = false) (a : α) (rest : List α) :
    retained keep (a :: rest) = retained (fun n => keep (n + 1)) rest := by
  simp [retained, h]

theorem runTimed_const (now : Timestamp) (texts : List String) (desk : Desk) :
    runTimed config ids (fun _ => now) actor texts desk =
      run config ⟨ids, now⟩ actor texts desk := by
  induction texts generalizing desk with
  | nil => rfl
  | cons text rest ih => simp only [runTimed, run, ih]

theorem Entry.Alike.eq {entry other : Entry} (h : entry.Alike Eq other) : entry = other := by
  obtain ⟨text, outcome⟩ := entry
  obtain ⟨text', outcome'⟩ := other
  have hc : text = text' := h.command
  have ho : outcome = outcome' := h.outcome.eq
  rw [hc, ho]

/-- After a command that fails, a desk is still like any that it was like before. -/
theorem alike_of_failed (hn : Schema.Cache.NoCollision definitions)
    (h : desk.Alike definitions times other) {stamp : Stamp} {submission : Submission}
    (brought : ∀ definition, submission.Brings definition → definition ∈ definitions)
    {failure : Failure} (failed : (desk.serve config stamp actor submission).1 = .error failure) :
    (desk.serve config stamp actor submission).2.Alike definitions times other := by
  obtain ⟨schemas, hs⟩ := Desk.serve_snd_of_error failed
  have itself : desk.Alike definitions Eq desk := h.versed.alike_refl fun _ => rfl
  have now : stamp.now = stamp.now := rfl
  have versed := (itself.serve hn now config stamp.id actor brought).2.versed
  have site : (desk.serve config stamp actor submission).2.site = desk.site := by rw [hs]
  have issued : (desk.serve config stamp actor submission).2.issued = desk.issued := by rw [hs]
  exact ⟨site ▸ h.site, issued.trans h.issued, versed, h.versed'⟩

/-- A batch and what is left of it, on desks that are alike: the desks remain alike, and so are the
entries of the commands in both. -/
theorem retained_runTimed (hn : Schema.Cache.NoCollision definitions)
    (clock clock' : Nat → Timestamp)
    (clocks : ∀ n m, times (clock n) (clock' m)) {texts : List String}
    (brought : ∀ text ∈ texts, ∀ definition, (Submission.text text).Brings definition →
      definition ∈ definitions)
    {keep : Nat → Bool} (h : desk.Alike definitions times other)
    (kept : ∀ n entry, (runTimed config ids clock actor texts desk).1[n]? = some entry →
      entry.isOk = true → keep n = true) :
    let full := runTimed config ids clock actor texts desk
    let cut := runTimed config ids clock' actor (retained keep texts) other
    List.Forall₂ (Entry.Alike times) (retained keep full.1) cut.1 ∧
      full.2.Alike definitions times cut.2 := by
  induction texts generalizing clock clock' keep desk other with
  | nil => exact ⟨.nil, h⟩
  | cons text rest ih =>
    intro full cut
    have broughtFirst := brought text (by simp)
    have broughtRest := fun later hl => brought later (List.mem_cons_of_mem text hl)
    let served := desk.execute config ⟨ids, clock 0⟩ actor text
    have first : full.1 = ⟨text, served.1⟩ ::
        (runTimed config ids (fun n => clock (n + 1)) actor rest served.2).1 := rfl
    have keptRest : ∀ n entry,
        (runTimed config ids (fun n => clock (n + 1)) actor rest served.2).1[n]? = some entry →
          entry.isOk = true → keep (n + 1) = true :=
      fun n entry hm => kept (n + 1) entry (by rw [first]; exact hm)
    cases hk : keep 0 with
    | true =>
      obtain ⟨alike, later⟩ := h.serve hn (clocks 0 0) config ids actor broughtFirst
      obtain ⟨entries, last⟩ :=
        ih _ _ (fun n m => clocks (n + 1) (m + 1)) broughtRest later keptRest
      simp only [full, cut, retained_cons_of_keep hk, first]
      exact ⟨.cons ⟨rfl, alike⟩ entries, last⟩
    | false =>
      cases ho : served.1 with
      | ok output =>
        have ok := kept 0 ⟨text, served.1⟩ rfl (by rw [ho]; rfl)
        rw [hk] at ok
        cases ok
      | error failure =>
        have later := alike_of_failed hn h broughtFirst ho
        obtain ⟨entries, last⟩ := ih _ _ (fun n m => clocks (n + 1) m) broughtRest later keptRest
        simp only [full, cut, retained_cons_of_drop hk, first]
        exact ⟨entries, last⟩

/-- Whatever a desk has been through, commands that fail in a batch can be cut from it: the others
come to what they came to before, up to the clock, and the desk to the same stores. With one clock
reading there is no difference at all. No two schemas in play may collide in their hashes. -/
theorem failed_commands_leave_no_trace (config : Config) (ids : Nat → String)
    (interludes : Nat → Interlude) (turns : List Audit.Turn) (opened desk : Desk)
    (fresh : opened.schemas.entries = ∅)
    (reached : desk = (opened.sessionAmid interludes Desk.answer config ids turns).2.2)
    (actor : Option String) (texts : List String) (definitions : Set Json)
    (hn : Schema.Cache.NoCollision definitions)
    (play : definitionsInPlay opened.site interludes turns ⊆ definitions)
    (brought : ∀ text ∈ texts, ∀ definition, (Submission.text text).Brings definition →
      definition ∈ definitions) :
    (∀ (clock clock' : Nat → Timestamp) (keep : Nat → Bool),
      let full := runTimed config ids clock actor texts desk
      let cut := runTimed config ids clock' actor (retained keep texts) desk
      (∀ n entry, full.1[n]? = some entry → entry.isOk = true → keep n = true) →
        List.Forall₂ (Entry.Alike fun _ _ => True) (retained keep full.1) cut.1 ∧
          full.2.site.Alike (fun _ _ => True) cut.2.site) ∧
    ∀ (now : Timestamp) (keep : Nat → Bool),
      (∀ n entry, (run config ⟨ids, now⟩ actor texts desk).1[n]? = some entry →
        entry.isOk = true → keep n = true) →
      (run config ⟨ids, now⟩ actor (retained keep texts) desk).1 =
          retained keep (run config ⟨ids, now⟩ actor texts desk).1 ∧
        (run config ⟨ids, now⟩ actor (retained keep texts) desk).2.site =
          (run config ⟨ids, now⟩ actor texts desk).2.site := by
  have versed : desk.Versed definitions :=
    reached ▸ (Desk.sessionAmid_counterparts hn config ids fresh play).2.versed
  refine ⟨?_, ?_⟩
  · intro clock clock' keep full cut kept
    have alike : desk.Alike definitions (fun _ _ => True) desk := versed.alike_refl fun _ => trivial
    obtain ⟨entries, last⟩ :=
      retained_runTimed hn clock clock' (fun _ _ => trivial) brought alike kept
    exact ⟨entries, last.site⟩
  · intro now keep kept
    have alike : desk.Alike definitions Eq desk := versed.alike_refl fun _ => rfl
    have both := retained_runTimed hn (fun _ => now) (fun _ => now) (fun _ _ => rfl) brought alike
      (by rw [runTimed_const]; exact kept)
    rw [runTimed_const, runTimed_const] at both
    obtain ⟨entries, last⟩ := both
    have same : retained keep (run config ⟨ids, now⟩ actor texts desk).1 =
        (run config ⟨ids, now⟩ actor (retained keep texts) desk).1 := by
      rw [← List.forall₂_eq_eq_eq]
      exact entries.imp fun _ _ alike => alike.eq
    exact ⟨same.symm, last.site.eq.symm⟩

/-- A page whose props do not fit, the same page corrected, a second page at its path, and the first
page published: the two commands that fail can be cut. -/
theorem failed_commands_leave_no_trace_page :
    let card := Json.object [("title", .string "string")]
    let interludes := fun _ => ({} : Interlude)
    let turns : List Audit.Turn := [⟨default, none, .request ⟨"create_component",
      [("propsSchema", card), ("type", .string "Card")], none⟩⟩]
    let texts := [
      "create page /a components=[\x7b\"type\":\"Card\",\"props\":\x7b\"title\":1\x7d\x7d]",
      "create page /a components=[\x7b\"type\":\"Card\",\"props\":\x7b\"title\":\"Hi\"\x7d\x7d]",
      "create page /a", "publish page /a"]
    let desk := ((Desk.empty {}).sessionAmid interludes Desk.answer {} Nat.repr turns).2.2
    let keep := fun n => n % 2 == 1
    Schema.Cache.NoCollision {card} ∧
      definitionsInPlay (Desk.empty {}).site interludes turns ⊆ {card} ∧
      (∀ text ∈ texts, ∀ definition, ¬ (Submission.text text).Brings definition) ∧
      (run {} ⟨Nat.repr, default⟩ none texts desk).1.map Entry.isOk = [false, true, false, true] ∧
      (run {} ⟨Nat.repr, default⟩ none (retained keep texts) desk).1 =
          retained keep (run {} ⟨Nat.repr, default⟩ none texts desk).1 ∧
        (run {} ⟨Nat.repr, default⟩ none (retained keep texts) desk).2.site =
          (run {} ⟨Nat.repr, default⟩ none texts desk).2.site := by
  intro card interludes turns texts desk keep
  have hn : Schema.Cache.NoCollision {card} :=
    ((Set.subsingleton_singleton (a := card)).image _).injOn _
  have play : definitionsInPlay (Desk.empty {}).site interludes turns ⊆ {card} := by
    rintro definition (⟨type, component, hf, -⟩ | ⟨n, site, hs, -⟩ | ⟨n, ho⟩ | ⟨turn, ht, hb⟩)
    · cases hf
    · cases hs
    · cases ho
    · obtain ⟨descriptor, hd, action, brought⟩ := hb
      simp only [turns, List.mem_cons, List.not_mem_nil, or_false] at ht
      subst ht
      cases hd
      exact (Option.some.inj brought).symm
  have pages : ∀ text ∈ texts, ((Submission.text text).descriptor?.toOption.map fun descriptor =>
      descriptor.action) ≠ some .createComponent := by
    decide +kernel
  have bringNone : ∀ text ∈ texts, ∀ definition, ¬ (Submission.text text).Brings definition := by
    rintro text ht definition ⟨descriptor, hd, action, -⟩
    apply pages text ht
    rw [hd]
    exact congrArg some action
  have outcomes : (run {} ⟨Nat.repr, default⟩ none texts desk).1.map Entry.isOk =
      [false, true, false, true] := by
    decide +kernel
  have odd : ∀ n, [false, true, false, true][n]? = some true → keep n = true := by
    intro n h
    match n with
    | 1 => rfl
    | 3 => rfl
    | 0 | 2 | n + 4 => simp at h
  have kept : ∀ n entry, (run {} ⟨Nat.repr, default⟩ none texts desk).1[n]? = some entry →
      entry.isOk = true → keep n = true := by
    intro n entry hm ok
    have hok : [false, true, false, true][n]? = some true := by
      rw [← outcomes, List.getElem?_map, hm, ← ok]
      rfl
    exact odd n hok
  have traceless := failed_commands_leave_no_trace {} Nat.repr interludes turns (Desk.empty {})
    desk rfl rfl none texts {card} hn play fun text ht definition hb =>
      absurd hb (bringNone text ht definition)
  exact ⟨hn, play, bringNone, outcomes, traceless.2 default keep kept⟩

end SiteDesk.Batch
