import SiteDesk.Proofs.AuditEntries
import SiteDesk.Proofs.Agreement
import SiteDesk.Proofs.CompactIdentity

/-!
The schema cache cannot be seen. However it is used, emptied and filled in the meantime, a look-up
gives what the compiler gives, so a desk comes to the same outcomes, the same stores and the same
log as one that compiles every definition anew.
-/
namespace SiteDesk

open SiteDesk.Command

namespace Schema.Cache

/-- What happens to a cache: it is used, it is emptied, or a schema leaves it, which it may at any
time. -/
inductive Operation where
  | compile (definition : Json)
  | contains (definition : Json)
  | invalidateAll
  | expiry (hash : String)

def operate (cache : Cache) : Operation → Cache
  | .compile definition => (cache.compile definition).2
  | .contains _ => cache
  | .invalidateAll => cache.invalidateAll
  | .expiry hash => { cache with entries := cache.entries.erase hash }

def operated (operations : List Operation) (cache : Cache) : Cache :=
  operations.foldl operate cache

variable {definitions : Set Json} {cache : Cache}

theorem Faithful.operate (hn : NoCollision definitions) (h : Faithful definitions cache)
    {operation : Operation}
    (ho : ∀ definition, operation = .compile definition → definition ∈ definitions) :
    Faithful definitions (cache.operate operation) := by
  cases operation with
  | compile definition => exact h.compile_snd hn (ho definition rfl)
  | contains definition => exact h
  | invalidateAll => exact faithful_of_entries_eq_empty rfl
  | expiry hash => exact h.expired hash

theorem Faithful.operated (hn : NoCollision definitions) (h : Faithful definitions cache)
    {operations : List Operation}
    (ho : ∀ definition, .compile definition ∈ operations → definition ∈ definitions) :
    Faithful definitions (cache.operated operations) :=
  List.foldlRecOn operations Cache.operate h fun _ hc _ hm =>
    hc.operate hn fun definition he => ho definition (he ▸ hm)

end Schema.Cache

/-- What happens around a desk before one of its calls: others may have written the stores and used
the cache, and some calls may be refused at present. -/
structure Interlude where
  site : Option Site := none
  issued : Option Nat := none
  operations : List Schema.Cache.Operation := []
  outages : Outages := .none

def Site.Registers (definition : Json) (site : Site) : Prop :=
  ∃ type component, site.components.find type = some component ∧
    component.schema? = some definition

/-- The definitions that may be compiled in a session. -/
def definitionsInPlay (site : Site) (interludes : Nat → Interlude) (turns : List Audit.Turn) :
    Set Json :=
  { definition |
    site.Registers definition ∨
    (∃ n site, (interludes n).site = some site ∧ site.Registers definition) ∨
    (∃ n, .compile definition ∈ (interludes n).operations) ∨
    ∃ turn ∈ turns, turn.submission.Brings definition }

namespace Desk

open Schema

/-- Answers a call with the compiler in the place of the cache. -/
def answerDirectly (stamp : Stamp) : (c : Call) → Desk → c.Reply × Desk
  | .compileSchema definition, desk => (Schema.compile definition, desk)
  | c, desk => answer stamp c desk

@[simp] theorem answerDirectly_of_not {c : Call} (hc : ¬ c.IsCompilation) (stamp : Stamp) (desk : Desk) :
    answerDirectly stamp c desk = answer stamp c desk := by
  cases c with
  | compileSchema definition => exact absurd trivial hc
  | _ => rfl

def between (interlude : Interlude) (desk : Desk) : Desk :=
  { desk with
    site := interlude.site.getD desk.site
    issued := interlude.issued.getD desk.issued
    schemas := desk.schemas.operated interlude.operations }

/-- Answers the calls of a session, which are counted from the first, each after its interlude. -/
def answerAmid (interludes : Nat → Interlude) (otherwise : (c : Call) → Desk → c.Reply × Desk)
    (c : Call) : Nat × Desk → c.Reply × (Nat × Desk)
  | (n, desk) =>
    let (reply, desk) := (interludes n).outages.answer otherwise c (desk.between (interludes n))
    (reply, n + 1, desk)

def sessionAmid (interludes : Nat → Interlude)
    (answer : Stamp → (c : Call) → Desk → c.Reply × Desk) (config : Config) (ids : Nat → String)
    (turns : List Audit.Turn) (desk : Desk) : List Outcome × (Nat × Desk) :=
  Plan.inTurn (fun turn => answerAmid interludes (answer ⟨ids, turn.now⟩))
    (fun turn => turn.submission.plan config turn.actor) turns (0, desk)

variable {definitions : Set Json} {ids : Nat → String} {now : Timestamp} {desk : Desk}

theorem answer_nextId (ids : Nat → String) (now : Timestamp) (c : Call) (desk : Desk) :
    answer ⟨ids, now⟩ c desk = answer ⟨fun _ => ids desk.issued, now⟩ c desk := by
  cases c <;> rfl

/-- A versed desk answers as it would without its cache, and stays versed. -/
theorem Versed.answerDirectly (hn : Cache.NoCollision definitions) (h : desk.Versed definitions)
    (ids : Nat → String) (now : Timestamp) {c : Call} (hc : c.Within definitions)
    (schemas : Cache) :
    let reply := Desk.answer ⟨ids, now⟩ c desk
    let direct := Desk.answerDirectly ⟨ids, now⟩ c { desk with schemas }
    c.Concurs definitions Eq reply.1 direct.1 ∧ direct.2 = { reply.2 with schemas } ∧
      reply.2.Versed definitions := by
  intro reply direct
  obtain ⟨-, -, versed, expected⟩ := h.answer hn (ids desk.issued) now hc
  rw [← answer_nextId] at versed expected
  suffices same : direct.1 = reply.1 ∧ direct.2 = { reply.2 with schemas } by
    exact ⟨same.1 ▸ expected.honest.concurs, same.2, versed⟩
  by_cases hk : c.IsCompilation
  · cases c with
    | compileSchema definition => exact ⟨(h.cache.compile_fst hc).symm, rfl⟩
    | _ => exact hk.elim
  · have hw := answer_withSchemas ⟨ids, now⟩ hk schemas desk
    have hd : direct = Desk.answer ⟨ids, now⟩ c { desk with schemas } :=
      answerDirectly_of_not hk _ _
    rw [hd, hw]
    exact ⟨rfl, rfl⟩

/-- What happens around a desk leaves it versed, as long as it brings no other schema. -/
theorem Versed.between (hn : Cache.NoCollision definitions) (h : desk.Versed definitions)
    {interlude : Interlude}
    (written : ∀ site, interlude.site = some site → ∀ definition, site.Registers definition →
      definition ∈ definitions)
    (compiled : ∀ definition, .compile definition ∈ interlude.operations →
      definition ∈ definitions) :
    (desk.between interlude).Versed definitions where
  schemas type component hf definition hd := by
    unfold Desk.between at hf
    cases hs : interlude.site with
    | none =>
      rw [hs] at hf
      exact h.schemas type component hf definition hd
    | some site =>
      rw [hs] at hf
      exact written site hs definition ⟨type, component, hf, hd⟩
  cache := h.cache.operated hn compiled

/-- After as many calls, a versed desk and the same desk but for its cache. -/
inductive Counterparts (definitions : Set Json) : Nat × Desk → Nat × Desk → Prop
  | mk {n : Nat} {desk : Desk} (versed : desk.Versed definitions) (schemas : Cache) :
      Counterparts definitions (n, desk) (n, { desk with schemas })

theorem Counterparts.versed {state state' : Nat × Desk}
    (h : Counterparts definitions state state') : state.2.Versed definitions := by
  cases h with
  | mk versed schemas => exact versed

theorem Counterparts.answerAmid (hn : Cache.NoCollision definitions)
    {interludes : Nat → Interlude}
    (written : ∀ n site, (interludes n).site = some site → ∀ definition,
      site.Registers definition → definition ∈ definitions)
    (compiled : ∀ n definition, .compile definition ∈ (interludes n).operations →
      definition ∈ definitions)
    {c : Call} (hc : c.Within definitions) {state state' : Nat × Desk}
    (h : Counterparts definitions state state') :
    let reply := Desk.answerAmid interludes (Desk.answer ⟨ids, now⟩) c state
    let direct := Desk.answerAmid interludes (Desk.answerDirectly ⟨ids, now⟩) c state'
    c.Concurs definitions Eq reply.1 direct.1 ∧ Counterparts definitions reply.2 direct.2 := by
  obtain @⟨n, desk, versed, schemas⟩ := h
  have later := versed.between hn (written n) (compiled n)
  have same : ({ desk with schemas } : Desk).between (interludes n) =
      { desk.between (interludes n) with schemas := schemas.operated (interludes n).operations } :=
    rfl
  unfold Desk.answerAmid Outages.answer
  dsimp only
  rw [same]
  cases refused : (interludes n).outages.refusal? c with
  | some reply => exact ⟨(Call.honest_refusal refused).concurs, .mk later _⟩
  | none =>
    obtain ⟨concurs, left, kept⟩ :=
      later.answerDirectly hn ids now hc (schemas.operated (interludes n).operations)
    refine ⟨concurs, ?_⟩
    dsimp only at left ⊢
    rw [left]
    exact .mk kept _

theorem sessionAmid_counterparts (hn : Cache.NoCollision definitions) (config : Config)
    (ids : Nat → String) {interludes : Nat → Interlude} {turns : List Audit.Turn}
    (fresh : desk.schemas.entries = ∅)
    (play : definitionsInPlay desk.site interludes turns ⊆ definitions) :
    let cached := desk.sessionAmid interludes answer config ids turns
    let direct := desk.sessionAmid interludes Desk.answerDirectly config ids turns
    List.Forall₂ (Outcome.Alike Eq) cached.1 direct.1 ∧
      Counterparts definitions cached.2 direct.2 := by
  have versed : desk.Versed definitions :=
    ⟨fun type component hf definition hd => play (Or.inl ⟨type, component, hf, hd⟩),
      Cache.faithful_of_entries_eq_empty fresh⟩
  have written : ∀ n site, (interludes n).site = some site → ∀ definition,
      site.Registers definition → definition ∈ definitions :=
    fun n site hs definition hr => play (Or.inr (Or.inl ⟨n, site, hs, hr⟩))
  have compiled : ∀ n definition, .compile definition ∈ (interludes n).operations →
      definition ∈ definitions :=
    fun n definition ho => play (Or.inr (Or.inr (Or.inl ⟨n, ho⟩)))
  have agrees : ∀ turn ∈ turns, Plan.Agrees definitions Eq (Outcome.Alike Eq)
      (turn.submission.plan config turn.actor) (turn.submission.plan config turn.actor) :=
    fun turn ht => Submission.agrees_plan fun definition hb =>
      play (Or.inr (Or.inr (Or.inr ⟨turn, ht, hb⟩)))
  refine Plan.inTurn_agrees (Counterparts definitions) ?_ agrees (.mk versed _)
  intro turn c state state' hc h
  exact h.answerAmid hn written compiled hc

/-- Definitions are told apart by their forms. Where these do not collide in their hashes, a cache
gives for each of them what the compiler gives, whatever happened to it before, and every session
comes to the outcomes, the stores and the log that it would come to with the compiler alone. -/
theorem schema_cache_invisible (definitions : Set Json) (hn : Cache.NoCollision definitions) :
    (Set.InjOn Json.Number.text {n | ∃ definition ∈ definitions, n ∈ definition.numbers} →
      Set.InjOn Json.compactText definitions) ∧
    (∀ (cache : Cache) (operations : List Cache.Operation), cache.entries = ∅ →
      (∀ definition, .compile definition ∈ operations → definition ∈ definitions) →
      ∀ definition ∈ definitions,
        ((cache.operated operations).compile definition).1 = Schema.compile definition) ∧
    ∀ (config : Config) (ids : Nat → String) (interludes : Nat → Interlude)
      (turns : List Audit.Turn) (desk : Desk), desk.schemas.entries = ∅ →
      definitionsInPlay desk.site interludes turns ⊆ definitions →
      let cached := desk.sessionAmid interludes answer config ids turns
      let direct := desk.sessionAmid interludes Desk.answerDirectly config ids turns
      cached.1 = direct.1 ∧ cached.2.2.site = direct.2.2.site ∧
        cached.2.2.log = direct.2.2.log ∧ cached.2.2.issued = direct.2.2.issued := by
  refine ⟨Json.compactText_injOn, ?_, ?_⟩
  · intro cache operations fresh compiled definition hd
    have faithful := (Cache.faithful_of_entries_eq_empty fresh).operated hn compiled
    exact faithful.compile_fst hd
  · intro config ids interludes turns desk fresh play cached direct
    have both : List.Forall₂ (Outcome.Alike Eq) cached.1 direct.1 ∧
        Counterparts definitions cached.2 direct.2 :=
      sessionAmid_counterparts hn config ids fresh play
    obtain ⟨outcomes, counterparts⟩ := both
    refine ⟨eq_of_alike outcomes, ?_⟩
    generalize cached.2 = last at counterparts ⊢
    generalize direct.2 = last' at counterparts ⊢
    cases counterparts
    exact ⟨rfl, rfl, rfl⟩

/-- Two components are registered and a page is made of one of them, with a cache that has room for
one schema and is emptied before the fourth call. -/
theorem schema_cache_invisible_two_schemas :
    let card := Json.object [("title", .string "string")]
    let note := Json.object [("text", .string "string")]
    let interludes := fun n =>
      if n = 3 then { operations := [.invalidateAll] } else ({} : Interlude)
    let turns : List Audit.Turn := [
      ⟨default, none, .request ⟨"create_component", [("propsSchema", card),
        ("type", .string "Card")], none⟩⟩,
      ⟨default, none, .request ⟨"create_component", [("propsSchema", note),
        ("type", .string "Note")], none⟩⟩,
      ⟨default, none, .request ⟨"create_page", [("layout", .array [.object
        [("props", .object [("text", .string "Hi")]), ("type", .string "Note")]]),
        ("path", .string "/a")], none⟩⟩]
    let desk := Desk.empty { schemaCacheCapacity := 1 }
    let cached := desk.sessionAmid interludes answer {} Nat.repr turns
    let direct := desk.sessionAmid interludes Desk.answerDirectly {} Nat.repr turns
    Cache.NoCollision {card, note} ∧ definitionsInPlay desk.site interludes turns ⊆ {card, note} ∧
      cached.1 = direct.1 ∧ cached.2.2.site = direct.2.2.site ∧
        cached.2.2.log = direct.2.2.log ∧ cached.2.2.issued = direct.2.2.issued := by
  intro card note interludes turns desk
  have apart : Blake3.hexHash card.compactText ≠ Blake3.hexHash note.compactText := by
    decide +kernel
  have hn : Cache.NoCollision {card, note} := by
    unfold Cache.NoCollision
    rw [Set.image_pair]
    intro a ha b hb h
    rcases ha with rfl | rfl <;> rcases hb with rfl | rfl
    · rfl
    · exact absurd h apart
    · exact absurd h.symm apart
    · rfl
  have play : definitionsInPlay desk.site interludes turns ⊆ {card, note} := by
    rintro definition (⟨type, component, hf, -⟩ | ⟨n, site, hs, -⟩ | ⟨n, ho⟩ | ⟨turn, ht, hb⟩)
    · cases hf
    · simp only [interludes] at hs
      split at hs <;> cases hs
    · simp only [interludes] at ho
      split at ho <;> simp at ho
    · obtain ⟨descriptor, hd, action, brought⟩ := hb
      simp only [turns, List.mem_cons, List.not_mem_nil, or_false] at ht
      rcases ht with rfl | rfl | rfl
      · cases hd
        exact Or.inl (Option.some.inj brought).symm
      · cases hd
        exact Or.inr (Option.some.inj brought).symm
      · cases hd
        cases action
  obtain ⟨-, -, same⟩ := schema_cache_invisible {card, note} hn
  exact ⟨hn, play, same {} Nat.repr interludes turns desk rfl play⟩

end Desk

end SiteDesk
