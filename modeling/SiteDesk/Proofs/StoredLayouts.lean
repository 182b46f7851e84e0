import SiteDesk.Proofs.Admission
import SiteDesk.Proofs.CacheFidelity
import SiteDesk.Proofs.Sessions
import SiteDesk.Proofs.StoreOperations

/-!
The layouts that are stored. A block is stored only after it was judged by the schema of its
component, and neither the schema nor the block changes afterwards. What was judged by a schema
from the cache is judged by its own schema as long as no hashes collide.
-/
namespace SiteDesk

open SiteDesk.Command

/-- A block is of a registered type and meets the schema of that type, if there is one and it
compiles: a run in any place accepts the props and hands them back. -/
def Block.Fits (config : Config) (components : Registry) (block : Block) : Prop :=
  ∃ component, components.find block.type = some component ∧
    ∀ definition schema, component.schema? = some definition →
      Schema.compile definition = .ok schema →
        (∀ context, ∃ attempt, schema.run block.props context = .ok ⟨block.props, attempt⟩) ∧
        (config.rejectUnknownTags = true → schema.unknownTags = [])

def Event.Brings (definition : Json) : Event → Prop
  | .command _ _ submission => ∃ descriptor, submission.descriptor? = .ok descriptor ∧
      descriptor.action = .createComponent ∧ Desk.newSchema? descriptor.payload = some definition
  | .registration _ component => schemaOf component.propsSchema = some definition
  | .contact _ => False
  | .expiry _ => False

def schemasInPlay (components : Registry) (events : List Event) : Set Json :=
  { definition |
    (∃ type component, components.find type = some component ∧
      component.schema? = some definition) ∨
    ∃ event ∈ events, event.Brings definition }

namespace Desk

open Schema

variable {config : Config} {ids : Nat → String} {stamp : Stamp} {actor : Option String}
  {definitions : Set Json} {desk after : Desk}

theorem judge_ok {context : BlockContext} {schema : Compiled} {props : Json} {block : Block}
    (h : judge config context schema props = .ok block) :
    block.type = context.blockType ∧
      (∀ place, ∃ attempt, schema.run block.props place = .ok ⟨block.props, attempt⟩) ∧
      (config.rejectUnknownTags = true → schema.unknownTags = []) := by
  unfold judge at h
  cases hr : refusesTags config schema with
  | true => simp [hr] at h
  | false =>
    cases hv : schema.run props context with
    | error failure => simp [hr, hv] at h
    | ok validated =>
      simp only [hr, hv, Bool.false_eq_true, if_false, Except.ok.injEq] at h
      subst h
      obtain ⟨ha, hd⟩ := Compiled.admits_of_run hv
      refine ⟨rfl, ?_, ?_⟩
      · intro place
        dsimp only
        rw [hd]
        exact Compiled.run_of_admits place ha
      · intro hc
        simpa [refusesTags, hc, Compiled.hasUnknownTags] using hr

theorem fits_of_blockOutcome {components : Registry} {index : Nat} {raw : Json} {block : Block}
    (h : blockOutcome config components Schema.compile index raw = .ok block) :
    block.Fits config components := by
  unfold blockOutcome at h
  cases ht : blockType? raw with
  | none => simp [ht] at h
  | some type =>
    cases hc : components.find type with
    | none => simp [ht, hc] at h
    | some component =>
      cases hs : component.schema? with
      | none =>
        simp only [ht, hc, hs, Except.ok.injEq] at h
        subst h
        exact ⟨component, hc, by simp [hs]⟩
      | some definition =>
        cases hd : Schema.compile definition with
        | error e =>
          simp only [ht, hc, hs, hd, Except.ok.injEq] at h
          subst h
          refine ⟨component, hc, ?_⟩
          intro other schema ho hcompile
          rw [hs, Option.some.injEq] at ho
          subst ho
          rw [hd] at hcompile
          cases hcompile
        | ok schema =>
          simp only [ht, hc, hs, hd] at h
          obtain ⟨hb, hrun, htags⟩ := judge_ok h
          refine ⟨component, by rw [hb]; exact hc, ?_⟩
          intro other found ho hcompile
          rw [hs, Option.some.injEq] at ho
          subst ho
          rw [hd, Except.ok.injEq] at hcompile
          subst hcompile
          exact ⟨hrun, htags⟩

theorem blockOutcome_congr {components : Registry} {index : Nat} {raw : Json}
    {compile other : Json → Except CompileError Compiled}
    (h : ∀ definition, blockSchema? components raw = some definition →
      compile definition = other definition) :
    blockOutcome config components compile index raw =
      blockOutcome config components other index raw := by
  unfold blockOutcome
  cases ht : blockType? raw with
  | none => rfl
  | some type =>
    cases hc : components.find type with
    | none => simp [hc]
    | some component =>
      cases hs : component.schema? with
      | none => simp [hc, hs]
      | some definition =>
        have hd : compile definition = other definition :=
          h definition (by simp [blockSchema?, ht, hc, hs])
        simp [hc, hs, hd]

theorem fits_of_validateLayout (hn : Cache.NoCollision definitions) {index : Nat}
    {raws : List Json} {layout : List Block}
    (hs : ∀ raw definition, blockSchema? desk.site.components raw = some definition →
      definition ∈ definitions)
    (hf : Cache.Faithful definitions desk.schemas)
    (h : desk.carryOut stamp (validateLayout config index raws) = (.ok layout, after)) :
    ∀ block ∈ layout, block.Fits config desk.site.components := by
  induction raws generalizing index desk layout after with
  | nil =>
    simp only [validateLayout, carryOut_pure, Prod.mk.injEq, Except.ok.injEq] at h
    simp [← h.1]
  | cons raw rest ih =>
    rw [carryOut_validateLayout_cons, carryOut_validateBlock,
      blockOutcome_congr fun definition hd => hf.compile_fst (hs raw definition hd)] at h
    cases hb : blockOutcome config desk.site.components Schema.compile index raw with
    | error failure => simp [hb] at h
    | ok block =>
      simp only [hb] at h
      set between := desk.consulted (blockSchema? desk.site.components raw).toList with hbetween
      rcases hl : between.carryOut stamp (validateLayout config (index + 1) rest) with
        ⟨outcome, last⟩
      cases outcome with
      | error failure => simp [hl] at h
      | ok blocks =>
        simp only [hl, Prod.mk.injEq, Except.ok.injEq] at h
        have hfb : Cache.Faithful definitions between.schemas :=
          hf.after hn fun definition hd => hs raw definition (by simpa using hd)
        have hsb : ∀ raw definition, blockSchema? between.site.components raw = some definition →
            definition ∈ definitions := hs
        have hrest := ih hsb hfb hl
        intro other ho
        rw [← h.1] at ho
        rcases List.mem_cons.1 ho with rfl | ho
        · exact fits_of_blockOutcome hb
        · exact hrest other ho

theorem fits_of_grown {components grown : Registry} {block : Block}
    (hg : ∀ type component, components.find type = some component →
      grown.find type = some component)
    (h : block.Fits config components) : block.Fits config grown := by
  obtain ⟨component, hc, hs⟩ := h
  exact ⟨component, hg _ _ hc, hs⟩

/-- The registered schemas are among some definitions, the cache is faithful to these, and every
block of a stored page fits. -/
structure Sound (config : Config) (definitions : Set Json) (desk : Desk) : Prop where
  schemas : ∀ type component definition, desk.site.components.find type = some component →
    component.schema? = some definition → definition ∈ definitions
  cache : Cache.Faithful definitions desk.schemas
  layouts : ∀ id page, desk.site.pages.findById id = some page →
    ∀ block ∈ page.layout, block.Fits config desk.site.components

theorem Sound.mem_of_blockSchema? (h : Sound config definitions desk) {raw definition : Json}
    (hb : blockSchema? desk.site.components raw = some definition) : definition ∈ definitions := by
  obtain ⟨type, component, hf, hs⟩ := blockSchema?_eq_some hb
  exact h.schemas type component definition hf hs

theorem Sound.mem_of_consults (h : Sound config definitions desk) {descriptor : Descriptor}
    (hb : descriptor.action = .createComponent → ∀ definition,
      newSchema? descriptor.payload = some definition → definition ∈ definitions)
    {definition : Json} (hc : desk.Consults descriptor definition) : definition ∈ definitions := by
  rcases hc with ⟨type, component, hf, hs⟩ | ⟨action, hs⟩
  · exact h.schemas type component definition hf hs
  · exact hb action definition hs

theorem Sound.consulted (hn : Cache.NoCollision definitions) (h : Sound config definitions desk)
    {compiled : List Json} (hc : ∀ definition ∈ compiled, definition ∈ definitions) :
    Sound config definitions (desk.consulted compiled) where
  schemas := h.schemas
  cache := h.cache.after hn hc
  layouts := h.layouts

theorem Sound.of_page (h : Sound config definitions desk) {pages : PageStore} {id : String}
    {stored : Option Page} (issued : Nat)
    (hp : ∀ other, pages.findById other =
      if id = other then stored else desk.site.pages.findById other)
    (hl : ∀ page, stored = some page → ∀ block ∈ page.layout,
      block.Fits config desk.site.components) :
    Sound config definitions { desk with site := { desk.site with pages }, issued } where
  schemas := h.schemas
  cache := h.cache
  layouts other page hf := by
    change pages.findById other = some page at hf
    rw [hp] at hf
    split at hf
    · exact hl page hf
    · exact h.layouts other page hf

theorem Sound.of_component (h : Sound config definitions desk) {id : String} {now : Timestamp}
    {component : NewComponent} {record : Component} {components : Registry} (issued : Nat)
    (hd : ∀ definition, schemaOf component.propsSchema = some definition → definition ∈ definitions)
    (stored : desk.site.components.create id now component = .ok (record, components)) :
    Sound config definitions { desk with site := { desk.site with components }, issued } := by
  obtain ⟨hm, -, hf⟩ := Registry.create_ok stored
  have hg : ∀ type found, desk.site.components.find type = some found →
      components.find type = some found :=
    fun type found ht => Registry.find_of_create_ok stored ht
  exact {
    schemas := by
      intro type found definition ht hs
      change components.find type = some found at ht
      rw [hf] at ht
      split at ht
      · rw [Option.some.injEq] at ht
        rw [← ht, hm] at hs
        exact hd definition hs
      · exact h.schemas type found definition ht hs
    cache := h.cache
    layouts := fun id page hp block hb => fits_of_grown hg (h.layouts id page hp block hb) }

@[simp] theorem schemaOf_newSchema? (payload : Json.Members) :
    schemaOf (newSchema? payload) = newSchema? payload := by
  unfold newSchema? schemaOf
  cases Keyed.get? "propsSchema" payload with
  | none => rfl
  | some value => cases value <;> rfl

/-- Every effect keeps a desk sound, if the schema that comes in is one of the definitions. -/
theorem Sound.of_effect (hn : Cache.NoCollision definitions) (h : Sound config definitions desk)
    {descriptor : Descriptor} {outcome : Outcome}
    (hb : descriptor.action = .createComponent → ∀ definition,
      newSchema? descriptor.payload = some definition → definition ∈ definitions)
    (he : Effect config stamp actor descriptor desk outcome after) :
    Sound config definitions after := by
  cases he with
  | failed failure compiled consults =>
    exact h.consulted hn fun definition hd => h.mem_of_consults hb (consults definition hd)
  | pageCreated path raws layout compiled record pages action consults validated stored =>
    have hc := h.consulted hn fun definition hd => h.mem_of_consults hb (consults definition hd)
    obtain ⟨hm, hf⟩ := PageStore.create_ok stored
    refine hc.of_page (desk.issued + 1) hf ?_
    intro page hp block hbl
    rw [← Option.some.inj hp, hm] at hbl
    exact fits_of_validateLayout hn (fun raw definition hs => h.mem_of_blockSchema? hs) h.cache
      validated block hbl
  | pagePublished page record pages action found stored =>
    obtain ⟨old, ho, hm, hf⟩ := PageStore.publish_ok stored
    refine h.of_page desk.issued hf ?_
    intro other hp block hbl
    rw [← Option.some.inj hp, hm] at hbl
    exact h.layouts page.id old ho block hbl
  | pageDeleted page pages action found stored =>
    obtain ⟨old, -, hf⟩ := PageStore.delete_ok stored
    exact h.of_page desk.issued hf (by simp)
  | componentCreated component compiled record components action consults schema stored =>
    have hc := h.consulted hn fun definition hd => h.mem_of_consults hb (consults definition hd)
    refine hc.of_component (desk.issued + 1) ?_ stored
    intro definition hd
    rw [schema, schemaOf_newSchema?] at hd
    exact hb action definition hd
  | contactsListed records action => exact h
  | contactMarked record contacts action => exact ⟨h.schemas, h.cache, h.layouts⟩

theorem Sound.meet (hn : Cache.NoCollision definitions) (h : Sound config definitions desk)
    (event : Event) (hb : ∀ definition, event.Brings definition → definition ∈ definitions) :
    Sound config definitions (desk.meet config ids event) := by
  cases event with
  | command now actor submission =>
    rcases serve_effect config ⟨ids, now⟩ actor submission desk with
      ⟨failure, -, hs⟩ | ⟨descriptor, outcome, after, hd, he, hs⟩
    · rw [Desk.meet, hs]
      exact ⟨h.schemas, h.cache, h.layouts⟩
    · have ha := h.of_effect hn
        (fun action definition hns => hb definition ⟨descriptor, hd, action, hns⟩) he
      rw [Desk.meet, hs]
      exact ⟨ha.schemas, ha.cache, ha.layouts⟩
  | registration now component =>
    rcases meet_registration config ids now component desk with
      hm | ⟨record, components, stored, hm⟩
    · rw [hm]
      exact h
    · rw [hm]
      exact h.of_component _ hb stored
  | contact contact => exact ⟨h.schemas, h.cache, h.layouts⟩
  | expiry hash => exact ⟨h.schemas, h.cache.expired hash, h.layouts⟩

theorem sound_opening (config : Config) (components : Registry) (contacts : ContactStore)
    (issued : Nat) (events : List Event) :
    Sound config (schemasInPlay components events)
      (opening config components contacts issued) where
  schemas type component definition hf hs := Or.inl ⟨type, component, hf, hs⟩
  cache := Cache.faithful_of_entries_eq_empty rfl
  layouts id page hp := by
    rw [show (opening config components contacts issued).site.pages.findById id = none from
      PageStore.findById_empty id] at hp
    cases hp

/-- After any session in which no two schemas in play collide in their hashes, every block of every
stored page fits. -/
theorem stored_layouts_fit (config : Config) (ids : Nat → String) (components : Registry)
    (contacts : ContactStore) (issued : Nat) (events : List Event)
    (hn : Cache.NoCollision (schemasInPlay components events)) :
    let desk := (opening config components contacts issued).session config ids events
    ∀ id page, desk.site.pages.findById id = some page →
      ∀ block ∈ page.layout, block.Fits config desk.site.components := by
  have h : Sound config (schemasInPlay components events)
      ((opening config components contacts issued).session config ids events) :=
    session_invariant (sound_opening config components contacts issued events)
      fun desk event he h => h.meet hn event fun definition hd => Or.inr ⟨event, he, hd⟩
  exact h.layouts

theorem stored_layouts_fit_card :
    let definition := Json.object [("title", .string "string")]
    let creation : Request := ⟨"create_page", [("layout", .array [.object
      [("props", .object [("title", .string "Hi")]), ("type", .string "Card")]]),
      ("path", .string "/a")], none⟩
    let events : List Event := [.registration default ⟨"Card", "", some definition⟩,
      .command default none (.request creation)]
    let desk := (opening {} {} {} 0).session {} Nat.repr events
    Schema.Cache.NoCollision (schemasInPlay {} events) ∧
      (desk.site.pages.findById "1").isSome ∧
      ∀ id page, desk.site.pages.findById id = some page →
        ∀ block ∈ page.layout, block.Fits {} desk.site.components := by
  intro definition creation events
  have hs : schemasInPlay {} events ⊆ {definition} := by
    rintro other (⟨type, component, hf, -⟩ | ⟨event, he, hb⟩)
    · simp [Registry.find] at hf
    · simp only [events, List.mem_cons, List.not_mem_nil, or_false] at he
      rcases he with rfl | rfl
      · exact (Option.some.inj hb).symm
      · obtain ⟨descriptor, hd, action, -⟩ := hb
        cases hd
        cases action
  have hn : Schema.Cache.NoCollision (schemasInPlay {} events) :=
    ((Set.subsingleton_singleton.anti hs).image _).injOn _
  exact ⟨hn, by decide +kernel, stored_layouts_fit {} Nat.repr {} {} 0 events hn⟩

end Desk

end SiteDesk
