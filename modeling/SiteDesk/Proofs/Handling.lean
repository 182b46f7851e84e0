import Mathlib.Tactic.Set
import SiteDesk.Desk

/-!
What the plan of each action does when a desk carries it out, in one equation for each: which
look-ups it makes, where it stops, and which store it writes in the end. Up to that last step a
plan changes nothing but the schema cache.
-/
namespace SiteDesk

open SiteDesk.Command

namespace Schema.Cache

def after (definitions : List Json) (cache : Cache) : Cache :=
  definitions.foldl (fun cache definition => (cache.compile definition).2) cache

@[simp] theorem after_cons (definition : Json) (rest : List Json) (cache : Cache) :
    cache.after (definition :: rest) = ((cache.compile definition).2).after rest := rfl

theorem after_append (earlier later : List Json) (cache : Cache) :
    cache.after (earlier ++ later) = (cache.after earlier).after later := by
  simp [after, List.foldl_append]

end Schema.Cache

def PageStore.find : PageTarget → PageStore → Option Page
  | .id id, store => store.findById id
  | .path path, store => store.findByPath path

namespace Desk

variable {α β : Type} {stamp : Stamp} {desk : Desk}

def carryOut (stamp : Stamp) (handler : Handler α) (desk : Desk) : Except Failure α × Desk :=
  (ExceptT.run handler).run (answer stamp) desk

def consulted (definitions : List Json) (desk : Desk) : Desk :=
  { desk with schemas := desk.schemas.after definitions }

@[simp] theorem consulted_nil : desk.consulted [] = desk := rfl

@[simp] theorem consulted_site (definitions : List Json) :
    (desk.consulted definitions).site = desk.site := rfl

@[simp] theorem consulted_consulted (earlier later : List Json) :
    (desk.consulted earlier).consulted later = desk.consulted (earlier ++ later) := by
  simp [consulted, Schema.Cache.after_append]

@[simp] theorem carryOut_pure (result : α) :
    desk.carryOut stamp (pure result) = (.ok result, desk) := rfl

@[simp] theorem carryOut_throw (failure : Failure) :
    desk.carryOut stamp (throw failure : Handler α) = (.error failure, desk) := rfl

@[simp] theorem carryOut_bind (handler : Handler α) (next : α → Handler β) :
    desk.carryOut stamp (handler >>= next) =
      match desk.carryOut stamp handler with
      | (.ok result, desk) => desk.carryOut stamp (next result)
      | (.error failure, desk) => (.error failure, desk) := by
  unfold carryOut
  rw [ExceptT.run_bind]
  change (Plan.bind _ _).run _ _ = _
  rw [Plan.run_bind]
  rcases (ExceptT.run handler).run (answer stamp) desk with ⟨outcome, desk⟩
  cases outcome <;> rfl

@[simp] theorem carryOut_orFail (failure : Failure) (result : Option α) :
    desk.carryOut stamp (Handler.orFail failure result) =
      (match result with
        | some result => .ok result
        | none => .error failure, desk) := by
  cases result <;> rfl

theorem carryOut_ofStore (plan : Plan (Except StoreError α)) :
    desk.carryOut stamp (Handler.ofStore plan) =
      ((plan.run (answer stamp) desk).1.mapError Failure.ofStore,
        (plan.run (answer stamp) desk).2) := by
  unfold carryOut Handler.ofStore
  rw [ExceptT.run_mk, Plan.run_bind]
  rfl

@[simp] theorem carryOut_compile (definition : Json) :
    desk.carryOut stamp (ExceptT.lift (Plan.ask (.compileSchema definition)) :
        Handler (Except Schema.CompileError Schema.Compiled)) =
      (.ok (desk.schemas.compile definition).1, desk.consulted [definition]) := rfl

@[simp] theorem carryOut_requiredText (name : String) (missing : PayloadError)
    (payload : Json.Members) :
    desk.carryOut stamp (requiredText name missing payload) =
      (match text? name payload with
        | some text => .ok text
        | none => .error (.invalidPayload missing), desk) := by
  cases h : text? name payload <;> simp [requiredText, h]

@[simp] theorem carryOut_findComponent (type : String) :
    desk.carryOut stamp (Handler.ofStore (Plan.ask (.findComponent type))) =
      (.ok (desk.site.components.find type), desk) := rfl

/-- The schema that a raw block has to meet, if its type is registered with one. -/
def blockSchema? (components : Registry) (raw : Json) : Option Json :=
  ((blockType? raw).bind components.find).bind Component.schema?

theorem blockSchema?_eq_some {components : Registry} {raw definition : Json}
    (h : blockSchema? components raw = some definition) :
    ∃ type component, components.find type = some component ∧
      component.schema? = some definition := by
  unfold blockSchema? at h
  rw [Option.bind_eq_some_iff] at h
  obtain ⟨component, hc, hs⟩ := h
  rw [Option.bind_eq_some_iff] at hc
  obtain ⟨type, -, hf⟩ := hc
  exact ⟨type, component, hf, hs⟩

/-- What a raw block comes to when its schema compiles to what `compile` says. -/
def blockOutcome (config : Config) (components : Registry)
    (compile : Json → Except Schema.CompileError Schema.Compiled) (index : Nat) (raw : Json) :
    Except Failure Block :=
  match blockType? raw with
  | none => .error (.invalidPayload (.blockWithoutType index))
  | some type =>
    match components.find type with
    | none => .error (.unknownComponent type index)
    | some component =>
      match component.schema? with
      | none => .ok ⟨type, blockProps raw⟩
      | some definition =>
        let props := Schema.Alias.normalize definition (blockProps raw)
        match compile definition with
        | .error _ => .ok ⟨type, props⟩
        | .ok schema => judge config ⟨type, index⟩ schema props

theorem carryOut_validateBlock (config : Config) (index : Nat) (raw : Json) :
    desk.carryOut stamp (validateBlock config index raw) =
      (blockOutcome config desk.site.components
          (fun definition => (desk.schemas.compile definition).1) index raw,
        desk.consulted (blockSchema? desk.site.components raw).toList) := by
  unfold validateBlock blockOutcome blockSchema?
  cases ht : blockType? raw with
  | none => simp
  | some type =>
    cases hc : desk.site.components.find type with
    | none => simp [hc]
    | some component =>
      cases hs : component.schema? with
      | none => simp [hc, hs, validateProps]
      | some definition =>
        cases hd : (desk.schemas.compile definition).1 with
        | error e => simp [validateProps, hs, hc, hd]
        | ok schema => simp [validateProps, hs, hc, hd]; rfl

theorem carryOut_validateLayout_cons (config : Config) (index : Nat) (raw : Json)
    (rest : List Json) :
    desk.carryOut stamp (validateLayout config index (raw :: rest)) =
      match desk.carryOut stamp (validateBlock config index raw) with
      | (.error failure, desk) => (.error failure, desk)
      | (.ok block, desk) =>
        match desk.carryOut stamp (validateLayout config (index + 1) rest) with
        | (.error failure, desk) => (.error failure, desk)
        | (.ok blocks, desk) => (.ok (block :: blocks), desk) := by
  simp only [validateLayout, carryOut_bind]
  rcases desk.carryOut stamp (validateBlock config index raw) with ⟨outcome, desk⟩
  cases outcome with
  | error failure => rfl
  | ok block =>
    dsimp only
    rcases desk.carryOut stamp (validateLayout config (index + 1) rest) with ⟨outcome, desk⟩
    cases outcome <;> rfl

theorem carryOut_validateLayout_append (config : Config) (index : Nat) (earlier later : List Json) :
    desk.carryOut stamp (validateLayout config index (earlier ++ later)) =
      match desk.carryOut stamp (validateLayout config index earlier) with
      | (.error failure, desk) => (.error failure, desk)
      | (.ok blocks, desk) =>
        match desk.carryOut stamp (validateLayout config (index + earlier.length) later) with
        | (.error failure, desk) => (.error failure, desk)
        | (.ok more, desk) => (.ok (blocks ++ more), desk) := by
  induction earlier generalizing index desk with
  | nil =>
    simp only [List.nil_append, validateLayout, carryOut_pure, List.length_nil, Nat.add_zero]
    rcases desk.carryOut stamp (validateLayout config index later) with ⟨outcome, desk⟩
    cases outcome <;> rfl
  | cons raw rest ih =>
    rw [List.cons_append, carryOut_validateLayout_cons, carryOut_validateLayout_cons]
    rcases desk.carryOut stamp (validateBlock config index raw) with ⟨outcome, desk⟩
    cases outcome with
    | error failure => rfl
    | ok block =>
      dsimp only
      rw [ih]
      rcases desk.carryOut stamp (validateLayout config (index + 1) rest) with ⟨outcome, desk⟩
      cases outcome with
      | error failure => rfl
      | ok blocks =>
        have hl : index + 1 + rest.length = index + (raw :: rest).length := by
          rw [List.length_cons]
          omega
        dsimp only
        rw [hl]
        rcases desk.carryOut stamp (validateLayout config (index + (raw :: rest).length) later) with
          ⟨outcome, desk⟩
        cases outcome <;> rfl

/-- Validating a layout compiles schemas of its blocks and changes nothing else. -/
theorem carryOut_validateLayout_snd (config : Config) (stamp : Stamp) (index : Nat)
    (raws : List Json) (desk : Desk) :
    ∃ definitions,
      (∀ definition ∈ definitions, ∃ raw ∈ raws,
        blockSchema? desk.site.components raw = some definition) ∧
      (desk.carryOut stamp (validateLayout config index raws)).2 = desk.consulted definitions := by
  induction raws generalizing index desk with
  | nil => exact ⟨[], by simp, rfl⟩
  | cons raw rest ih =>
    rw [carryOut_validateLayout_cons, carryOut_validateBlock]
    set first := (blockSchema? desk.site.components raw).toList with hfirst
    have hf : ∀ definition ∈ first, ∃ other ∈ raw :: rest,
        blockSchema? desk.site.components other = some definition := by
      intro definition hd
      exact ⟨raw, by simp, by simpa [hfirst] using hd⟩
    cases blockOutcome config desk.site.components
        (fun definition => (desk.schemas.compile definition).1) index raw with
    | error failure => exact ⟨first, hf, rfl⟩
    | ok block =>
      obtain ⟨later, hl, hs⟩ := ih (index + 1) (desk.consulted first)
      refine ⟨first ++ later, ?_, ?_⟩
      · intro definition hd
        rcases List.mem_append.1 hd with hd | hd
        · exact hf definition hd
        · obtain ⟨other, ho, hb⟩ := hl definition hd
          exact ⟨other, List.mem_cons_of_mem _ ho, hb⟩
      · rw [consulted_consulted] at hs
        rw [← hs]
        dsimp only
        rcases (desk.consulted first).carryOut stamp (validateLayout config (index + 1) rest)
          with ⟨outcome, last⟩
        cases outcome <;> rfl

/-- The page that the target of a payload names. -/
def resolved (pages : PageStore) (payload : Json.Members) : Except Failure Page :=
  match text? "target" payload with
  | none => .error (.invalidPayload .missingTarget)
  | some target =>
    match pages.find (.ofText target) with
    | none => .error (.notFound "Page not found")
    | some page => .ok page

theorem carryOut_resolvePage (payload : Json.Members) :
    desk.carryOut stamp (resolvePage payload) = (resolved desk.site.pages payload, desk) := by
  unfold resolvePage resolved
  cases ht : text? "target" payload with
  | none => simp [ht]
  | some target =>
    have hl : desk.carryOut stamp (Handler.ofStore (lookUp (.ofText target))) =
        (.ok (desk.site.pages.find (.ofText target)), desk) := by
      cases PageTarget.ofText target <;> rfl
    cases hp : desk.site.pages.find (.ofText target) <;> simp [ht, hl, hp]

theorem carryOut_createPage (config : Config) (actor : Option String) (payload : Json.Members) :
    desk.carryOut stamp (createPage config actor payload) =
      match text? "path" payload with
      | none => (.error (.invalidPayload .missingPath), desk)
      | some path =>
        match layout? payload with
        | none => (.error (.invalidPayload .layoutNotArray), desk)
        | some raws =>
          match desk.carryOut stamp (validateLayout config 0 raws) with
          | (.error failure, desk) => (.error failure, desk)
          | (.ok layout, desk) =>
            match desk.site.pages.create (stamp.id desk.issued) stamp.now actor
                (draft path payload layout) with
            | .error error => (.error (.ofStore error), desk)
            | .ok (record, pages) =>
              (.ok (.page record),
                { desk with site := { desk.site with pages }, issued := desk.issued + 1 }) := by
  unfold createPage
  cases hp : text? "path" payload with
  | none => simp [hp]
  | some path =>
    cases hl : layout? payload with
    | none => simp [hp]
    | some raws =>
      simp only [carryOut_bind, carryOut_requiredText, hp, carryOut_orFail]
      rcases desk.carryOut stamp (validateLayout config 0 raws) with ⟨outcome, desk⟩
      cases outcome with
      | error failure => rfl
      | ok layout =>
        simp only [carryOut_ofStore, Plan.ask, Plan.run_call, Plan.run_done, answer, created]
        cases desk.site.pages.create (stamp.id desk.issued) stamp.now actor
          (draft path payload layout) <;> rfl

theorem carryOut_publishPage (actor : Option String) (payload : Json.Members) :
    desk.carryOut stamp (publishPage actor payload) =
      match resolved desk.site.pages payload with
      | .error failure => (.error failure, desk)
      | .ok page =>
        match desk.site.pages.publish stamp.now actor page.id with
        | .error error => (.error (.ofStore error), desk)
        | .ok (record, pages) =>
          (.ok (.page record), { desk with site := { desk.site with pages } }) := by
  simp only [publishPage, carryOut_bind, carryOut_resolvePage]
  cases resolved desk.site.pages payload with
  | error failure => rfl
  | ok page =>
    simp only [carryOut_ofStore, Plan.ask, Plan.run_call, Plan.run_done, answer]
    cases desk.site.pages.publish stamp.now actor page.id <;> rfl

theorem carryOut_deletePage (payload : Json.Members) :
    desk.carryOut stamp (deletePage payload) =
      match resolved desk.site.pages payload with
      | .error failure => (.error failure, desk)
      | .ok page =>
        match desk.site.pages.delete page.id with
        | .error error => (.error (.ofStore error), desk)
        | .ok pages =>
          (.ok (.deletedPage page.id page.path),
            { desk with site := { desk.site with pages } }) := by
  simp only [deletePage, carryOut_bind, carryOut_resolvePage]
  cases resolved desk.site.pages payload with
  | error failure => rfl
  | ok page =>
    simp only [carryOut_ofStore, Plan.ask, Plan.run_call, Plan.run_done, answer]
    cases desk.site.pages.delete page.id <;> rfl

def newSchema? (payload : Json.Members) : Option Json :=
  schemaOf (Keyed.get? "propsSchema" payload)

theorem carryOut_newSchema (config : Config) (stamp : Stamp) (type : String)
    (payload : Json.Members) (desk : Desk) :
    ∃ outcome definitions,
      desk.carryOut stamp (newSchema config type payload) = (outcome, desk.consulted definitions) ∧
      (∀ definition ∈ definitions, newSchema? payload = some definition) ∧
      ∀ schema, outcome = .ok schema → schema = newSchema? payload := by
  unfold newSchema newSchema?
  cases hs : Keyed.get? "propsSchema" payload with
  | none => exact ⟨.ok none, [], rfl, by simp, by simp [schemaOf]⟩
  | some value =>
    cases value with
    | null => exact ⟨.ok none, [], rfl, by simp, by simp [schemaOf]⟩
    | object members =>
      cases hd : (desk.schemas.compile (.object members)).1 with
      | error e =>
        exact ⟨.ok (some (.object members)), [.object members], by simp [vetSchema, hd],
          by simp [schemaOf], by simp [schemaOf]⟩
      | ok schema =>
        cases hr : refusesTags config schema with
        | true =>
          exact ⟨.error (.invalidPayload (.unknownTags type schema.unknownTags)),
            [.object members], by simp [vetSchema, hd, hr], by simp [schemaOf], by simp⟩
        | false =>
          exact ⟨.ok (some (.object members)), [.object members], by simp [vetSchema, hd, hr],
            by simp [schemaOf], by simp [schemaOf]⟩
    | _ => exact ⟨.error (.invalidPayload .schemaNotObject), [], rfl, by simp, by simp⟩

theorem carryOut_createComponent (config : Config) (payload : Json.Members) :
    desk.carryOut stamp (createComponent config payload) =
      match text? "type" payload with
      | none => (.error (.invalidPayload .missingType), desk)
      | some type =>
        match desk.carryOut stamp (newSchema config type payload) with
        | (.error failure, desk) => (.error failure, desk)
        | (.ok schema, desk) =>
          match desk.site.components.create (stamp.id desk.issued) stamp.now
              ⟨type, (text? "displayName" payload).getD type, schema⟩ with
          | .error error => (.error (.ofStore error), desk)
          | .ok (record, components) =>
            (.ok (.component record),
              { desk with site := { desk.site with components }, issued := desk.issued + 1 }) := by
  unfold createComponent
  cases ht : text? "type" payload with
  | none => simp [ht]
  | some type =>
    simp only [carryOut_bind, carryOut_requiredText, ht]
    rcases desk.carryOut stamp (newSchema config type payload) with ⟨outcome, desk⟩
    cases outcome with
    | error failure => rfl
    | ok schema =>
      simp only [carryOut_ofStore, Plan.ask, Plan.run_call, Plan.run_done, answer, created]
      cases desk.site.components.create (stamp.id desk.issued) stamp.now
        ⟨type, (text? "displayName" payload).getD type, schema⟩ <;> rfl

theorem carryOut_listContacts (config : Config) (payload : Json.Members) :
    desk.carryOut stamp (listContacts config payload) =
      (.ok (.contacts (desk.site.contacts.list
        (config.contactLimit ((Keyed.get? "limit" payload).bind Json.asNat?)))), desk) := rfl

theorem carryOut_markContactRead (payload : Json.Members) :
    desk.carryOut stamp (markContactRead payload) =
      match text? "id" payload with
      | none => (.error (.invalidPayload .missingContactId), desk)
      | some id =>
        match desk.site.contacts.markRead id with
        | none => (.error (.notFound "Contact submission not found"), desk)
        | some (contact, contacts) =>
          (.ok (.contact contact), { desk with site := { desk.site with contacts } }) := by
  unfold markContactRead
  cases hi : text? "id" payload with
  | none => simp [hi]
  | some id =>
    simp only [carryOut_bind, carryOut_requiredText, hi]
    simp only [carryOut_ofStore, Plan.ask, Plan.run_call, Plan.run_done, answer]
    cases desk.site.contacts.markRead id <;> rfl

end Desk

end SiteDesk
