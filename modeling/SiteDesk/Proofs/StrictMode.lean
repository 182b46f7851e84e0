import SiteDesk.Proofs.FailedCommands
import SiteDesk.Proofs.SiteAnswers
import SiteDesk.Proofs.ValidationOutcomes

/-!
Refusing unknown tags. A command comes to the same whether they are refused or let pass, up to the
first schema it meets that has some; where they are refused it stops there and leaves the stores as
they were. A new page meets the schemas of its blocks, a new component the one it brings along.
-/
namespace SiteDesk

open SiteDesk.Command

namespace Config

def strict (config : Config) : Config :=
  { config with rejectUnknownTags := true }

@[simp] theorem refusesTags_strict (config : Config) (schema : Schema.Compiled) :
    refusesTags config.strict schema = schema.hasUnknownTags := rfl

end Config

@[simp] theorem Schema.Compiled.hasUnknownTags_iff {schema : Schema.Compiled} :
    schema.hasUnknownTags = true ↔ schema.unknownTags ≠ [] := by
  simp [Schema.Compiled.hasUnknownTags]

theorem Command.Failure.ofStore_ne_invalidPayload (error : StoreError) (refusal : PayloadError) :
    Failure.ofStore error ≠ .invalidPayload refusal := by
  cases error <;> simp [Failure.ofStore]

namespace Command.Plan.Course

variable {α : Type} {Ends : Plan (Except Failure α) → Prop}

/-- On every desk the first plan does what the second does, or it is stopped by unknown tags. -/
theorem run {plan other : Plan (Except Failure α)} (h : Course Set.univ Ends plan other)
    (stamp : Stamp) (desk : Desk) :
    plan.run (Desk.answer stamp) desk = other.run (Desk.answer stamp) desk ∨
      ∃ failure : Failure, failure.ForTags ∧
        (plan.run (Desk.answer stamp) desk).1 = .error failure := by
  induction h generalizing desk with
  | ends last => exact .inl rfl
  | fails failure => exact .inl rfl
  | stopped forTags plan => exact .inr ⟨_, forTags, rfl⟩
  | findComponent bySchema goesOn ih =>
    rw [run_call, run_call]
    rcases (desk.answer stamp (.findComponent _)).1 with error | _ | component
    · exact .inl rfl
    · exact .inl rfl
    · exact ih component (fun _ _ => trivial) _
  | compileSchema known goesOn ih =>
    rw [run_call, run_call]
    exact ih _ _

end Command.Plan.Course

namespace Desk

open Schema

variable {config : Config} {stamp : Stamp} {actor : Option String} {submission : Submission}
  {desk : Desk} {descriptor : Descriptor} {type : String} {tags : List UnknownTag}

/-- A command is refused for unknown tags: it fails on the payload, its details list the tags, and
no store has changed. -/
structure RefusedForTags (config : Config) (stamp : Stamp) (actor : Option String)
    (submission : Submission) (desk : Desk) (type : String) (tags : List UnknownTag) : Prop where
  outcome : (desk.serve config stamp actor submission).1 =
    .error (.invalidPayload (.unknownTags type tags))
  details : ∃ first rest, (Failure.invalidPayload (.unknownTags type tags)).details =
    some (.object [("unknownTags", .array (first :: rest))])
  site : (desk.serve config stamp actor submission).2.site = desk.site

theorem refusedForTags_iff :
    desk.RefusedForTags config stamp actor submission type tags ↔
      (desk.serve config stamp actor submission).1 =
        .error (.invalidPayload (.unknownTags type tags)) ∧ tags ≠ [] := by
  constructor
  · rintro ⟨outcome, ⟨first, rest, details⟩, -⟩
    refine ⟨outcome, ?_⟩
    rintro rfl
    simp [Failure.details, PayloadError.details, unknownTagsToJson] at details
  · rintro ⟨outcome, listed⟩
    obtain ⟨schemas, after⟩ := serve_snd_of_error outcome
    obtain ⟨tag, others, rfl⟩ := List.exists_cons_of_ne_nil listed
    exact ⟨outcome, ⟨_, _, rfl⟩, by rw [after]⟩

theorem serve_strict (config : Config) (stamp : Stamp) (actor : Option String)
    (submission : Submission) (desk : Desk) :
    desk.serve config.strict stamp actor submission =
        desk.serve config.lenient stamp actor submission ∨
      ∃ type tags, desk.RefusedForTags config.strict stamp actor submission type tags := by
  cases hd : submission.descriptor? with
  | error failure => exact .inl ((serve_of_error hd).trans (serve_of_error hd).symm)
  | ok descriptor =>
    have course : Plan.Course Set.univ (Plan.LastStep Set.univ)
        (handle config.strict actor descriptor).run (handle config.lenient actor descriptor).run :=
      Handler.course_handle fun _ _ _ => trivial
    rcases course.run stamp desk with same | ⟨_, ⟨type, tags, listed, rfl⟩, refused⟩
    · have attended : desk.attend config.strict stamp actor submission =
          desk.attend config.lenient stamp actor submission := by
        simp only [attend, hd, carryOut, same]
      rw [serve_eq, serve_eq, attended]
      exact .inl rfl
    · exact .inr ⟨type, tags, refusedForTags_iff.2 ⟨(serve_fst hd).trans refused, listed⟩⟩

/-- A raw block meets unknown tags: its type is registered with a schema that compiles to one with
these tags. -/
def MeetsTags (desk : Desk) (raw : Json) (type : String) (tags : List UnknownTag) : Prop :=
  ∃ component definition schema, blockType? raw = some type ∧
    desk.site.components.find type = some component ∧ component.schema? = some definition ∧
    (desk.schemas.compile definition).1 = .ok schema ∧ schema.unknownTags = tags ∧ tags ≠ []

theorem judge_eq_unknownTags {context : BlockContext} {schema : Compiled} {props : Json} :
    judge config.strict context schema props = .error (.invalidPayload (.unknownTags type tags)) ↔
      context.blockType = type ∧ schema.unknownTags = tags ∧ tags ≠ [] := by
  unfold judge
  rw [Config.refusesTags_strict]
  cases tagged : schema.hasUnknownTags with
  | true =>
    have listed := Compiled.hasUnknownTags_iff.1 tagged
    simp only [if_true, Except.error.injEq, Failure.invalidPayload.injEq,
      PayloadError.unknownTags.injEq]
    exact ⟨fun ⟨ht, hs⟩ => ⟨ht, hs, hs ▸ listed⟩, fun ⟨ht, hs, _⟩ => ⟨ht, hs⟩⟩
  | false =>
    have untagged : schema.unknownTags = [] := by
      simpa [Compiled.hasUnknownTags] using tagged
    constructor
    · intro h
      cases hr : schema.run props context <;> simp [hr] at h
    · rintro ⟨-, rfl, listed⟩
      exact absurd untagged listed

theorem carryOut_validateBlock_eq_unknownTags {index : Nat} {raw : Json} :
    (desk.carryOut stamp (validateBlock config.strict index raw)).1 =
      .error (.invalidPayload (.unknownTags type tags)) ↔ desk.MeetsTags raw type tags := by
  rw [carryOut_validateBlock]
  unfold blockOutcome
  constructor
  · intro h
    cases ht : blockType? raw with
    | none => simp [ht] at h
    | some named =>
      cases hc : desk.site.components.find named with
      | none => simp [ht, hc] at h
      | some component =>
        cases hs : component.schema? with
        | none => simp [ht, hc, hs] at h
        | some definition =>
          cases hd : (desk.schemas.compile definition).1 with
          | error e => simp [ht, hc, hs, hd] at h
          | ok schema =>
            simp only [ht, hc, hs, hd] at h
            obtain ⟨rfl, rfl, listed⟩ := judge_eq_unknownTags.1 h
            exact ⟨component, definition, schema, ht, hc, hs, hd, rfl, listed⟩
  · rintro ⟨component, definition, schema, ht, hc, hs, hd, rfl, listed⟩
    simp only [ht, hc, hs, hd]
    exact judge_eq_unknownTags.2 ⟨rfl, rfl, listed⟩

section Creations

variable {payload : Json.Members} {refusal : PayloadError}

/-- Once a path and a layout are there, nothing but a block makes the payload of a page invalid. -/
theorem carryOut_createPage_invalidPayload {path : String} {raws : List Json}
    (hp : text? "path" payload = some path) (hl : layout? payload = some raws) :
    (desk.carryOut stamp (createPage config actor payload)).1 = .error (.invalidPayload refusal) ↔
      (desk.carryOut stamp (validateLayout config 0 raws)).1 =
        .error (.invalidPayload refusal) := by
  rw [carryOut_createPage, hp, hl]
  dsimp only
  rcases desk.carryOut stamp (validateLayout config 0 raws) with ⟨failure | layout, after⟩
  · simp
  · dsimp only
    cases after.site.pages.create (stamp.id after.issued) stamp.now actor
        (draft path payload layout) with
    | ok stored => simp
    | error error => simp [Failure.ofStore_ne_invalidPayload]

/-- Once a type is there, nothing but a schema makes the payload of a component invalid. -/
theorem carryOut_createComponent_invalidPayload (ht : text? "type" payload = some type) :
    (desk.carryOut stamp (createComponent config payload)).1 = .error (.invalidPayload refusal) ↔
      (desk.carryOut stamp (newSchema config type payload)).1 =
        .error (.invalidPayload refusal) := by
  rw [carryOut_createComponent, ht]
  dsimp only
  rcases desk.carryOut stamp (newSchema config type payload) with ⟨failure | schema, after⟩
  · simp
  · dsimp only
    cases after.site.components.create (stamp.id after.issued) stamp.now
        ⟨type, (text? "displayName" payload).getD type, schema⟩ with
    | ok stored => simp
    | error error => simp [Failure.ofStore_ne_invalidPayload]

theorem schemaOutcome_eq_unknownTags {compile : Json → Except CompileError Compiled}
    {named : String} :
    schemaOutcome config.strict compile type payload =
        .error (.invalidPayload (.unknownTags named tags)) ↔
      named = type ∧ ∃ members schema, Keyed.get? "propsSchema" payload = some (.object members) ∧
        compile (.object members) = .ok schema ∧ schema.unknownTags = tags ∧
        schema.unknownTags ≠ [] := by
  unfold schemaOutcome
  constructor
  · intro h
    cases hs : Keyed.get? "propsSchema" payload with
    | none => simp [hs] at h
    | some value =>
      cases value with
      | object members =>
        cases hd : compile (.object members) with
        | error e => simp [hs, hd] at h
        | ok schema =>
          cases tagged : schema.hasUnknownTags with
          | false => simp [hs, hd, Config.refusesTags_strict, tagged] at h
          | true =>
            simp only [hs, hd, Config.refusesTags_strict, tagged, if_true, Except.error.injEq,
              Failure.invalidPayload.injEq, PayloadError.unknownTags.injEq] at h
            exact ⟨h.1.symm, members, schema, rfl, hd, h.2, Compiled.hasUnknownTags_iff.1 tagged⟩
      | _ => simp [hs] at h
  · rintro ⟨rfl, members, schema, hs, hd, rfl, listed⟩
    simp only [hs, hd, Config.refusesTags_strict, Compiled.hasUnknownTags_iff.2 listed, if_true]

end Creations

/-- Unknown tags that are refused make no other difference than that the command fails for them,
its details list them and no store changes. A new page is refused for them exactly if one of its
blocks meets them after all blocks before it were accepted, a new component exactly if its schema
has them. What counts is what the cache gives for a schema, which is what the schema compiles to
unless hashes collide. -/
theorem strict_mode_refuses_tags_only (config : Config) (stamp : Stamp) (actor : Option String)
    (submission : Submission) (desk : Desk) :
    (desk.serve config.strict stamp actor submission =
        desk.serve config.lenient stamp actor submission ∨
      ∃ type tags, desk.RefusedForTags config.strict stamp actor submission type tags) ∧
    (∀ descriptor path raws, submission.descriptor? = .ok descriptor →
      descriptor.action = .createPage → text? "path" descriptor.payload = some path →
      layout? descriptor.payload = some raws → ∀ type tags,
        desk.RefusedForTags config.strict stamp actor submission type tags ↔
          ∃ earlier raw later blocks between, raws = earlier ++ raw :: later ∧
            desk.carryOut stamp (validateLayout config.strict 0 earlier) = (.ok blocks, between) ∧
            between.MeetsTags raw type tags) ∧
    (∀ descriptor type, submission.descriptor? = .ok descriptor →
      descriptor.action = .createComponent → text? "type" descriptor.payload = some type →
      ∀ named tags,
        desk.RefusedForTags config.strict stamp actor submission named tags ↔
          named = type ∧ ∃ members schema,
            Keyed.get? "propsSchema" descriptor.payload = some (.object members) ∧
            (desk.schemas.compile (.object members)).1 = .ok schema ∧
            schema.unknownTags = tags ∧ schema.unknownTags ≠ []) ∧
    ∀ definitions, Cache.NoCollision definitions → desk.Versed definitions →
      ∀ raws, ∀ definition ∈ definitions,
        ((desk.carryOut stamp (validateLayout config.strict 0 raws)).2.schemas.compile
          definition).1 = Schema.compile definition := by
  refine ⟨serve_strict config stamp actor submission desk, ?_, ?_, ?_⟩
  · intro descriptor path raws hd action hp hl type tags
    have hh : handle config.strict actor descriptor =
        createPage config.strict actor descriptor.payload := by
      simp only [handle, action]
    rw [refusedForTags_iff, serve_fst hd, hh, carryOut_createPage_invalidPayload hp hl,
      carryOut_validateLayout_error_iff]
    constructor
    · rintro ⟨⟨earlier, raw, later, blocks, between, split, valid, refused⟩, -⟩
      exact ⟨earlier, raw, later, blocks, between, split, valid,
        carryOut_validateBlock_eq_unknownTags.1 refused⟩
    · rintro ⟨earlier, raw, later, blocks, between, split, valid, meets⟩
      refine ⟨⟨earlier, raw, later, blocks, between, split, valid,
        carryOut_validateBlock_eq_unknownTags.2 meets⟩, ?_⟩
      obtain ⟨-, -, -, -, -, -, -, -, listed⟩ := meets
      exact listed
  · intro descriptor type hd action ht named tags
    have hh : handle config.strict actor descriptor =
        createComponent config.strict descriptor.payload := by
      simp only [handle, action]
    rw [refusedForTags_iff, serve_fst hd, hh, carryOut_createComponent_invalidPayload ht,
      carryOut_newSchema_fst, schemaOutcome_eq_unknownTags]
    constructor
    · exact fun h => h.1
    · rintro ⟨hn, members, schema, hs, hc, rfl, listed⟩
      exact ⟨⟨hn, members, schema, hs, hc, rfl, listed⟩, listed⟩
  · intro definitions hn versed raws definition hm
    obtain ⟨compiled, registered, after⟩ :=
      carryOut_validateLayout_snd config.strict stamp 0 raws desk
    rw [after]
    refine (versed.cache.after hn fun other ho => ?_).compile_fst hm
    obtain ⟨raw, -, hs⟩ := registered other ho
    exact versed.mem_of_blockSchema? hs

/-- A component whose schema has the unknown tag `colour`, a page of one block of it, and the same
component once more under another type. -/
theorem strict_mode_refuses_tags_only_colour :
    let definition := Json.object [("body", .string "string"), ("tone", .string "colour?")]
    let stamp : Stamp := ⟨Nat.repr, default⟩
    let desk := ((empty {}).answer stamp
      (.createComponent ⟨"Text", "", some definition⟩)).2
    let creation : Submission := .request ⟨"create_page", [("layout", .array [.object
      [("props", .object [("body", .string "hi"), ("tone", .string "red")]),
        ("type", .string "Text")]]), ("path", .string "/x")], none⟩
    let registration : Submission := .request ⟨"create_component",
      [("propsSchema", definition), ("type", .string "Note")], none⟩
    let tags : List UnknownTag := [⟨["tone"], "colour"⟩]
    desk.RefusedForTags (Config.strict {}) stamp none creation "Text" tags ∧
      desk.RefusedForTags (Config.strict {}) stamp none registration "Note" tags ∧
      (desk.serve (Config.lenient {}) stamp none creation).1.isOk ∧
      (desk.schemas.compile definition).1 = Schema.compile definition := by
  intro definition stamp desk creation registration tags
  have compiled : (desk.schemas.compile definition).1 =
      .ok ⟨.object [("body", .primitive .string false),
        ("tone", .primitive (.unknown "colour") true)] false, .direct, tags⟩ := by
    rfl
  have registered : ∀ type, desk.site.components.find type = if "Text" = type then
      some (.ofNew "0" default ⟨"Text", "", some definition⟩) else Registry.find type {} :=
    have hc : (({} : Registry).create "0" default ⟨"Text", "", some definition⟩) =
        .ok (.ofNew "0" default ⟨"Text", "", some definition⟩, desk.site.components) := rfl
    (Registry.create_ok hc).2.2
  have hn : Cache.NoCollision {definition} := by
    unfold Cache.NoCollision
    rw [Set.image_singleton]
    exact Set.injOn_singleton _ _
  have versed : desk.Versed {definition} := by
    refine ⟨?_, Cache.faithful_of_entries_eq_empty rfl⟩
    intro type component hf other hs
    rw [registered] at hf
    split at hf
    · cases hf
      exact (Option.some.inj hs).symm
    · simp [Registry.find] at hf
  obtain ⟨-, pages, -, cache⟩ := strict_mode_refuses_tags_only {} stamp none creation desk
  obtain ⟨-, -, components, -⟩ := strict_mode_refuses_tags_only {} stamp none registration desk
  refine ⟨?_, ?_, by decide +kernel, cache {definition} hn versed [] definition rfl⟩
  · exact (pages _ "/x" _ rfl rfl (by rfl) rfl "Text" tags).2 ⟨[], _, [], [], desk, rfl, rfl, _,
      definition, _, by rfl, (registered "Text").trans (if_pos rfl), rfl, compiled, rfl,
      by simp [tags]⟩
  · exact (components _ "Note" rfl rfl (by rfl) "Note" tags).2
      ⟨rfl, _, _, rfl, compiled, rfl, by simp [tags]⟩

end Desk

end SiteDesk
