import SiteDesk.Proofs.StoredLayouts

/-!
What validation comes to. A layout fails as the first of its blocks that fails, whatever stands
behind that block. Under a faithful cache the outcome depends on nothing but the components.
-/
namespace SiteDesk.Desk

open SiteDesk.Command Schema

variable {config : Config} {stamp : Stamp} {desk : Desk} {definitions : Set Json}

/-- A layout fails exactly if one of its blocks does after all blocks before it were accepted. -/
theorem carryOut_validateLayout_error_iff {index : Nat} {raws : List Json} {failure : Failure} :
    (desk.carryOut stamp (validateLayout config index raws)).1 = .error failure ↔
      ∃ earlier raw later blocks between, raws = earlier ++ raw :: later ∧
        desk.carryOut stamp (validateLayout config index earlier) = (.ok blocks, between) ∧
        (between.carryOut stamp (validateBlock config (index + earlier.length) raw)).1 =
          .error failure := by
  constructor
  · intro h
    induction raws generalizing index desk with
    | nil => cases h
    | cons raw rest ih =>
      rw [carryOut_validateLayout_cons] at h
      rcases hb : desk.carryOut stamp (validateBlock config index raw) with
        ⟨refusal | block, between⟩
      · rw [hb] at h
        obtain rfl : refusal = failure := Except.error.inj h
        exact ⟨[], raw, rest, [], desk, rfl, rfl, by rw [List.length_nil, Nat.add_zero, hb]⟩
      · have hr : (between.carryOut stamp (validateLayout config (index + 1) rest)).1 =
            .error failure := by
          rw [hb] at h
          dsimp only at h
          rcases hl : between.carryOut stamp (validateLayout config (index + 1) rest) with
            ⟨refusal | blocks, after⟩
          · rw [hl] at h
            exact h
          · rw [hl] at h
            cases h
        obtain ⟨earlier, other, later, blocks, after, rfl, valid, fails⟩ := ih hr
        have hl : index + (raw :: earlier).length = index + 1 + earlier.length := by
          rw [List.length_cons]
          omega
        refine ⟨raw :: earlier, other, later, block :: blocks, after, rfl, ?_, by rwa [hl]⟩
        rw [carryOut_validateLayout_cons, hb]
        dsimp only
        rw [valid]
  · rintro ⟨earlier, raw, later, blocks, between, rfl, valid, fails⟩
    rw [carryOut_validateLayout_append, valid]
    dsimp only
    rw [carryOut_validateLayout_cons]
    rcases hb : between.carryOut stamp (validateBlock config (index + earlier.length) raw) with
      ⟨outcome, after⟩
    rw [hb] at fails
    dsimp only at fails
    rw [fails]

def layoutOutcome (config : Config) (components : Registry)
    (compile : Json → Except CompileError Compiled) : Nat → List Json → Except Failure (List Block)
  | _, [] => .ok []
  | index, raw :: rest =>
    match blockOutcome config components compile index raw with
    | .error failure => .error failure
    | .ok block => (layoutOutcome config components compile (index + 1) rest).map (block :: ·)

/-- Nothing but the components is seen of a desk whose cache is faithful. -/
theorem carryOut_validateLayout_fst (hn : Cache.NoCollision definitions)
    (schemas : ∀ raw definition, blockSchema? desk.site.components raw = some definition →
      definition ∈ definitions)
    (faithful : Cache.Faithful definitions desk.schemas) (index : Nat) (raws : List Json) :
    (desk.carryOut stamp (validateLayout config index raws)).1 =
      layoutOutcome config desk.site.components Schema.compile index raws := by
  induction raws generalizing index desk with
  | nil => rfl
  | cons raw rest ih =>
    rw [carryOut_validateLayout_cons, carryOut_validateBlock,
      blockOutcome_congr fun definition hd => faithful.compile_fst (schemas raw definition hd)]
    unfold layoutOutcome
    cases hb : blockOutcome config desk.site.components Schema.compile index raw with
    | error failure => rfl
    | ok block =>
      dsimp only
      set between := desk.consulted (blockSchema? desk.site.components raw).toList
      have known : ∀ raw definition, blockSchema? between.site.components raw = some definition →
          definition ∈ definitions := schemas
      have later : (between.carryOut stamp (validateLayout config (index + 1) rest)).1 =
          layoutOutcome config desk.site.components Schema.compile (index + 1) rest :=
        ih known (faithful.after hn fun definition hd => schemas raw definition (by simpa using hd))
          (index + 1)
      rw [← later]
      rcases between.carryOut stamp (validateLayout config (index + 1) rest) with ⟨outcome, after⟩
      cases outcome <;> rfl

def schemaOutcome (config : Config) (compile : Json → Except CompileError Compiled)
    (type : String) (payload : Json.Members) : Except Failure (Option Json) :=
  match Keyed.get? "propsSchema" payload with
  | none | some .null => .ok none
  | some (.object members) =>
    match compile (.object members) with
    | .error _ => .ok (some (.object members))
    | .ok schema =>
      if refusesTags config schema then
        .error (.invalidPayload (.unknownTags type schema.unknownTags))
      else .ok (some (.object members))
  | some _ => .error (.invalidPayload .schemaNotObject)

theorem carryOut_newSchema_fst (type : String) (payload : Json.Members) :
    (desk.carryOut stamp (newSchema config type payload)).1 =
      schemaOutcome config (fun definition => (desk.schemas.compile definition).1) type
        payload := by
  unfold newSchema schemaOutcome
  cases Keyed.get? "propsSchema" payload with
  | none => rfl
  | some value =>
    cases value with
    | object members =>
      cases hd : (desk.schemas.compile (.object members)).1 with
      | error e => simp [vetSchema, hd]
      | ok schema => cases hr : refusesTags config schema <;> simp [vetSchema, hd, hr]
    | _ => rfl

end SiteDesk.Desk
