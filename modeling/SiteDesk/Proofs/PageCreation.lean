import SiteDesk.Proofs.CacheTransparency
import SiteDesk.Proofs.FailedCommands
import SiteDesk.Proofs.ValidationOutcomes

/-!
What comes of a new page. The path is looked for first, then the layout; then each raw block comes
to what it comes to alone, and the first that fails decides. Only when all are accepted does it
matter whether the path is taken. Nothing else has a say, the schema cache included.
-/
namespace SiteDesk.Desk

open SiteDesk.Command Schema

variable {config : Config} {stamp : Stamp} {actor : Option String} {desk : Desk}
  {components : Registry} {compile : Json → Except CompileError Compiled}
  {outcome : Nat → Json → Except Failure Block} {raw : Json} {raws : List Json}
  {layout : List Block} {failure : Failure}

/-- The first of some raw blocks to fail, each at its index, fails in this way. -/
def FailsFirst (outcome : Nat → Json → Except Failure Block) (raws : List Json)
    (failure : Failure) : Prop :=
  ∃ index raw, raws[index]? = some raw ∧ outcome index raw = .error failure ∧
    ∀ before earlier, before < index → raws[before]? = some earlier →
      ∃ block, outcome before earlier = .ok block

/-- Each raw block of a layout is accepted at its index, as the block there. -/
structure Accepts (outcome : Nat → Json → Except Failure Block) (raws : List Json)
    (layout : List Block) : Prop where
  length : layout.length = raws.length
  blocks : ∀ index raw, raws[index]? = some raw →
    ∃ block, outcome index raw = .ok block ∧ layout[index]? = some block

theorem failsFirst_cons : FailsFirst outcome (raw :: raws) failure ↔
    outcome 0 raw = .error failure ∨ (∃ block, outcome 0 raw = .ok block) ∧
      FailsFirst (fun index => outcome (index + 1)) raws failure := by
  constructor
  · rintro ⟨index, found, hr, fails, before⟩
    cases index with
    | zero =>
      obtain rfl : raw = found := by simpa using hr
      exact .inl fails
    | succ index =>
      refine .inr ⟨before 0 raw (Nat.succ_pos _) rfl, index, found, hr, fails, ?_⟩
      exact fun place earlier hlt he => before (place + 1) earlier (Nat.succ_lt_succ hlt) he
  · rintro (fails | ⟨first, index, found, hr, fails, before⟩)
    · exact ⟨0, raw, rfl, fails, fun _ _ hlt => absurd hlt (Nat.not_lt_zero _)⟩
    · refine ⟨index + 1, found, hr, fails, ?_⟩
      rintro (_ | place) earlier hlt he
      · obtain rfl : raw = earlier := by simpa using he
        exact first
      · exact before place earlier (Nat.lt_of_succ_lt_succ hlt) he

theorem accepts_cons {block : Block} (first : outcome 0 raw = .ok block)
    (rest : Accepts (fun index => outcome (index + 1)) raws layout) :
    Accepts outcome (raw :: raws) (block :: layout) where
  length := congrArg (· + 1) rest.length
  blocks := by
    rintro (_ | index) found hr
    · obtain rfl : raw = found := by simpa using hr
      exact ⟨block, first, rfl⟩
    · exact rest.blocks index found hr

/-- A layout comes to the failure of the first block that fails, or to the blocks that its raw
blocks are accepted as. -/
theorem layoutOutcome_cases (config : Config) (components : Registry)
    (compile : Json → Except CompileError Compiled) (index : Nat) (raws : List Json) :
    let outcome := fun place => blockOutcome config components compile (index + place)
    (∃ failure, layoutOutcome config components compile index raws = .error failure ∧
      FailsFirst outcome raws failure) ∨
    ∃ layout, layoutOutcome config components compile index raws = .ok layout ∧
      Accepts outcome raws layout := by
  induction raws generalizing index with
  | nil => exact .inr ⟨[], rfl, rfl, by simp⟩
  | cons raw rest ih =>
    intro outcome
    have next : (fun place => blockOutcome config components compile (index + 1 + place)) =
        fun place => outcome (place + 1) := by
      funext place
      rw [Nat.add_right_comm, Nat.add_assoc]
    unfold layoutOutcome
    cases first : blockOutcome config components compile index raw with
    | error failure => exact .inl ⟨failure, rfl, failsFirst_cons.2 (.inl first)⟩
    | ok block =>
      rcases ih (index + 1) with ⟨failure, hl, fails⟩ | ⟨layout, hl, accepted⟩
      · rw [next] at fails
        exact .inl ⟨failure, by rw [hl]; rfl, failsFirst_cons.2 (.inr ⟨⟨block, first⟩, fails⟩)⟩
      · rw [next] at accepted
        exact .inr ⟨block :: layout, by rw [hl]; rfl, accepts_cons first accepted⟩

theorem FailsFirst.unique {other : Failure} (h : FailsFirst outcome raws failure)
    (h' : FailsFirst outcome raws other) : failure = other := by
  obtain ⟨index, raw, hr, fails, before⟩ := h
  obtain ⟨index', raw', hr', fails', before'⟩ := h'
  rcases Nat.lt_trichotomy index index' with hlt | rfl | hlt
  · obtain ⟨block, ok⟩ := before' index raw hlt hr
    cases fails.symm.trans ok
  · obtain rfl := Option.some.inj (hr.symm.trans hr')
    exact Except.error.inj (fails.symm.trans fails')
  · obtain ⟨block, ok⟩ := before index' raw' hlt hr'
    cases fails'.symm.trans ok

theorem FailsFirst.not_accepted (h : FailsFirst outcome raws failure) :
    ¬ ∀ index raw, raws[index]? = some raw → ∃ block, outcome index raw = .ok block := by
  obtain ⟨index, raw, hr, fails, -⟩ := h
  intro accepted
  obtain ⟨block, ok⟩ := accepted index raw hr
  cases fails.symm.trans ok

theorem blockType?_of_blockOutcome {index : Nat} {block : Block}
    (h : blockOutcome config components compile index raw = .ok block) :
    blockType? raw = some block.type := by
  unfold blockOutcome at h
  cases ht : blockType? raw with
  | none => simp [ht] at h
  | some type =>
    cases hc : components.find type with
    | none => simp [ht, hc] at h
    | some component =>
      cases hs : component.schema? with
      | none =>
        simp only [ht, hc, hs, Except.ok.injEq] at h
        rw [← h]
      | some definition =>
        cases hd : compile definition with
        | error e =>
          simp only [ht, hc, hs, hd, Except.ok.injEq] at h
          rw [← h]
        | ok schema =>
          simp only [ht, hc, hs, hd] at h
          rw [(judge_ok h).1]

theorem Accepts.not_failsFirst (h : Accepts outcome raws layout) :
    ¬ FailsFirst outcome raws failure := by
  intro first
  apply first.not_accepted
  intro index raw hr
  obtain ⟨block, ok, -⟩ := h.blocks index raw hr
  exact ⟨block, ok⟩

theorem Accepts.type_eq
    (alone : ∀ index raw, outcome index raw = blockOutcome config components compile index raw)
    (h : Accepts outcome raws layout) {index : Nat} {block : Block} (hr : raws[index]? = some raw)
    (hb : layout[index]? = some block) : blockType? raw = some block.type := by
  obtain ⟨found, ok, hf⟩ := h.blocks index raw hr
  obtain rfl := Option.some.inj (hf.symm.trans hb)
  exact blockType?_of_blockOutcome ((alone index raw).symm.trans ok)

section Creations

variable {site : Site} {operations : List Cache.Operation} {descriptor : Descriptor}
  {submission : Submission}

/-- The definitions that the components of a site are registered with or a cache was used for. -/
def definitionsKnown (site : Site) (operations : List Cache.Operation) : Set Json :=
  { definition | site.Registers definition ∨ .compile definition ∈ operations }

/-- A page was stored at a path that was free, and nothing else about the site has changed. -/
structure Stored (record : Page) (site after : Site) : Prop where
  byId : ∀ id, after.pages.findById id =
    if record.id = id then some record else site.pages.findById id
  byPath : ∀ path, after.pages.paths[path]? =
    if record.path = path then some record.id else site.pages.paths[path]?
  components : after.components = site.components
  contacts : after.contacts = site.contacts

theorem carryOut_createPage_of_free (actor : Option String) {desk : Desk} {payload : Json.Members}
    {path : String} {layout : List Block} (hp : text? "path" payload = some path)
    (hl : layout? payload = some raws)
    (hv : (desk.carryOut stamp (validateLayout config 0 raws)).1 = .ok layout)
    (free : desk.site.pages.paths.contains path = false) :
    ∃ record after, desk.carryOut stamp (createPage config actor payload) =
        (.ok (.page record), after) ∧ Stored record desk.site after.site ∧
      record = Page.ofNew (stamp.id desk.issued) stamp.now actor (draft path payload layout) := by
  obtain ⟨compiled, -, after⟩ := carryOut_validateLayout_snd config stamp 0 raws desk
  obtain ⟨pages, made⟩ : ∃ pages, desk.site.pages.create (stamp.id desk.issued) stamp.now actor
      (draft path payload layout) =
      .ok (Page.ofNew (stamp.id desk.issued) stamp.now actor (draft path payload layout), pages) :=
    ⟨_, by rw [PageStore.create, if_neg (by simp [draft, free])]⟩
  obtain ⟨-, byId⟩ := PageStore.create_ok made
  obtain ⟨-, byPath⟩ := PageStore.create_ok_paths made
  refine ⟨_, { desk.consulted compiled with
    site := { desk.site with pages }, issued := desk.issued + 1 }, ?_,
    ⟨byId, byPath, rfl, rfl⟩, rfl⟩
  rw [carryOut_createPage, hp, hl]
  dsimp only
  rcases hm : desk.carryOut stamp (validateLayout config 0 raws) with ⟨outcome, between⟩
  rw [hm] at hv after
  subst hv after
  dsimp only [consulted]
  rw [made]

/-- A cache that was used for known definitions alone is faithful to them, whatever was done. -/
theorem faithful_of_operated (hn : Cache.NoCollision (definitionsKnown site operations))
    (capacity : Nat) : Cache.Faithful (definitionsKnown site operations)
      (({ capacity } : Cache).operated operations) :=
  (Cache.faithful_of_entries_eq_empty rfl).operated hn fun _ => .inr

theorem known_of_blockSchema? {definition : Json}
    (h : blockSchema? site.components raw = some definition) :
    definition ∈ definitionsKnown site operations :=
  .inl (blockSchema?_eq_some h)

/-- What a raw block comes to alone is up to the components, however the cache was used. -/
theorem carryOut_validateBlock_of_operated (config : Config) (stamp : Stamp)
    (log : List Audit.Entry) (issued capacity : Nat)
    (hn : Cache.NoCollision (definitionsKnown site operations)) (index : Nat) (raw : Json) :
    let desk : Desk := ⟨site, log, ({ capacity } : Cache).operated operations, issued⟩
    (desk.carryOut stamp (validateBlock config index raw)).1 =
      blockOutcome config site.components Schema.compile index raw := by
  intro desk
  rw [carryOut_validateBlock]
  exact blockOutcome_congr fun definition hd =>
    (faithful_of_operated hn capacity).compile_fst (known_of_blockSchema? hd)

/-- A layout fails as the first raw block that fails alone, or all its raw blocks are accepted. -/
theorem carryOut_validateLayout_of_operated (config : Config) (stamp : Stamp)
    (log : List Audit.Entry) (issued capacity : Nat)
    (hn : Cache.NoCollision (definitionsKnown site operations)) (raws : List Json) :
    let desk : Desk := ⟨site, log, ({ capacity } : Cache).operated operations, issued⟩
    let outcome := fun index raw => (desk.carryOut stamp (validateBlock config index raw)).1
    let result := (desk.carryOut stamp (validateLayout config 0 raws)).1
    (∃ failure, result = .error failure ∧ FailsFirst outcome raws failure) ∨
      ∃ layout, result = .ok layout ∧ Accepts outcome raws layout := by
  intro desk outcome result
  have together : result = layoutOutcome config site.components Schema.compile 0 raws :=
    carryOut_validateLayout_fst hn (fun _ _ => known_of_blockSchema?)
      (faithful_of_operated hn capacity) 0 raws
  have alone : outcome = blockOutcome config site.components Schema.compile := by
    funext index raw
    exact carryOut_validateBlock_of_operated config stamp log issued capacity hn index raw
  have decided := layoutOutcome_cases config site.components Schema.compile 0 raws
  simp only [Nat.zero_add] at decided
  rwa [together, alone]

theorem serve_eq_createPage (config : Config) (stamp : Stamp) (actor : Option String) (desk : Desk)
    (known : submission.descriptor? = .ok descriptor) (action : descriptor.action = .createPage) :
    let carried := desk.carryOut stamp (createPage config actor descriptor.payload)
    (desk.serve config stamp actor submission).1 = carried.1 ∧
      (desk.serve config stamp actor submission).2.site = carried.2.site := by
  rw [serve_eq]
  simp only [attend, known, handle, action, true_and]
  rfl

/-- A new page fails for want of a path, else for want of a layout, else as the first of its raw
blocks that fails when it is taken alone, and else if its path is taken; there is no other failure.
A page that is created is a draft of the blocks that were accepted. The cache may have been used in
any way before, as long as definitions do not collide in their hashes: what a raw block comes to
alone is up to the components. -/
theorem first_failing_block_decides (config : Config) (stamp : Stamp) (actor : Option String)
    (site : Site) (log : List Audit.Entry) (issued capacity : Nat)
    (operations : List Cache.Operation)
    (hn : Cache.NoCollision (definitionsKnown site operations))
    (submission : Submission) (descriptor : Descriptor)
    (known : submission.descriptor? = .ok descriptor) (action : descriptor.action = .createPage) :
    let desk : Desk := ⟨site, log, ({ capacity } : Cache).operated operations, issued⟩
    let outcome := fun index raw => (desk.carryOut stamp (validateBlock config index raw)).1
    let result := (desk.serve config stamp actor submission).1
    let after := (desk.serve config stamp actor submission).2
    (∀ index raw,
      outcome index raw = blockOutcome config site.components Schema.compile index raw) ∧
    (text? "path" descriptor.payload = none → result = .error (.invalidPayload .missingPath)) ∧
    ∀ path, text? "path" descriptor.payload = some path →
      (layout? descriptor.payload = none → result = .error (.invalidPayload .layoutNotArray)) ∧
      ∀ raws, layout? descriptor.payload = some raws →
        (∀ failure, FailsFirst outcome raws failure → result = .error failure) ∧
        ((∀ index raw, raws[index]? = some raw → ∃ block, outcome index raw = .ok block) →
          (site.pages.paths.contains path = true →
            result = .error (.conflict s!"Page path already exists: {path}")) ∧
          (site.pages.paths.contains path = false →
            ∃ record, result = .ok (.page record) ∧ Stored record site after.site ∧
              record.path = path ∧ record.status = .draft ∧ record.publishedAt = none ∧
              Accepts outcome raws record.layout ∧
              ∀ (index : Nat) raw (block : Block), raws[index]? = some raw →
                record.layout[index]? = some block → blockType? raw = some block.type)) := by
  intro desk outcome result after
  have alone : ∀ index raw,
      outcome index raw = blockOutcome config site.components Schema.compile index raw :=
    carryOut_validateBlock_of_operated config stamp log issued capacity hn
  obtain ⟨result_eq, site_eq⟩ :
      result = (desk.carryOut stamp (createPage config actor descriptor.payload)).1 ∧
        after.site = (desk.carryOut stamp (createPage config actor descriptor.payload)).2.site :=
    desk.serve_eq_createPage config stamp actor known action
  refine ⟨alone, fun hp => ?_, fun path hp => ⟨fun hl => ?_, fun raws hl => ?_⟩⟩
  · rw [result_eq, carryOut_createPage, hp]
  · rw [result_eq, carryOut_createPage, hp, hl]
  rcases carryOut_validateLayout_of_operated config stamp log issued capacity hn raws with
    ⟨failure, hv, fails⟩ | ⟨layout, hv, accepted⟩
  · have refused : result = .error failure :=
      result_eq.trans (carryOut_createPage_of_layout hp hl hv)
    exact ⟨fun other first => fails.unique first ▸ refused,
      fun accepted => absurd accepted fails.not_accepted⟩
  · refine ⟨fun failure first => absurd first accepted.not_failsFirst,
      fun _ => ⟨fun taken => ?_, fun free => ?_⟩⟩
    · exact result_eq.trans (carryOut_createPage_of_taken hp hl (Prod.ext hv rfl) taken)
    · obtain ⟨record, last, carried, stored, rfl⟩ :=
        carryOut_createPage_of_free actor hp hl hv free
      rw [carried] at result_eq site_eq
      rw [← site_eq] at stored
      exact ⟨_, result_eq, stored, rfl, rfl, rfl, accepted, fun _ _ _ => accepted.type_eq alone⟩

/-- The second of three blocks lacks its title, and the third is of an unknown type: a page of all
three fails with the second, and a page of the first alone is stored. -/
theorem first_failing_block_decides_card :
    let definition := Json.object [("title", .string "string")]
    let stamp : Stamp := ⟨Nat.repr, default⟩
    let site := ((empty {}).answer stamp (.createComponent ⟨"Card", "", some definition⟩)).2.site
    let card := Json.object [("props", .object [("title", .string "Hi")]),
      ("type", .string "Card")]
    let raws := [card, .object [("type", .string "Card")], .object [("type", .string "Ghost")]]
    let creation := fun raws => Submission.request
      ⟨"create_page", [("layout", .array raws), ("path", .string "/a")], none⟩
    let desk : Desk := ⟨site, [], ({ capacity := 8 } : Cache).operated [.compile definition], 1⟩
    Cache.NoCollision (definitionsKnown site [.compile definition]) ∧
      (desk.serve {} stamp none (creation raws)).1 =
        .error (.invalidProps ⟨⟨"Card", 1⟩, .object, [.required ["title"]]⟩) ∧
      ∃ record, (desk.serve {} stamp none (creation [card])).1 = .ok (.page record) ∧
        record.path = "/a" ∧ record.status = .draft ∧ record.layout.length = 1 := by
  intro definition stamp site card raws creation desk
  have registered : ∀ type, site.components.find type = if "Card" = type then
      some (.ofNew "0" default ⟨"Card", "", some definition⟩) else Registry.find type {} :=
    have hc : (({} : Registry).create "0" default ⟨"Card", "", some definition⟩) =
        .ok (.ofNew "0" default ⟨"Card", "", some definition⟩, site.components) := rfl
    (Registry.create_ok hc).2.2
  have hs : definitionsKnown site [.compile definition] ⊆ {definition} := by
    rintro other (⟨type, component, hf, schema⟩ | compiled)
    · rw [registered] at hf
      split at hf
      · cases hf
        exact (Option.some.inj schema).symm
      · simp [Registry.find] at hf
    · simpa using compiled
  have hn : Cache.NoCollision (definitionsKnown site [.compile definition]) :=
    ((Set.subsingleton_singleton.anti hs).image _).injOn _
  have good : blockOutcome {} site.components Schema.compile 0 card =
      .ok ⟨"Card", .object [("title", .string "Hi")]⟩ := by
    rw [blockOutcome, show blockType? card = some "Card" by rfl]
    dsimp only
    rw [registered, if_pos rfl]
    rfl
  have bad : blockOutcome {} site.components Schema.compile 1 (.object [("type", .string "Card")]) =
      .error (.invalidProps ⟨⟨"Card", 1⟩, .object, [.required ["title"]]⟩) := by
    rw [blockOutcome, show blockType? (.object [("type", .string "Card")]) = some "Card" by rfl]
    dsimp only
    rw [registered, if_pos rfl]
    rfl
  obtain ⟨alone, -, refused⟩ := first_failing_block_decides {} stamp none site [] 1 8 _ hn
    (creation raws) _ rfl rfl
  obtain ⟨-, -, stored⟩ := first_failing_block_decides {} stamp none site [] 1 8 _ hn
    (creation [card]) _ rfl rfl
  refine ⟨hn, ?_, ?_⟩
  · apply ((refused "/a" (by rfl)).2 raws rfl).1
    refine ⟨1, _, rfl, (alone 1 _).trans bad, ?_⟩
    intro before earlier hlt he
    obtain rfl : before = 0 := by omega
    obtain rfl : card = earlier := Option.some.inj he
    exact ⟨_, (alone 0 card).trans good⟩
  · obtain ⟨record, hr, -, path, status, -, layout, -⟩ :=
      (((stored "/a" (by rfl)).2 [card] rfl).2 fun index raw hr => by
        obtain ⟨rfl, rfl⟩ : index = 0 ∧ raw = card := by
          obtain ⟨hi, -⟩ := List.getElem?_eq_some_iff.1 hr
          obtain rfl : index = 0 := Nat.lt_one_iff.1 hi
          exact ⟨rfl, (Option.some.inj hr).symm⟩
        exact ⟨_, (alone 0 card).trans good⟩).2 (by rfl)
    exact ⟨record, hr, path, status, layout.length⟩

end Creations

end SiteDesk.Desk
