import SiteDesk.Proofs.Effects

/-!
Commands that fail. Whatever the command and wherever its plan stops, a failure leaves the site as
it was: no store is written before the last step of a plan, and a store that refuses its call does
not change. All that remains is an entry in the log and what the cache has learnt.
-/
namespace SiteDesk.Desk

open SiteDesk.Command

variable {config : Config} {stamp : Stamp} {actor : Option String} {desk : Desk}

theorem Effect.of_error {descriptor : Descriptor} {failure : Failure} {after : Desk}
    (h : Effect config stamp actor descriptor desk (.error failure) after) :
    ∃ definitions, after = desk.consulted definitions := by
  cases h with
  | failed failure definitions consults => exact ⟨definitions, rfl⟩

/-- A command that fails changes the log and the schema cache alone. -/
theorem serve_snd_of_error {submission : Submission} {failure : Failure}
    (h : (desk.serve config stamp actor submission).1 = .error failure) :
    ∃ schemas, (desk.serve config stamp actor submission).2 =
      { desk with
        schemas, log := desk.log ++ [entryOn stamp actor submission (.error failure)] } := by
  rcases serve_effect config stamp actor submission desk with
    ⟨refusal, -, hs⟩ | ⟨descriptor, outcome, after, -, he, hs⟩
  · rw [hs] at h ⊢
    injection h with h
    subst h
    exact ⟨desk.schemas, rfl⟩
  · rw [hs] at h ⊢
    dsimp only at h
    subst h
    obtain ⟨definitions, rfl⟩ := he.of_error
    exact ⟨desk.schemas.after definitions, rfl⟩

section Creation

variable {payload : Json.Members} {path : String}

theorem carryOut_validateLayout_of_block {earlier later : List Json} {raw : Json}
    {blocks : List Block} {between : Desk} {failure : Failure}
    (he : desk.carryOut stamp (validateLayout config 0 earlier) = (.ok blocks, between))
    (hb : (between.carryOut stamp (validateBlock config earlier.length raw)).1 =
      .error failure) :
    (desk.carryOut stamp (validateLayout config 0 (earlier ++ raw :: later))).1 =
      .error failure := by
  rw [carryOut_validateLayout_append, he]
  dsimp only
  rw [Nat.zero_add, carryOut_validateLayout_cons]
  rcases hm : between.carryOut stamp (validateBlock config earlier.length raw) with
    ⟨outcome, after⟩
  rw [hm] at hb
  dsimp only at hb
  rw [hb]

theorem carryOut_createPage_of_layout {raws : List Json} {failure : Failure}
    (hp : text? "path" payload = some path) (hl : layout? payload = some raws)
    (hv : (desk.carryOut stamp (validateLayout config 0 raws)).1 = .error failure) :
    (desk.carryOut stamp (createPage config actor payload)).1 = .error failure := by
  rw [carryOut_createPage, hp, hl]
  dsimp only
  rcases hm : desk.carryOut stamp (validateLayout config 0 raws) with ⟨outcome, after⟩
  rw [hm] at hv
  dsimp only at hv
  rw [hv]

/-- A new page whose path is taken fails even though all of its blocks are accepted. -/
theorem carryOut_createPage_of_taken {raws : List Json} {layout : List Block} {between : Desk}
    (hp : text? "path" payload = some path) (hl : layout? payload = some raws)
    (hv : desk.carryOut stamp (validateLayout config 0 raws) = (.ok layout, between))
    (ht : desk.site.pages.paths.contains path) :
    (desk.carryOut stamp (createPage config actor payload)).1 =
      .error (.ofStore (PageStore.taken path)) := by
  obtain ⟨definitions, -, hs⟩ := carryOut_validateLayout_snd config stamp 0 raws desk
  rw [hv] at hs
  dsimp only at hs
  subst hs
  have hc : (desk.consulted definitions).site.pages.create
      (stamp.id (desk.consulted definitions).issued) stamp.now actor
      (draft path payload layout) = .error (PageStore.taken path) := by
    simp [PageStore.create, draft, ht]
  rw [carryOut_createPage, hp, hl]
  dsimp only
  rw [hv]
  dsimp only
  rw [hc]

end Creation

theorem serve_fst {submission : Submission} {descriptor : Descriptor}
    (h : submission.descriptor? = .ok descriptor) :
    (desk.serve config stamp actor submission).1 =
      (desk.carryOut stamp (handle config actor descriptor)).1 := by
  rw [serve_eq]
  unfold attend
  rw [h]

/-- Whatever the command, a failure leaves the components, the pages, their paths and the contacts
as they were; and a new page fails with the first of its blocks that does, or, after all of them
are accepted, on a path that is taken. -/
theorem failed_command_keeps_site (config : Config) (stamp : Stamp) (actor : Option String)
    (submission : Submission) (desk : Desk) :
    (∀ failure, (desk.serve config stamp actor submission).1 = .error failure →
      ∃ schemas entry, (desk.serve config stamp actor submission).2 =
        { desk with schemas, log := desk.log ++ [entry] }) ∧
    ∀ descriptor path, submission.descriptor? = .ok descriptor →
      descriptor.action = .createPage → text? "path" descriptor.payload = some path →
      (∀ earlier raw later blocks between failure,
        layout? descriptor.payload = some (earlier ++ raw :: later) →
        desk.carryOut stamp (validateLayout config 0 earlier) = (.ok blocks, between) →
        (between.carryOut stamp (validateBlock config earlier.length raw)).1 = .error failure →
        (desk.serve config stamp actor submission).1 = .error failure ∧
          (desk.serve config stamp actor submission).2.site = desk.site) ∧
      ∀ raws layout between,
        layout? descriptor.payload = some raws →
        desk.carryOut stamp (validateLayout config 0 raws) = (.ok layout, between) →
        desk.site.pages.paths.contains path →
        (desk.serve config stamp actor submission).1 = .error (.ofStore (PageStore.taken path)) ∧
          (desk.serve config stamp actor submission).2.site = desk.site := by
  have keeps : ∀ failure, (desk.serve config stamp actor submission).1 = .error failure →
      (desk.serve config stamp actor submission).2.site = desk.site := by
    intro failure hf
    obtain ⟨schemas, hs⟩ := serve_snd_of_error hf
    rw [hs]
  refine ⟨?_, ?_⟩
  · intro failure hf
    obtain ⟨schemas, hs⟩ := serve_snd_of_error hf
    exact ⟨schemas, _, hs⟩
  · intro descriptor path hd ha hp
    have hh : handle config actor descriptor = createPage config actor descriptor.payload := by
      simp only [handle, ha]
    refine ⟨?_, ?_⟩
    · intro earlier raw later blocks between failure hl he hb
      have hf : (desk.serve config stamp actor submission).1 = .error failure := by
        rw [serve_fst hd, hh]
        exact carryOut_createPage_of_layout hp hl (carryOut_validateLayout_of_block he hb)
      exact ⟨hf, keeps failure hf⟩
    · intro raws layout between hl hv ht
      have hf : (desk.serve config stamp actor submission).1 =
          .error (.ofStore (PageStore.taken path)) := by
        rw [serve_fst hd, hh]
        exact carryOut_createPage_of_taken hp hl hv ht
      exact ⟨hf, keeps _ hf⟩

def pageOf (path : String) (types : List String) : Submission :=
  .request ⟨"create_page",
    [("layout", .array (types.map fun type => .object [("type", .string type)])),
      ("path", .string path)], none⟩

def heroDesk (stamp : Stamp) : Desk :=
  let desk := ((empty {}).answer stamp (.createComponent ⟨"Hero", "", none⟩)).2
  (desk.serve {} stamp none (pageOf "/a" ["Hero"])).2

theorem failed_command_keeps_site_hero :
    let stamp : Stamp := ⟨Nat.repr, default⟩
    let desk := heroDesk stamp
    ((desk.serve {} stamp none (pageOf "/b" ["Hero", "Ghost"])).1 =
        .error (.unknownComponent "Ghost" 1) ∧
      (desk.serve {} stamp none (pageOf "/b" ["Hero", "Ghost"])).2.site = desk.site) ∧
    ((desk.serve {} stamp none (pageOf "/a" ["Hero"])).1 =
        .error (.ofStore (PageStore.taken "/a")) ∧
      (desk.serve {} stamp none (pageOf "/a" ["Hero"])).2.site = desk.site) ∧
    ∃ schemas entry, (desk.serve {} stamp none (pageOf "/a" ["Hero"])).2 =
      { desk with schemas, log := desk.log ++ [entry] } := by
  refine ⟨?_, ?_, ?_⟩
  · exact ((failed_command_keeps_site {} _ none (pageOf "/b" ["Hero", "Ghost"]) _).2 _
      "/b" rfl rfl rfl).1 [.object [("type", .string "Hero")]]
      (.object [("type", .string "Ghost")]) [] [⟨"Hero", .empty⟩] _ _ rfl (by rfl) (by rfl)
  · exact ((failed_command_keeps_site {} _ none (pageOf "/a" ["Hero"]) _).2 _
      "/a" rfl rfl rfl).2 [.object [("type", .string "Hero")]] [⟨"Hero", .empty⟩] _ rfl (by rfl)
      (by rfl)
  · exact (failed_command_keeps_site {} _ none (pageOf "/a" ["Hero"]) _).1 _ (by rfl)

end SiteDesk.Desk
