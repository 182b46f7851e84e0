import SiteDesk.Proofs.ParsedCommands

/-!
What a failed command reports over stores in memory. A command that asks for a page or a contact
that is not stored ends in 404, and any other failure in 400. No page is found and then missed, for
the two maps of the page store never disagree.
-/
namespace SiteDesk

open SiteDesk.Command

/-- The failures that carrying a command out can end in for another reason than that something is
not there. -/
def Command.Failure.IsRefusal : Failure → Prop
  | .invalidPayload _ | .unknownComponent _ _ | .invalidProps _ | .conflict _ => True
  | _ => False

theorem Command.Failure.IsRefusal.status_eq {failure : Failure} (h : failure.IsRefusal) :
    failure.status = 400 := by
  cases failure <;> first | rfl | exact h.elim

namespace Command.Submission

variable {submission : Submission} {failure : Failure}

theorem unparsed_iff {error : SyntaxError} :
    submission.descriptor? = .error (.unparsed error) ↔
      ∃ text, submission = .text text ∧ parse text = .error error := by
  cases submission with
  | text line => simp [descriptor?, mapError_eq_error]
  | request given => simp [descriptor?, mapError_eq_error]
  | descriptor given => simp [descriptor?]

theorem unsupported_iff {error : UnsupportedAction} :
    submission.descriptor? = .error (.unsupportedAction error) ↔
      ∃ request, submission = .request request ∧ request.descriptor = .error error := by
  cases submission with
  | text line => simp [descriptor?, mapError_eq_error]
  | request given => simp [descriptor?, mapError_eq_error]
  | descriptor given => simp [descriptor?]

theorem status_of_descriptor?_error (h : submission.descriptor? = .error failure) :
    failure.status = 400 := by
  cases submission with
  | text line =>
    obtain ⟨error, -, rfl⟩ := mapError_eq_error.1 h
    rfl
  | request given =>
    obtain ⟨error, -, rfl⟩ := mapError_eq_error.1 h
    rfl
  | descriptor given => cases h

end Command.Submission

namespace PageStore

variable {store : PageStore} {target : String} {page : Page}

theorem Mirrored.find_iff (h : Mirrored store) :
    store.find (.ofText target) = some page ↔
      (∃ id, store.findById id = some page) ∧ page.NamedBy target := by
  constructor
  · intro hf
    obtain ⟨named, hs⟩ := h.named_of_find hf
    exact ⟨⟨_, hs⟩, named⟩
  · rintro ⟨⟨id, hs⟩, ⟨form, rfl⟩ | ⟨form, rfl⟩⟩
    · rw [PageTarget.ofText, if_pos (isId_iff.2 form), (h.of_page id page hs).1]
      exact hs
    · rw [PageTarget.ofText, if_neg (isId_iff.not.2 form)]
      exact h.findByPath_iff.2 ⟨id, hs, rfl⟩

theorem Mirrored.find_none_iff (h : Mirrored store) :
    store.find (.ofText target) = none ↔
      ∀ id page, store.findById id = some page → ¬ page.NamedBy target := by
  rw [Option.eq_none_iff_forall_ne_some]
  constructor
  · exact fun none id page hs named => none page (h.find_iff.2 ⟨⟨id, hs⟩, named⟩)
  · intro free page hf
    obtain ⟨⟨id, hs⟩, named⟩ := h.find_iff.1 hf
    exact free id page hs named

end PageStore

namespace Command.Handler

variable {α β : Type} {config : Config}

def Refuses (handler : Handler α) : Prop :=
  ∀ stamp desk failure, (Desk.carryOut stamp handler desk).1 = .error failure → failure.IsRefusal

theorem refuses_pure (result : α) : Refuses (pure result : Handler α) :=
  fun _ _ _ => nofun

theorem refuses_throw {failure : Failure} (h : failure.IsRefusal) :
    Refuses (throw failure : Handler α) := by
  intro stamp desk other failed
  cases failed
  exact h

theorem Refuses.bind {handler : Handler α} {f : α → Handler β} (h : Refuses handler)
    (next : ∀ result, Refuses (f result)) : Refuses (handler >>= f) := by
  intro stamp desk failure failed
  rw [Desk.carryOut_bind] at failed
  rcases hc : Desk.carryOut stamp handler desk with ⟨refused | result, after⟩
  · rw [hc] at failed
    obtain rfl : refused = failure := Except.error.inj failed
    exact h stamp desk refused (congrArg Prod.fst hc)
  · rw [hc] at failed
    exact next result stamp after failure failed

theorem refuses_orFail {failure : Failure} (h : failure.IsRefusal) (found : Option α) :
    Refuses (orFail failure found) := by
  cases found with
  | none => exact refuses_throw h
  | some result => exact refuses_pure result

theorem refuses_requiredText (name : String) (missing : PayloadError) (payload : Json.Members) :
    Refuses (requiredText name missing payload) :=
  refuses_orFail (by trivial) _

theorem refuses_compile (definition : Json) :
    Refuses (ExceptT.lift (Plan.ask (.compileSchema definition)) :
      Handler (Except Schema.CompileError Schema.Compiled)) :=
  fun _ _ _ => nofun

/-- All that a store in memory refuses is a record that collides with another one. -/
theorem refuses_ofStore {plan : Plan (Except StoreError α)}
    (h : ∀ stamp desk error, (plan.run (Desk.answer stamp) desk).1 = .error error →
      ∃ message, error = .conflict message) : Refuses (ofStore plan) := by
  intro stamp desk failure failed
  rw [Desk.carryOut_ofStore] at failed
  obtain ⟨error, he, rfl⟩ := mapError_eq_error.1 failed
  obtain ⟨message, rfl⟩ := h stamp desk error he
  trivial

theorem refuses_findComponent (type : String) :
    Refuses (ofStore (Plan.ask (.findComponent type))) :=
  refuses_ofStore fun _ _ _ => nofun

theorem refuses_storePage (page : NewPage) (actor : Option String) :
    Refuses (ofStore (Plan.ask (.createPage page actor))) := by
  apply refuses_ofStore
  intro stamp desk error failed
  simp only [Plan.ask, Plan.run_call, Plan.run_done, Desk.answer, Desk.created] at failed
  cases hc : desk.site.pages.create (stamp.id desk.issued) stamp.now actor page with
  | error refused =>
    rw [hc] at failed
    cases failed
    exact ⟨_, PageStore.taken_of_create hc⟩
  | ok stored =>
    rw [hc] at failed
    cases failed

theorem refuses_storeComponent (component : NewComponent) :
    Refuses (ofStore (Plan.ask (.createComponent component))) := by
  apply refuses_ofStore
  intro stamp desk error failed
  simp only [Plan.ask, Plan.run_call, Plan.run_done, Desk.answer, Desk.created] at failed
  cases hc : desk.site.components.create (stamp.id desk.issued) stamp.now component with
  | error refused =>
    rw [hc] at failed
    cases failed
    exact ⟨_, Registry.taken_of_create hc⟩
  | ok stored =>
    rw [hc] at failed
    cases failed

theorem refuses_judge (context : Schema.BlockContext) (schema : Schema.Compiled) (props : Json) :
    Refuses (ExceptT.mk (.done (judge config context schema props))) := by
  intro stamp desk failure failed
  change judge config context schema props = .error failure at failed
  unfold judge at failed
  repeat' split at failed
  all_goals cases failed
  all_goals trivial

theorem refuses_validateLayout (index : Nat) (raws : List Json) :
    Refuses (validateLayout config index raws) := by
  induction raws generalizing index with
  | nil => exact refuses_pure _
  | cons raw rest ih =>
    refine Refuses.bind ?_ fun block => (ih (index + 1)).bind fun blocks => refuses_pure _
    refine (refuses_orFail (by trivial) _).bind fun type => ?_
    refine (refuses_findComponent type).bind fun found => ?_
    refine (refuses_orFail (by trivial) _).bind fun component => ?_
    unfold validateProps
    cases component.schema? with
    | none => exact refuses_pure _
    | some definition =>
      refine (refuses_compile definition).bind ?_
      rintro (error | schema)
      · exact refuses_pure _
      · exact refuses_judge _ schema _

theorem refuses_newSchema (type : String) (payload : Json.Members) :
    Refuses (newSchema config type payload) := by
  unfold newSchema
  split
  · exact refuses_pure _
  · exact refuses_pure _
  · refine Refuses.bind ?_ fun _ => refuses_pure _
    refine (refuses_compile _).bind ?_
    rintro (error | schema)
    · exact refuses_pure _
    · dsimp only
      split
      · exact refuses_throw trivial
      · exact refuses_pure _
  · exact refuses_throw trivial

theorem refuses_createPage (actor : Option String) (payload : Json.Members) :
    Refuses (createPage config actor payload) := by
  refine (refuses_requiredText _ _ payload).bind fun path => ?_
  refine (refuses_orFail (by trivial) _).bind fun raws => ?_
  refine (refuses_validateLayout 0 raws).bind fun layout => ?_
  exact (refuses_storePage _ actor).bind fun page => refuses_pure _

theorem refuses_createComponent (payload : Json.Members) :
    Refuses (createComponent config payload) := by
  refine (refuses_requiredText _ _ payload).bind fun type => ?_
  refine (refuses_newSchema type payload).bind fun schema => ?_
  exact (refuses_storeComponent _).bind fun component => refuses_pure _

end Command.Handler

namespace Desk

variable {config : Config} {stamp : Stamp} {actor : Option String} {desk : Desk}
  {payload : Json.Members} {failure : Failure}

section Targets

variable {target id : String} {page : Page}

theorem resolved_of_named (h : desk.site.pages.Mirrored) (ht : text? "target" payload = some target)
    (hs : desk.site.pages.findById id = some page) (named : page.NamedBy target) :
    resolved desk.site.pages payload = .ok page := by
  simp only [resolved, ht, h.find_iff.2 ⟨⟨id, hs⟩, named⟩]

theorem resolved_of_missing (h : desk.site.pages.Mirrored)
    (ht : text? "target" payload = some target)
    (missing : ∀ id page, desk.site.pages.findById id = some page → ¬ page.NamedBy target) :
    resolved desk.site.pages payload = .error (.notFound "Page not found") := by
  simp only [resolved, ht, h.find_none_iff.2 missing]

theorem carryOut_publishPage_of_named (h : desk.site.pages.Mirrored)
    (ht : text? "target" payload = some target) (hs : desk.site.pages.findById id = some page)
    (named : page.NamedBy target) :
    (desk.carryOut stamp (publishPage actor payload)).1 =
      .ok (.page (page.publish stamp.now actor)) := by
  rw [carryOut_publishPage, resolved_of_named h ht hs named]
  obtain rfl := (h.of_page id page hs).1
  obtain ⟨pages, published⟩ := PageStore.publish_of_found hs stamp.now actor
  dsimp only
  rw [published]

theorem carryOut_deletePage_of_named (h : desk.site.pages.Mirrored)
    (ht : text? "target" payload = some target) (hs : desk.site.pages.findById id = some page)
    (named : page.NamedBy target) :
    (desk.carryOut stamp (deletePage payload)).1 = .ok (.deletedPage page.id page.path) := by
  rw [carryOut_deletePage, resolved_of_named h ht hs named]
  obtain rfl := (h.of_page id page hs).1
  obtain ⟨pages, deleted⟩ := PageStore.delete_of_found hs
  dsimp only
  rw [deleted]

end Targets

/-- A descriptor names a page or a contact that is not stored: as the target of a publication or a
deletion, or as the contact to be marked. A payload without such a name lacks nothing. -/
def Lacks (desk : Desk) (descriptor : Descriptor) : Prop :=
  ((descriptor.action = .publishPage ∨ descriptor.action = .deletePage) ∧
    ∃ target, text? "target" descriptor.payload = some target ∧
      ∀ id page, desk.site.pages.findById id = some page → ¬ page.NamedBy target) ∨
  (descriptor.action = .markContactRead ∧
    ∃ id, text? "id" descriptor.payload = some id ∧ desk.site.contacts.find id = none)

theorem Lacks.action_eq {descriptor : Descriptor} (h : desk.Lacks descriptor) :
    descriptor.action = .publishPage ∨ descriptor.action = .deletePage ∨
      descriptor.action = .markContactRead := by
  rcases h with ⟨action | action, -⟩ | ⟨action, -⟩
  · exact .inl action
  · exact .inr (.inl action)
  · exact .inr (.inr action)

structure Reports (lacking : Prop) (outcome : Outcome) : Prop where
  absent : lacking → ∃ message, outcome = .error (.notFound message)
  refused : ¬ lacking → ∀ failure, outcome = .error failure → failure.IsRefusal

theorem Reports.of_refusals {lacking : Prop} {outcome : Outcome} (never : ¬ lacking)
    (h : ∀ failure, outcome = .error failure → failure.IsRefusal) : Reports lacking outcome :=
  ⟨fun l => absurd l never, fun _ => h⟩

theorem Reports.failure_cases {lacking : Prop} {outcome : Outcome} (h : Reports lacking outcome)
    (failed : outcome = .error failure) :
    (lacking ∧ ∃ message, failure = .notFound message) ∨ (¬ lacking ∧ failure.IsRefusal) := by
  by_cases l : lacking
  · obtain ⟨message, absent⟩ := h.absent l
    exact .inl ⟨l, message, Except.error.inj (failed.symm.trans absent)⟩
  · exact .inr ⟨l, h.refused l failure failed⟩

theorem Reports.not_found_iff {lacking : Prop} {outcome : Outcome} (h : Reports lacking outcome) :
    (∃ failure, outcome = .error failure ∧ failure.status = 404) ↔ lacking := by
  constructor
  · rintro ⟨failure, failed, status⟩
    rcases h.failure_cases failed with ⟨l, -⟩ | ⟨-, refusal⟩
    · exact l
    · cases refusal.status_eq.symm.trans status
  · intro l
    obtain ⟨message, absent⟩ := h.absent l
    exact ⟨_, absent, rfl⟩

/-- A command for a page reports what is lacking, if it works on every page that is there. -/
theorem Reports.of_target {descriptor : Descriptor} {outcome : Outcome}
    (action : descriptor.action = .publishPage ∨ descriptor.action = .deletePage)
    (unresolved : ∀ failure, resolved desk.site.pages descriptor.payload = .error failure →
      outcome = .error failure)
    (works : ∀ target id page, text? "target" descriptor.payload = some target →
      desk.site.pages.findById id = some page → page.NamedBy target →
        ∃ output, outcome = .ok output)
    (h : desk.site.pages.Mirrored) : Reports (desk.Lacks descriptor) outcome where
  absent := by
    rintro (⟨-, target, ht, missing⟩ | ⟨other, -⟩)
    · exact ⟨_, unresolved _ (resolved_of_missing h ht missing)⟩
    · rcases action with action | action <;> cases action.symm.trans other
  refused := by
    intro present failure failed
    cases ht : text? "target" descriptor.payload with
    | none =>
      have blank := unresolved (.invalidPayload .missingTarget) (by simp only [resolved, ht])
      cases blank.symm.trans failed
      trivial
    | some target =>
      by_contra
      refine present (.inl ⟨action, target, ht, fun id page hs named => ?_⟩)
      obtain ⟨output, worked⟩ := works target id page ht hs named
      cases worked.symm.trans failed

theorem reports_markContactRead {descriptor : Descriptor}
    (action : descriptor.action = .markContactRead) :
    Reports (desk.Lacks descriptor)
      (desk.carryOut stamp (markContactRead descriptor.payload)).1 := by
  rw [carryOut_markContactRead]
  constructor
  · rintro (⟨other | other, -⟩ | ⟨-, id, hi, missing⟩)
    · cases action.symm.trans other
    · cases action.symm.trans other
    · simp only [hi, ContactStore.markRead, missing]
      exact ⟨_, rfl⟩
  · intro present failure failed
    cases hi : text? "id" descriptor.payload with
    | none =>
      rw [hi] at failed
      cases failed
      trivial
    | some id =>
      cases hf : desk.site.contacts.find id with
      | none => exact absurd (.inr ⟨action, id, hi, hf⟩) present
      | some contact =>
        simp only [hi, ContactStore.markRead, hf] at failed
        cases failed

/-- Over pages that are in order, every command reports what it lacks. -/
theorem reports_handle (h : desk.site.pages.Mirrored) (config : Config) (stamp : Stamp)
    (actor : Option String) (descriptor : Descriptor) :
    Reports (desk.Lacks descriptor) (desk.carryOut stamp (handle config actor descriptor)).1 := by
  cases action : descriptor.action with
  | createPage =>
    simp only [handle, action]
    refine .of_refusals (fun l => ?_) (Handler.refuses_createPage actor _ stamp desk)
    simpa [action] using l.action_eq
  | publishPage =>
    simp only [handle, action]
    refine .of_target (.inl action) ?_ ?_ h
    · intro failure failed
      rw [carryOut_publishPage, failed]
    · intro target id page ht hs named
      exact ⟨_, carryOut_publishPage_of_named h ht hs named⟩
  | deletePage =>
    simp only [handle, action]
    refine .of_target (.inr action) ?_ ?_ h
    · intro failure failed
      rw [carryOut_deletePage, failed]
    · intro target id page ht hs named
      exact ⟨_, carryOut_deletePage_of_named h ht hs named⟩
  | createComponent =>
    simp only [handle, action]
    refine .of_refusals (fun l => ?_) (Handler.refuses_createComponent _ stamp desk)
    simpa [action] using l.action_eq
  | listContacts =>
    simp only [handle, action, carryOut_listContacts]
    refine .of_refusals (fun l => ?_) (by simp)
    simpa [action] using l.action_eq
  | markContactRead => simpa only [handle, action] using reports_markContactRead action

section Serving

variable {submission : Submission} {descriptor : Descriptor}

theorem serve_fst_of_error (known : submission.descriptor? = .error failure) :
    (desk.serve config stamp actor submission).1 = .error failure := by
  rw [serve_of_error known]

theorem serve_fst_of_ok (known : submission.descriptor? = .ok descriptor) :
    (desk.serve config stamp actor submission).1 =
      (desk.carryOut stamp (handle config actor descriptor)).1 := by
  rw [serve_eq]
  simp only [attend, known]

theorem status_of_serve (h : desk.site.pages.Mirrored)
    (failed : (desk.serve config stamp actor submission).1 = .error failure) :
    failure.status = 400 ∨ failure.status = 404 := by
  cases known : submission.descriptor? with
  | error other =>
    obtain rfl := Except.error.inj ((serve_fst_of_error known).symm.trans failed)
    exact .inl (Submission.status_of_descriptor?_error known)
  | ok descriptor =>
    rw [serve_fst_of_ok known] at failed
    rcases (reports_handle h config stamp actor descriptor).failure_cases failed with
      ⟨-, message, rfl⟩ | ⟨-, refusal⟩
    · exact .inr rfl
    · exact .inl refusal.status_eq

theorem not_found_iff_lacks (h : desk.site.pages.Mirrored) :
    (∃ failure, (desk.serve config stamp actor submission).1 = .error failure ∧
        failure.status = 404) ↔
      ∃ descriptor, submission.descriptor? = .ok descriptor ∧ desk.Lacks descriptor := by
  cases known : submission.descriptor? with
  | error other =>
    rw [serve_fst_of_error known]
    have status := Submission.status_of_descriptor?_error known
    simp [status]
  | ok descriptor =>
    rw [serve_fst_of_ok known, (reports_handle h config stamp actor descriptor).not_found_iff]
    simp

/-- A failure that no handling ends in means that there was nothing to handle. -/
theorem failed_early_iff (h : desk.site.pages.Mirrored) (noRefusal : ¬ failure.IsRefusal)
    (noAbsence : ∀ message, failure ≠ .notFound message) :
    (desk.serve config stamp actor submission).1 = .error failure ↔
      submission.descriptor? = .error failure := by
  refine ⟨fun failed => ?_, serve_fst_of_error⟩
  cases known : submission.descriptor? with
  | error other =>
    obtain rfl := Except.error.inj ((serve_fst_of_error known).symm.trans failed)
    rfl
  | ok descriptor =>
    rw [serve_fst_of_ok known] at failed
    rcases (reports_handle h config stamp actor descriptor).failure_cases failed with
      ⟨-, message, absent⟩ | ⟨-, refusal⟩
    · exact absurd absent (noAbsence message)
    · exact absurd refusal noRefusal

end Serving

/-- In any state of a session in which no id is given out twice, a command that fails reports 404 if
it names a page or a contact that is not stored, and 400 if it fails for any other reason. Only a
text is unparsed, and only a request asks for an action that is not supported. A stored page that is
named is published or deleted. -/
theorem failures_told_by_cause (config : Config) (ids : Nat → String)
    (hi : Function.Injective ids) (components : Registry) (contacts : ContactStore) (issued : Nat)
    (events : List Event) :
    let desk := (opening config components contacts issued).session config ids events
    ∀ (config' : Config) (stamp : Stamp) (actor : Option String) (submission : Submission),
      let outcome := (desk.serve config' stamp actor submission).1
      (∀ failure, outcome = .error failure → failure.status = 400 ∨ failure.status = 404) ∧
      ((∃ failure, outcome = .error failure ∧ failure.status = 404) ↔
        ∃ descriptor, submission.descriptor? = .ok descriptor ∧ desk.Lacks descriptor) ∧
      (∀ error, outcome = .error (.unparsed error) ↔
        ∃ text, submission = .text text ∧ parse text = .error error) ∧
      (∀ error, outcome = .error (.unsupportedAction error) ↔
        ∃ request, submission = .request request ∧ request.descriptor = .error error) ∧
      ∀ descriptor target id page, submission.descriptor? = .ok descriptor →
        text? "target" descriptor.payload = some target →
        desk.site.pages.findById id = some page → page.NamedBy target →
          (descriptor.action = .publishPage →
            outcome = .ok (.page (page.publish stamp.now actor))) ∧
          (descriptor.action = .deletePage →
            outcome = .ok (.deletedPage page.id page.path)) := by
  intro desk config' stamp actor submission outcome
  have mirrored : desk.site.pages.Mirrored :=
    mirrored_session config hi components contacts issued events
  refine ⟨fun failure => status_of_serve mirrored, not_found_iff_lacks mirrored, ?_, ?_, ?_⟩
  · intro error
    rw [← Submission.unparsed_iff]
    exact failed_early_iff mirrored id nofun
  · intro error
    rw [← Submission.unsupported_iff]
    exact failed_early_iff mirrored id nofun
  · intro descriptor target id page known ht hs named
    have served : outcome = _ := serve_fst_of_ok known
    rw [served]
    refine ⟨fun action => ?_, fun action => ?_⟩
    · simp only [handle, action]
      exact carryOut_publishPage_of_named mirrored ht hs named
    · simp only [handle, action]
      exact carryOut_deletePage_of_named mirrored ht hs named

/-- The one page that is stored is deleted; where there is none, a deletion reports 404. -/
theorem failures_told_by_cause_deletion :
    let creation : Request :=
      ⟨"create_page", [("layout", .array []), ("path", .string "/a")], none⟩
    let desk := (opening {} {} {} 0).session {} Nat.repr [.command default none (.request creation)]
    let deletion (target : String) : Descriptor := ⟨.deletePage, [("target", .string target)], ""⟩
    let serve (target : String) :=
      (desk.serve {} ⟨Nat.repr, default⟩ none (.descriptor (deletion target))).1
    serve "/a" = .ok (.deletedPage "0" "/a") ∧
      desk.Lacks (deletion "/b") ∧
      ∃ failure, serve "/b" = .error failure ∧ failure.status = 404 := by
  intro creation desk deletion serve
  have hi : Function.Injective Nat.repr := fun _ _ h => Nat.repr_injective h
  have told := fun target => failures_told_by_cause {} Nat.repr hi {} {} 0
    [.command default none (.request creation)] {} ⟨Nat.repr, default⟩ none
    (.descriptor (deletion target))
  have mirrored : desk.site.pages.Mirrored := mirrored_session {} hi {} {} 0 _
  have free : desk.site.pages.find (.ofText "/b") = none := by decide +kernel
  have lacks : desk.Lacks (deletion "/b") :=
    .inl ⟨.inr rfl, "/b", rfl, mirrored.find_none_iff.1 free⟩
  have path : ¬ IdForm "/a" := fun form => absurd form.1 (by decide)
  exact ⟨((told "/a").2.2.2.2 (deletion "/a") "/a" "0" _ rfl rfl rfl (.inr ⟨path, rfl⟩)).2 rfl,
    lacks, (told "/b").2.1.2 ⟨_, rfl, lacks⟩⟩

end Desk

end SiteDesk
