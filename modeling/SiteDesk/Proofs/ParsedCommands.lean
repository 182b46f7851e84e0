import SiteDesk.Proofs.AuditReplay
import SiteDesk.Proofs.Concurrency
import SiteDesk.Proofs.PayloadShapes

/-!
Commands that parse, carried out. Of what is checked a second time, only the blocks of a layout and
the tags of a schema can still be refused, whatever the stores answer. A command that succeeds has
worked on the very target that parsing found.
-/
namespace SiteDesk

open SiteDesk.Command

namespace Command

namespace Plan

variable {α β : Type} {P : α → Prop} {Q : β → Prop} {plan : Plan α}

/-- Whatever the calls are answered with, the result has a property. -/
def Ends (P : α → Prop) : Plan α → Prop
  | .done result => P result
  | .call _ next => ∀ reply, Ends P (next reply)

theorem Ends.bind {f : α → Plan β} (h : plan.Ends P) (hf : ∀ result, P result → (f result).Ends Q) :
    (plan.bind f).Ends Q := by
  induction plan with
  | done result => exact hf result h
  | call c next ih => exact fun reply => ih reply (h reply)

theorem Ends.run {σ : Type} (h : plan.Ends P) (answer : (c : Call) → σ → c.Reply × σ) (state : σ) :
    P (plan.run answer state).1 := by
  induction plan generalizing state with
  | done result => exact h
  | call c next ih => exact ih _ (h _) _

theorem ends_true (plan : Plan α) : plan.Ends fun _ => True := by
  induction plan with
  | done result => trivial
  | call c next ih => exact ih

end Plan

/-- The failures that are left for a command that parses. Its action is known, and all that can be
wrong with its payload is a block without a type or, where these are to be refused, unknown tags. -/
def Failure.Remaining (config : Config) : Failure → Prop
  | .unparsed _ => False
  | .unsupportedAction _ => False
  | .invalidPayload (.blockWithoutType _) => True
  | .invalidPayload (.unknownTags _ _) => config.rejectUnknownTags = true
  | .invalidPayload _ => False
  | _ => True

theorem Failure.remaining_ofStore (config : Config) (error : StoreError) :
    (Failure.ofStore error).Remaining config := by
  cases error <;> trivial

namespace Handler

variable {α β : Type} {config : Config} {payload : Json.Members}

def Fails (config : Config) (handler : Handler α) : Prop :=
  Plan.Ends (fun outcome => ∀ failure, outcome = .error failure → failure.Remaining config)
    handler.run

theorem fails_pure (result : α) : Fails config (pure result : Handler α) := nofun

theorem fails_throw {failure : Failure} (h : failure.Remaining config) :
    Fails config (throw failure : Handler α) := by
  intro other he
  cases he
  exact h

theorem Fails.bind {handler : Handler α} {f : α → Handler β} (h : Fails config handler)
    (hf : ∀ result, Fails config (f result)) : Fails config (handler >>= f) := by
  unfold Fails
  rw [ExceptT.run_bind]
  refine Plan.Ends.bind h ?_
  rintro (failure | result) hr
  · exact fails_throw (hr failure rfl)
  · exact hf result

theorem fails_ofStore (plan : Plan (Except StoreError α)) : Fails config (ofStore plan) := by
  refine plan.ends_true.bind ?_
  rintro (error | result) - failure he
  · cases he
    exact Failure.remaining_ofStore config error
  · cases he

theorem fails_orFail {failure : Failure} (h : failure.Remaining config) (result : Option α) :
    Fails config (orFail failure result) := by
  cases result with
  | none => exact fails_throw h
  | some value => exact fails_pure value

theorem fails_compile (definition : Json) :
    Fails config (ExceptT.lift (Plan.ask (.compileSchema definition)) :
      Handler (Except Schema.CompileError Schema.Compiled)) :=
  fun _ => nofun

theorem fails_requiredText {name text : String} {missing : PayloadError}
    (h : text? name payload = some text) : Fails config (requiredText name missing payload) := by
  unfold requiredText
  rw [h]
  exact fails_pure text

theorem rejects_of_refusesTags {schema : Schema.Compiled} (h : refusesTags config schema = true) :
    config.rejectUnknownTags = true := by
  unfold refusesTags at h
  rw [Bool.and_eq_true] at h
  exact h.1

theorem fails_judge (context : Schema.BlockContext) (schema : Schema.Compiled) (props : Json) :
    Fails config (ExceptT.mk (.done (judge config context schema props))) := by
  intro failure he
  unfold judge at he
  split at he
  · next refused =>
    cases he
    exact rejects_of_refusesTags refused
  · split at he
    · cases he
    · cases he
      trivial

theorem fails_validateBlock (index : Nat) (raw : Json) :
    Fails config (validateBlock config index raw) := by
  refine Fails.bind (fails_orFail (by trivial) _) fun type => ?_
  refine Fails.bind (fails_ofStore _) fun found => ?_
  refine Fails.bind (fails_orFail (by trivial) _) fun component => ?_
  unfold validateProps
  cases component.schema? with
  | none => exact fails_pure _
  | some definition =>
    refine (fails_compile definition).bind ?_
    rintro (error | schema)
    · exact fails_pure _
    · exact fails_judge _ schema _

theorem fails_validateLayout (index : Nat) (raws : List Json) :
    Fails config (validateLayout config index raws) := by
  induction raws generalizing index with
  | nil => exact fails_pure _
  | cons raw rest ih =>
    exact (fails_validateBlock index raw).bind fun block =>
      (ih (index + 1)).bind fun blocks => fails_pure _

theorem fails_resolvePage {target : String} (h : text? "target" payload = some target) :
    Fails config (resolvePage payload) := by
  refine (fails_requiredText h).bind fun target => ?_
  exact (fails_ofStore _).bind fun found => fails_orFail (by trivial) _

theorem fails_newSchema (type : String)
    (h : ∀ schema, Keyed.get? "propsSchema" payload = some schema →
      ∃ members, schema = .object members) : Fails config (newSchema config type payload) := by
  unfold newSchema
  cases hs : Keyed.get? "propsSchema" payload with
  | none => exact fails_pure _
  | some schema =>
    obtain ⟨members, rfl⟩ := h schema hs
    refine Fails.bind ?_ fun _ => fails_pure _
    refine (fails_compile _).bind ?_
    rintro (error | schema)
    · exact fails_pure _
    · dsimp only
      split
      · next refused => exact fails_throw (rejects_of_refusesTags refused)
      · exact fails_pure _

theorem fails_handle {target : String} (actor : Option String) {descriptor : Descriptor}
    (h : descriptor.Workable target) (trimmed : Text.Trimmed target.toList) :
    Fails config (handle config actor descriptor) := by
  unfold Descriptor.Workable at h
  unfold handle
  cases action : descriptor.action with
  | createPage =>
    rw [action] at h
    obtain ⟨path, raws, layout⟩ := h
    refine (fails_requiredText (text?_of_trimmed path trimmed)).bind fun path => ?_
    rw [layout]
    refine Fails.bind (fails_pure raws) fun raws => ?_
    exact (fails_validateLayout 0 raws).bind fun layout =>
      (fails_ofStore _).bind fun page => fails_pure _
  | publishPage =>
    rw [action] at h
    exact (fails_resolvePage (text?_of_trimmed h trimmed)).bind fun page =>
      (fails_ofStore _).bind fun record => fails_pure _
  | deletePage =>
    rw [action] at h
    exact (fails_resolvePage (text?_of_trimmed h trimmed)).bind fun page =>
      (fails_ofStore _).bind fun gone => fails_pure _
  | createComponent =>
    rw [action] at h
    obtain ⟨type, schema⟩ := h
    refine (fails_requiredText (text?_of_trimmed type trimmed)).bind fun type => ?_
    exact (fails_newSchema type schema).bind fun schema =>
      (fails_ofStore _).bind fun component => fails_pure _
  | listContacts =>
    rw [action] at h
    exact h.elim
  | markContactRead =>
    rw [action] at h
    exact h.elim

end Handler

/-- Whatever the stores answer, a command that parses meets with none but the remaining failures. -/
theorem ends_execute {text : String} {descriptor : Descriptor}
    (parsed : parse text = .ok descriptor) (config : Config) (actor : Option String) :
    (execute config actor text).Ends
      fun outcome => ∀ failure, outcome = .error failure → failure.Remaining config := by
  obtain ⟨target, -, trimmed, workable⟩ := workable_of_parse parsed
  unfold execute
  rw [parsed]
  refine Plan.Ends.bind (Handler.fails_handle actor workable trimmed) ?_
  exact fun outcome h reply => h

end Command

/-- A target names a page by its id if it has the form of one, and else by its path. -/
def Page.NamedBy (target : String) (page : Page) : Prop :=
  (IdForm target ∧ page.id = target) ∨ (¬ IdForm target ∧ page.path = target)

theorem PageStore.Mirrored.named_of_find {store : PageStore} (h : store.Mirrored) {target : String}
    {page : Page} (hf : store.find (.ofText target) = some page) :
    page.NamedBy target ∧ store.findById page.id = some page := by
  unfold PageTarget.ofText at hf
  unfold Page.NamedBy
  rw [← isId_iff]
  split at hf
  · next form =>
    have known := (h.of_page target page hf).1
    exact ⟨.inl ⟨form, known⟩, by rw [known]; exact hf⟩
  · next form =>
    obtain ⟨id, hs, path⟩ := h.findByPath_iff.1 hf
    rw [(h.of_page id page hs).1]
    exact ⟨.inr ⟨form, path⟩, hs⟩

namespace Desk

variable {config : Config} {ids : Nat → String} {stamp : Stamp} {actor : Option String}
  {before after desk : Desk} {target : String}

/-- What a command that succeeds has done to what its target names: a page or a component type is
now stored as the target says, or the page that the target names was stored and is now published
or gone. -/
inductive ActsOn (target : String) (now : Timestamp) (actor : Option String) (before after : Desk) :
    Action → Output → Prop where
  | creation (record : Page) (path : record.path = target)
      (stored : after.site.pages.findById record.id = some record) :
      ActsOn target now actor before after .createPage (.page record)
  | publication (page : Page) (named : page.NamedBy target)
      (found : before.site.pages.findById page.id = some page)
      (stored : after.site.pages.findById page.id = some (page.publish now actor)) :
      ActsOn target now actor before after .publishPage (.page (page.publish now actor))
  | deletion (page : Page) (named : page.NamedBy target)
      (found : before.site.pages.findById page.id = some page)
      (gone : after.site.pages.findById page.id = none) :
      ActsOn target now actor before after .deletePage (.deletedPage page.id page.path)
  | registration (record : Component) (type : record.type = target)
      (stored : after.site.components.find target = some record) :
      ActsOn target now actor before after .createComponent (.component record)

theorem named_of_resolved (h : before.site.pages.Mirrored) {payload : Json.Members} {page : Page}
    (hg : Keyed.get? "target" payload = some (.string target))
    (trimmed : Text.Trimmed target.toList) (found : resolved before.site.pages payload = .ok page) :
    page.NamedBy target ∧ before.site.pages.findById page.id = some page := by
  rw [resolved_of_trimmed hg trimmed] at found
  cases hf : before.site.pages.find (.ofText target) with
  | none => simp [hf] at found
  | some other =>
    simp only [hf, Except.ok.injEq] at found
    rw [← found]
    exact h.named_of_find hf

theorem Effect.actsOn {descriptor : Descriptor} {output : Output} {outcome : Outcome}
    (effect : Effect config stamp actor descriptor before outcome after) (ok : outcome = .ok output)
    (h : before.site.pages.Mirrored) (workable : descriptor.Workable target)
    (trimmed : Text.Trimmed target.toList) (entry : Audit.Entry) :
    ActsOn target stamp.now actor before (after.logged entry) descriptor.action output := by
  unfold Descriptor.Workable at workable
  cases effect with
  | failed failure definitions consults => cases ok
  | pageCreated path raws layout definitions record pages action _ _ stored named =>
    cases ok
    rw [action] at workable ⊢
    rw [text?_of_trimmed workable.1 trimmed, Option.some.injEq] at named
    obtain ⟨hr, hf⟩ := PageStore.create_ok stored
    have known : record.id = stamp.id before.issued := by rw [hr]; rfl
    refine .creation record (by rw [hr, named]; rfl) ?_
    rw [known]
    exact (hf _).trans (if_pos rfl)
  | pagePublished page record pages action found stored =>
    cases ok
    rw [action] at workable ⊢
    obtain ⟨named, hs⟩ := named_of_resolved h workable trimmed found
    obtain ⟨old, ho, hr, hf⟩ := PageStore.publish_ok stored
    rw [hs, Option.some.injEq] at ho
    subst ho hr
    exact .publication page named hs ((hf _).trans (if_pos rfl))
  | pageDeleted page pages action found stored =>
    cases ok
    rw [action] at workable ⊢
    obtain ⟨named, hs⟩ := named_of_resolved h workable trimmed found
    obtain ⟨-, -, hf⟩ := PageStore.delete_ok stored
    exact .deletion page named hs ((hf _).trans (if_pos rfl))
  | componentCreated component definitions record components action _ _ stored named =>
    cases ok
    rw [action] at workable ⊢
    rw [text?_of_trimmed workable.1 trimmed, Option.some.injEq] at named
    obtain ⟨hr, -, hf⟩ := Registry.create_ok stored
    refine .registration record (by rw [hr, named]; rfl) ?_
    exact (hf _).trans (if_pos named.symm)
  | contactsListed records action =>
    rw [action] at workable
    exact workable.elim
  | contactMarked record contacts action =>
    rw [action] at workable
    exact workable.elim

theorem execute_actsOn {text : String} {descriptor : Descriptor} {output : Output}
    (parsed : parse text = .ok descriptor) (h : desk.site.pages.Mirrored)
    (workable : descriptor.Workable target) (trimmed : Text.Trimmed target.toList)
    (ok : (desk.execute config stamp actor text).1 = .ok output) :
    ActsOn target stamp.now actor desk (desk.execute config stamp actor text).2
      descriptor.action output := by
  change (desk.serve config stamp actor (.text text)).1 = .ok output at ok
  change ActsOn target stamp.now actor desk (desk.serve config stamp actor (.text text)).2
    descriptor.action output
  rcases serve_effect config stamp actor (.text text) desk with
    ⟨failure, -, hs⟩ | ⟨known, outcome, after, hd, effect, hs⟩
  · rw [hs] at ok
    cases ok
  · rw [hs] at ok ⊢
    have same : known = descriptor := by
      have found := mapError_eq_ok.1 hd
      rw [parsed] at found
      exact (Except.ok.inj found).symm
    subst same
    exact effect.actsOn ok h workable trimmed _

theorem mirrored_session (config : Config) (hi : Function.Injective ids) (components : Registry)
    (contacts : ContactStore) (issued : Nat) (events : List Event) :
    let desk := (opening config components contacts issued).session config ids events
    desk.site.pages.Mirrored := by
  refine (@session_invariant config ids _
    (fun desk => Accounted ids desk ∧ desk.site.pages.Mirrored) events
    ⟨accounted_opening config components contacts issued, PageStore.mirrored_empty⟩ ?_).2
  rintro desk event - ⟨accounted, mirrored⟩
  refine ⟨accounted.meet hi event, ?_⟩
  cases event with
  | command now actor submission =>
    -- the next id was not given out before, so no page is stored under it
    refine mirrored_serve mirrored ?_
    by_contra stored
    obtain ⟨page, hs⟩ := Option.ne_none_iff_exists'.1 stored
    exact accounted.issued_of_stored hs desk.issued (Nat.le_refl _) rfl
  | registration now component =>
    rcases meet_registration config ids now component desk with hm | ⟨record, components, -, hm⟩
    · rw [hm]
      exact mirrored
    · rw [hm]
      exact mirrored
  | contact contact => exact mirrored
  | expiry hash => exact mirrored

/-- A command that parses is carried out in any state of a session in which no id is given out
twice. If it fails, then not for its action, nor for its payload but for a block without a type or
for unknown tags where these are refused; and if it succeeds, then on what its target names, as the
target was parsed. -/
theorem parsed_commands_carried_out (config : Config) (ids : Nat → String)
    (hi : Function.Injective ids) (components : Registry) (contacts : ContactStore) (issued : Nat)
    (events : List Event) :
    let desk := (opening config components contacts issued).session config ids events
    ∀ text descriptor, parse text = .ok descriptor →
      ∃ target, targetOf? text = some target ∧
        ∀ (config' : Config) (stamp : Stamp) (actor : Option String),
          let (outcome, after) := desk.execute config' stamp actor text
          (∀ failure, outcome = .error failure → failure.Remaining config') ∧
          ∀ output, outcome = .ok output →
            ActsOn target stamp.now actor desk after descriptor.action output := by
  intro desk text descriptor parsed
  obtain ⟨target, ht, trimmed, workable⟩ := workable_of_parse parsed
  have mirrored : desk.site.pages.Mirrored :=
    mirrored_session config hi components contacts issued events
  refine ⟨target, ht, ?_⟩
  intro config' stamp actor
  refine ⟨?_, ?_⟩
  · intro failure failed
    exact (ends_execute parsed config' actor).run (answer stamp) desk failure failed
  · intro output ok
    exact execute_actsOn parsed mirrored workable trimmed ok

theorem parsed_commands_carried_out_deletion :
    let creation : Request :=
      ⟨"create_page", [("layout", .array []), ("path", .string "/a")], none⟩
    let desk := (opening {} {} {} 0).session {} Nat.repr [.command default none (.request creation)]
    let text := "delete page /a"
    Function.Injective Nat.repr ∧
      parse text = .ok ⟨.deletePage, [("target", .string "/a")], text⟩ ∧
      targetOf? text = some "/a" ∧
      ∃ output, (desk.execute {} ⟨Nat.repr, default⟩ none text).1 = .ok output ∧
        ActsOn "/a" default none desk (desk.execute {} ⟨Nat.repr, default⟩ none text).2
          .deletePage output := by
  have hi : Function.Injective Nat.repr := fun _ _ h => Nat.repr_injective h
  have parsed : parse "delete page /a" =
      .ok ⟨.deletePage, [("target", .string "/a")], "delete page /a"⟩ := by
    rfl
  have named : targetOf? "delete page /a" = some "/a" := by
    rfl
  refine ⟨hi, parsed, named, _, by rfl, ?_⟩
  obtain ⟨target, ht, carried⟩ :=
    parsed_commands_carried_out {} Nat.repr hi {} {} 0 _ _ _ parsed
  obtain rfl : "/a" = target := Option.some.inj (named.symm.trans ht)
  exact (carried {} ⟨Nat.repr, default⟩ none).2 _ (by rfl)

end Desk

end SiteDesk
