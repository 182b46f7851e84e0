import SiteDesk.Proofs.Serving

/-!
The effects a command can have on a desk: it fails and leaves at most some schemas in the cache, or
it succeeds and writes the one store its action is about. Each action's plan has one of them, so
whatever every effect keeps is kept by every command.
-/
namespace SiteDesk

open SiteDesk.Command

namespace Desk

variable {config : Config} {stamp : Stamp} {actor : Option String} {desk : Desk}

/-- The schemas that carrying out a descriptor may compile: those of registered components, and the
one that comes with a new component. -/
def Consults (desk : Desk) (descriptor : Descriptor) (definition : Json) : Prop :=
  (∃ type component, desk.site.components.find type = some component ∧
    component.schema? = some definition) ∨
  (descriptor.action = .createComponent ∧ newSchema? descriptor.payload = some definition)

inductive Effect (config : Config) (stamp : Stamp) (actor : Option String)
    (descriptor : Descriptor) (before : Desk) : Outcome → Desk → Prop where
  | failed (failure : Failure) (definitions : List Json)
      (consults : ∀ definition ∈ definitions, before.Consults descriptor definition) :
      Effect config stamp actor descriptor before (.error failure) (before.consulted definitions)
  | pageCreated (path : String) (raws : List Json) (layout : List Block)
      (definitions : List Json) (record : Page) (pages : PageStore)
      (action : descriptor.action = .createPage)
      (consults : ∀ definition ∈ definitions, before.Consults descriptor definition)
      (validated : before.carryOut stamp (validateLayout config 0 raws) =
        (.ok layout, before.consulted definitions))
      (stored : before.site.pages.create (stamp.id before.issued) stamp.now actor
        (draft path descriptor.payload layout) = .ok (record, pages))
      (named : text? "path" descriptor.payload = some path) :
      Effect config stamp actor descriptor before (.ok (.page record))
        { before.consulted definitions with
          site := { before.site with pages }, issued := before.issued + 1 }
  | pagePublished (page record : Page) (pages : PageStore)
      (action : descriptor.action = .publishPage)
      (found : resolved before.site.pages descriptor.payload = .ok page)
      (stored : before.site.pages.publish stamp.now actor page.id = .ok (record, pages)) :
      Effect config stamp actor descriptor before (.ok (.page record))
        { before with site := { before.site with pages } }
  | pageDeleted (page : Page) (pages : PageStore)
      (action : descriptor.action = .deletePage)
      (found : resolved before.site.pages descriptor.payload = .ok page)
      (stored : before.site.pages.delete page.id = .ok pages) :
      Effect config stamp actor descriptor before (.ok (.deletedPage page.id page.path))
        { before with site := { before.site with pages } }
  | componentCreated (component : NewComponent) (definitions : List Json) (record : Component)
      (components : Registry)
      (action : descriptor.action = .createComponent)
      (consults : ∀ definition ∈ definitions, before.Consults descriptor definition)
      (schema : component.propsSchema = newSchema? descriptor.payload)
      (stored : before.site.components.create (stamp.id before.issued) stamp.now component =
        .ok (record, components))
      (named : text? "type" descriptor.payload = some component.type) :
      Effect config stamp actor descriptor before (.ok (.component record))
        { before.consulted definitions with
          site := { before.site with components }, issued := before.issued + 1 }
  | contactsListed (records : List Contact) (action : descriptor.action = .listContacts) :
      Effect config stamp actor descriptor before (.ok (.contacts records)) before
  | contactMarked (record : Contact) (contacts : ContactStore)
      (action : descriptor.action = .markContactRead) :
      Effect config stamp actor descriptor before (.ok (.contact record))
        { before with site := { before.site with contacts } }

theorem Effect.refused {descriptor : Descriptor} (failure : Failure) :
    Effect config stamp actor descriptor desk (.error failure) desk :=
  .failed failure [] (by simp)

theorem effect_createPage {descriptor : Descriptor} (action : descriptor.action = .createPage) :
    Effect config stamp actor descriptor desk
      (desk.carryOut stamp (createPage config actor descriptor.payload)).1
      (desk.carryOut stamp (createPage config actor descriptor.payload)).2 := by
  rw [carryOut_createPage]
  cases hp : text? "path" descriptor.payload with
  | none => exact .refused _
  | some path =>
    cases hl : layout? descriptor.payload with
    | none => exact .refused _
    | some raws =>
      obtain ⟨definitions, hd, hs⟩ := carryOut_validateLayout_snd config stamp 0 raws desk
      have hc : ∀ definition ∈ definitions, desk.Consults descriptor definition := by
        intro definition hm
        obtain ⟨raw, -, hb⟩ := hd definition hm
        exact Or.inl (blockSchema?_eq_some hb)
      dsimp only
      cases hv : desk.carryOut stamp (validateLayout config 0 raws) with
      | mk outcome after =>
        rw [hv] at hs
        dsimp only at hs ⊢
        subst hs
        cases outcome with
        | error failure => exact .failed failure definitions hc
        | ok layout =>
          dsimp only
          cases hw : (desk.consulted definitions).site.pages.create
              (stamp.id (desk.consulted definitions).issued) stamp.now actor
              (draft path descriptor.payload layout) with
          | error error => exact .failed _ definitions hc
          | ok stored =>
            exact .pageCreated path raws layout definitions stored.1 stored.2 action hc hv hw hp

theorem effect_publishPage {descriptor : Descriptor} (action : descriptor.action = .publishPage) :
    Effect config stamp actor descriptor desk
      (desk.carryOut stamp (publishPage actor descriptor.payload)).1
      (desk.carryOut stamp (publishPage actor descriptor.payload)).2 := by
  rw [carryOut_publishPage]
  cases hr : resolved desk.site.pages descriptor.payload with
  | error failure => exact .refused _
  | ok page =>
    dsimp only
    cases hw : desk.site.pages.publish stamp.now actor page.id with
    | error error => exact .refused _
    | ok stored => exact .pagePublished page stored.1 stored.2 action hr hw

theorem effect_deletePage {descriptor : Descriptor} (action : descriptor.action = .deletePage) :
    Effect config stamp actor descriptor desk
      (desk.carryOut stamp (deletePage descriptor.payload)).1
      (desk.carryOut stamp (deletePage descriptor.payload)).2 := by
  rw [carryOut_deletePage]
  cases hr : resolved desk.site.pages descriptor.payload with
  | error failure => exact .refused _
  | ok page =>
    dsimp only
    cases hw : desk.site.pages.delete page.id with
    | error error => exact .refused _
    | ok pages => exact .pageDeleted page pages action hr hw

theorem effect_createComponent {descriptor : Descriptor}
    (action : descriptor.action = .createComponent) :
    Effect config stamp actor descriptor desk
      (desk.carryOut stamp (createComponent config descriptor.payload)).1
      (desk.carryOut stamp (createComponent config descriptor.payload)).2 := by
  rw [carryOut_createComponent]
  cases ht : text? "type" descriptor.payload with
  | none => exact .refused _
  | some type =>
    obtain ⟨outcome, definitions, hn, hd, hs⟩ :=
      carryOut_newSchema config stamp type descriptor.payload desk
    have hc : ∀ definition ∈ definitions, desk.Consults descriptor definition :=
      fun definition hm => Or.inr ⟨action, hd definition hm⟩
    dsimp only
    rw [hn]
    cases outcome with
    | error failure => exact .failed failure definitions hc
    | ok schema =>
      dsimp only
      cases hw : (desk.consulted definitions).site.components.create
          (stamp.id (desk.consulted definitions).issued) stamp.now
          ⟨type, (text? "displayName" descriptor.payload).getD type, schema⟩ with
      | error error => exact .failed _ definitions hc
      | ok stored =>
        exact .componentCreated _ definitions stored.1 stored.2 action hc (hs schema rfl) hw ht

theorem effect_markContactRead {descriptor : Descriptor}
    (action : descriptor.action = .markContactRead) :
    Effect config stamp actor descriptor desk
      (desk.carryOut stamp (markContactRead descriptor.payload)).1
      (desk.carryOut stamp (markContactRead descriptor.payload)).2 := by
  rw [carryOut_markContactRead]
  cases hi : text? "id" descriptor.payload with
  | none => exact .refused _
  | some id =>
    dsimp only
    cases hm : desk.site.contacts.markRead id with
    | none => exact .refused _
    | some marked => exact .contactMarked marked.1 marked.2 action

theorem effect_handle (descriptor : Descriptor) :
    Effect config stamp actor descriptor desk
      (desk.carryOut stamp (handle config actor descriptor)).1
      (desk.carryOut stamp (handle config actor descriptor)).2 := by
  cases action : descriptor.action with
  | createPage => simpa only [handle, action] using effect_createPage action
  | publishPage => simpa only [handle, action] using effect_publishPage action
  | deletePage => simpa only [handle, action] using effect_deletePage action
  | createComponent => simpa only [handle, action] using effect_createComponent action
  | listContacts =>
    simp only [handle, action]
    rw [carryOut_listContacts]
    exact .contactsListed _ action
  | markContactRead => simpa only [handle, action] using effect_markContactRead action

/-- A command that is served has no descriptor and changes nothing but the log, or it has an effect
that is then logged. -/
theorem serve_effect (config : Config) (stamp : Stamp) (actor : Option String)
    (submission : Submission) (desk : Desk) :
    (∃ failure, submission.descriptor? = .error failure ∧
      desk.serve config stamp actor submission =
        (.error failure, desk.logged (entryOn stamp actor submission (.error failure)))) ∨
    ∃ descriptor outcome after, submission.descriptor? = .ok descriptor ∧
      Effect config stamp actor descriptor desk outcome after ∧
      desk.serve config stamp actor submission =
        (outcome, after.logged (entryOn stamp actor submission outcome)) := by
  rw [serve_eq]
  unfold attend
  cases submission.descriptor? with
  | error failure => exact Or.inl ⟨failure, rfl, rfl⟩
  | ok descriptor => exact Or.inr ⟨descriptor, _, _, rfl, effect_handle descriptor, rfl⟩

end Desk

end SiteDesk
