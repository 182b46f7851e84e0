import SiteDesk.Proofs.ParsedCommands

/-!
What a session never takes back. A component type that is registered keeps its record, and is
refused to every other one. Commands neither add nor remove contacts; all they do to one is to mark
it as read, and a contact that is read stays so.
-/
namespace SiteDesk

open SiteDesk.Command

theorem Registry.create_of_found {registry : Registry} {component : NewComponent}
    {record : Component} (h : registry.find component.type = some record) (id : String)
    (now : Timestamp) : registry.create id now component = .error (taken component.type) := by
  have contained : registry.components.contains component.type = true := by
    rw [Std.ExtTreeMap.contains_eq_isSome_getElem?]
    exact Option.isSome_of_eq_some h
  rw [create, if_pos contained]

theorem ContactStore.markRead_ok {store contacts : ContactStore} {id : String} {record : Contact}
    (h : store.markRead id = some (record, contacts)) :
    ∃ contact, store.find id = some contact ∧ record = { contact with read := true } ∧
      ∀ other, contacts.find other = if id = other then some record else store.find other := by
  unfold markRead at h
  obtain ⟨contact, hf, he⟩ := Option.map_eq_some_iff.1 h
  obtain ⟨rfl, rfl⟩ := Prod.mk.inj he
  exact ⟨contact, hf, rfl, fun other => by simp [find, Std.ExtTreeMap.getElem?_insert]⟩

theorem NewComponent.effectiveDisplayName_of_trimmed (component : NewComponent)
    (h : Text.Trimmed component.displayName.toList) :
    component.effectiveDisplayName = component.displayName := by
  simp [effectiveDisplayName, h.trim_eq, h.nonempty]

namespace Desk

variable {config : Config} {stamp : Stamp} {actor : Option String} {submission : Submission}
  {descriptor : Descriptor} {desk : Desk}

theorem within_serve (config : Config) (stamp : Stamp) (actor : Option String)
    (submission : Submission) (desk : Desk) :
    desk.site.components.Within (desk.serve config stamp actor submission).2.site.components := by
  intro type record h
  rcases serve_effect config stamp actor submission desk with
    ⟨failure, -, hs⟩ | ⟨descriptor, outcome, after, -, effect, hs⟩
  · rw [hs]
    exact h
  · rw [hs]
    cases effect with
    | componentCreated component definitions made components action consults schema stored =>
      exact Registry.find_of_create_ok stored h
    | _ => exact h

theorem within_meet (config : Config) (ids : Nat → String) (event : Event) (desk : Desk) :
    desk.site.components.Within (desk.meet config ids event).site.components := by
  cases event with
  | command now actor submission => exact within_serve config ⟨ids, now⟩ actor submission desk
  | registration now component =>
    intro type record h
    rcases meet_registration config ids now component desk with hm | ⟨made, components, stored, hm⟩
    · rw [hm]
      exact h
    · rw [hm]
      exact Registry.find_of_create_ok stored h
  | contact contact => exact fun type record h => h
  | expiry hash => exact fun type record h => h

theorem within_session (config : Config) (ids : Nat → String) (events : List Event) (desk : Desk) :
    desk.site.components.Within (desk.session config ids events).site.components :=
  @session_invariant config ids desk
    (fun later => desk.site.components.Within later.site.components) events
    (fun _ _ h => h)
    fun between event _ grown type record h =>
      within_meet config ids event between type record (grown type record h)

structure Makes (payload : Json.Members) (record : Component) : Prop where
  type : text? "type" payload = some record.type
  trimmed : Text.Trimmed record.type.toList
  displayName : record.displayName = (text? "displayName" payload).getD record.type
  filled : Text.trim record.displayName.toList ≠ []
  schema : record.propsSchema = newSchema? payload

theorem makes_of_create {components grown : Registry} {id : String} {now : Timestamp}
    {payload : Json.Members} {type : String} {record : Component}
    (named : text? "type" payload = some type)
    (stored : components.create id now
      ⟨type, (text? "displayName" payload).getD type, newSchema? payload⟩ = .ok (record, grown)) :
    Makes payload record ∧ components.find record.type = none ∧
      grown.find record.type = some record := by
  obtain ⟨rfl, free, hf⟩ := Registry.create_ok stored
  have trimmed : Text.Trimmed type.toList := trimmed_of_text? named
  have displayed : Text.Trimmed ((text? "displayName" payload).getD type).toList := by
    cases hd : text? "displayName" payload with
    | none => exact trimmed
    | some name => exact trimmed_of_text? hd
  have kept := NewComponent.effectiveDisplayName_of_trimmed
    ⟨type, (text? "displayName" payload).getD type, newSchema? payload⟩ displayed
  refine ⟨⟨named, trimmed, kept, ?_, rfl⟩, free, (hf _).trans (if_pos rfl)⟩
  change Text.trim (NewComponent.effectiveDisplayName _).toList ≠ []
  rw [kept, displayed.trim_eq]
  exact displayed.nonempty

theorem carryOut_createComponent_ok {payload : Json.Members} {output : Output} {after : Desk}
    (h : desk.carryOut stamp (createComponent config payload) = (.ok output, after)) :
    ∃ record, output = .component record ∧ Makes payload record ∧
      desk.site.components.find record.type = none ∧
      after.site.components.find record.type = some record := by
  rw [carryOut_createComponent] at h
  cases ht : text? "type" payload with
  | none => simp [ht] at h
  | some type =>
    obtain ⟨outcome, definitions, hn, -, hs⟩ := carryOut_newSchema config stamp type payload desk
    simp only [ht, hn] at h
    cases outcome with
    | error failure => simp at h
    | ok schema =>
      obtain rfl := hs schema rfl
      dsimp only at h
      cases hc : (desk.consulted definitions).site.components.create
          (stamp.id (desk.consulted definitions).issued) stamp.now
          ⟨type, (text? "displayName" payload).getD type, newSchema? payload⟩ with
      | error error =>
        rw [hc] at h
        cases h
      | ok stored =>
        rw [hc] at h
        obtain ⟨result, rfl⟩ := Prod.mk.inj h
        obtain ⟨makes, free, found⟩ := makes_of_create ht hc
        exact ⟨stored.1, (Except.ok.inj result).symm, makes, free, found⟩

theorem serve_createComponent (known : submission.descriptor? = .ok descriptor)
    (action : descriptor.action = .createComponent) {output : Output}
    (ok : (desk.serve config stamp actor submission).1 = .ok output) :
    ∃ record, output = .component record ∧ Makes descriptor.payload record ∧
      desk.site.components.find record.type = none ∧
      (desk.serve config stamp actor submission).2.site.components.find record.type =
        some record := by
  rcases hc : desk.carryOut stamp (createComponent config descriptor.payload) with ⟨outcome, after⟩
  have attended : desk.attend config stamp actor submission = (outcome, after) := by
    simp only [attend, known, handle, action, hc]
  rw [serve_eq, attended] at ok ⊢
  obtain rfl : outcome = .ok output := ok
  have made := carryOut_createComponent_ok hc
  exact made

/-- A command to register a component type that is already registered fails. -/
theorem createComponent_of_found {record : Component} {type : String}
    (h : desk.site.components.find type = some record)
    (known : submission.descriptor? = .ok descriptor)
    (action : descriptor.action = .createComponent)
    (named : text? "type" descriptor.payload = some type) :
    ∃ failure, (desk.serve config stamp actor submission).1 = .error failure := by
  cases outcome : (desk.serve config stamp actor submission).1 with
  | error failure => exact ⟨failure, rfl⟩
  | ok output =>
    obtain ⟨made, -, makes, free, -⟩ := serve_createComponent known action outcome
    obtain rfl := Option.some.inj (named.symm.trans makes.type)
    rw [h] at free
    cases free

end Desk

def Event.Marks (config : Config) (ids : Nat → String) (desk : Desk) (id : String) : Event → Prop
  | .command now actor submission =>
    ∃ descriptor output, submission.descriptor? = .ok descriptor ∧
      descriptor.action = .markContactRead ∧ text? "id" descriptor.payload = some id ∧
      (desk.serve config ⟨ids, now⟩ actor submission).1 = .ok output
  | _ => False

namespace Desk

variable {config : Config} {ids : Nat → String} {stamp : Stamp} {actor : Option String}
  {submission : Submission} {descriptor : Descriptor} {desk : Desk} {events : List Event}
  {id : String} {event : Event}

theorem serve_markContactRead (config : Config) (stamp : Stamp) (actor : Option String)
    (desk : Desk) (known : submission.descriptor? = .ok descriptor)
    (action : descriptor.action = .markContactRead) :
    ((∃ failure, (desk.serve config stamp actor submission).1 = .error failure) ∧
      (desk.serve config stamp actor submission).2.site.contacts = desk.site.contacts) ∨
    ∃ id record contacts, text? "id" descriptor.payload = some id ∧
      desk.site.contacts.markRead id = some (record, contacts) ∧
      (desk.serve config stamp actor submission).1 = .ok (.contact record) ∧
      (desk.serve config stamp actor submission).2.site.contacts = contacts := by
  rw [serve_eq]
  simp only [attend, known, handle, action, carryOut_markContactRead]
  cases hi : text? "id" descriptor.payload with
  | none => exact .inl ⟨⟨_, rfl⟩, rfl⟩
  | some id =>
    dsimp only
    cases hm : desk.site.contacts.markRead id with
    | none => exact .inl ⟨⟨_, rfl⟩, rfl⟩
    | some marked => exact .inr ⟨id, marked.1, marked.2, rfl, hm, rfl, rfl⟩

/-- No other command changes the contacts. -/
theorem serve_contacts_eq
    (unmarked : ∀ descriptor, submission.descriptor? = .ok descriptor →
      descriptor.action ≠ .markContactRead) :
    (desk.serve config stamp actor submission).2.site.contacts = desk.site.contacts := by
  rcases serve_effect config stamp actor submission desk with
    ⟨failure, -, hs⟩ | ⟨descriptor, outcome, after, known, effect, hs⟩
  · rw [hs]
    rfl
  · rw [hs]
    cases effect with
    | contactMarked record contacts action => exact absurd action (unmarked descriptor known)
    | _ => rfl

theorem find_meet_of_marks (h : event.Marks config ids desk id) :
    ∃ contact, desk.site.contacts.find id = some contact ∧
      (desk.meet config ids event).site.contacts.find id = some { contact with read := true } := by
  cases event with
  | command now actor submission =>
    obtain ⟨descriptor, output, known, action, named, ok⟩ := h
    rcases serve_markContactRead config ⟨ids, now⟩ actor desk known action with
      ⟨⟨failure, failed⟩, -⟩ | ⟨other, record, contacts, ho, marked, -, hc⟩
    · cases failed.symm.trans ok
    · obtain rfl := Option.some.inj (ho.symm.trans named)
      obtain ⟨contact, hf, rfl, found⟩ := ContactStore.markRead_ok marked
      refine ⟨contact, hf, ?_⟩
      rw [meet, hc, found, if_pos rfl]
  | registration now component => exact h.elim
  | contact contact => exact h.elim
  | expiry hash => exact h.elim

theorem find_meet_of_not_marks (quiet : ∀ contact, event ≠ .contact contact)
    (h : ¬ event.Marks config ids desk id) :
    (desk.meet config ids event).site.contacts.find id = desk.site.contacts.find id := by
  cases event with
  | command now actor submission =>
    rw [meet]
    by_cases marking : ∃ descriptor, submission.descriptor? = .ok descriptor ∧
        descriptor.action = .markContactRead
    · obtain ⟨descriptor, known, action⟩ := marking
      rcases serve_markContactRead config ⟨ids, now⟩ actor desk known action with
        ⟨-, hc⟩ | ⟨other, record, contacts, ho, marked, ok, hc⟩
      · rw [hc]
      · obtain ⟨-, -, -, found⟩ := ContactStore.markRead_ok marked
        rw [hc, found, if_neg]
        rintro rfl
        exact h ⟨descriptor, _, known, action, ho, ok⟩
    · rw [serve_contacts_eq fun descriptor known action => marking ⟨descriptor, known, action⟩]
  | registration now component =>
    rcases meet_registration config ids now component desk with hm | ⟨made, components, -, hm⟩
    · rw [hm]
    · rw [hm]
  | contact contact => exact absurd rfl (quiet contact)
  | expiry hash => rfl

/-- In a session that starts from a desk, one of the commands marks a contact. -/
def Marked (config : Config) (ids : Nat → String) (events : List Event) (id : String)
    (desk : Desk) : Prop :=
  ∃ earlier event later, events = earlier ++ event :: later ∧
    event.Marks config ids (desk.session config ids earlier) id

theorem not_marked_nil : ¬ Marked config ids [] id desk := by
  rintro ⟨earlier, event, later, he, -⟩
  simp at he

theorem marked_cons {rest : List Event} :
    Marked config ids (event :: rest) id desk ↔
      event.Marks config ids desk id ∨ Marked config ids rest id (desk.meet config ids event) := by
  constructor
  · rintro ⟨earlier, other, later, he, hm⟩
    cases earlier with
    | nil =>
      obtain ⟨rfl, -⟩ := List.cons.inj he
      exact .inl hm
    | cons first earlier =>
      obtain ⟨rfl, hr⟩ := List.cons.inj he
      exact .inr ⟨earlier, other, later, hr, hm⟩
  · rintro (hm | ⟨earlier, other, later, rfl, hm⟩)
    · exact ⟨[], event, rest, rfl, hm⟩
    · exact ⟨event :: earlier, other, later, rfl, hm⟩

theorem find_session_of_none (quiet : ∀ contact, Event.contact contact ∉ events)
    (h : desk.site.contacts.find id = none) :
    (desk.session config ids events).site.contacts.find id = none := by
  induction events generalizing desk with
  | nil => exact h
  | cons event rest ih =>
    have unmarked : ¬ event.Marks config ids desk id := by
      intro hm
      obtain ⟨contact, hf, -⟩ := find_meet_of_marks hm
      rw [h] at hf
      cases hf
    refine ih (fun contact hc => quiet contact (List.mem_cons_of_mem _ hc)) ?_
    rw [find_meet_of_not_marks ?_ unmarked]
    · exact h
    · rintro contact rfl
      exact quiet contact (by simp)

/-- A stored contact stays as it is, but for being read once it was marked. -/
theorem find_session_of_some (quiet : ∀ contact, Event.contact contact ∉ events) {contact : Contact}
    (h : desk.site.contacts.find id = some contact) :
    ∃ read, (desk.session config ids events).site.contacts.find id = some { contact with read } ∧
      (read = true ↔ contact.read = true ∨ Marked config ids events id desk) := by
  induction events generalizing desk contact with
  | nil => exact ⟨contact.read, h, by simp [not_marked_nil]⟩
  | cons event rest ih =>
    have quietRest : ∀ contact, Event.contact contact ∉ rest :=
      fun contact hc => quiet contact (List.mem_cons_of_mem _ hc)
    rw [marked_cons]
    by_cases hm : event.Marks config ids desk id
    · obtain ⟨found, hf, marked⟩ := find_meet_of_marks hm
      obtain rfl := Option.some.inj (h.symm.trans hf)
      obtain ⟨read, hr, iff⟩ := ih quietRest marked
      exact ⟨read, hr, by simp [iff, hm]⟩
    · have unchanged : (desk.meet config ids event).site.contacts.find id = some contact := by
        rw [find_meet_of_not_marks ?_ hm]
        · exact h
        · rintro contact rfl
          exact quiet contact (by simp)
      obtain ⟨read, hr, iff⟩ := ih quietRest unchanged
      exact ⟨read, hr, by simp [iff, hm]⟩

/-- From any desk on, a component type that is registered keeps its record through a session, and
no other component can take it afterwards, by a command or otherwise. A component that a command
makes is of a type that was free, and it is what its payload says. If no contact submission comes
in, then no contact comes or goes, and each stays as it was, except that it is read in the end
exactly if it was at first or a command of the session has marked it. -/
theorem components_and_contacts_persist (config : Config) (ids : Nat → String) (desk : Desk)
    (events : List Event) :
    let after := desk.session config ids events
    (∀ type record, desk.site.components.find type = some record →
      after.site.components.find type = some record ∧
      (∀ (stamp : Stamp) (component : NewComponent), component.type = type →
        after.site.components.create (stamp.id after.issued) stamp.now component =
          .error (Registry.taken type)) ∧
      ∀ config' stamp actor submission descriptor, submission.descriptor? = .ok descriptor →
        descriptor.action = .createComponent → text? "type" descriptor.payload = some type →
          ∃ failure, (after.serve config' stamp actor submission).1 = .error failure) ∧
    (∀ config' stamp actor submission descriptor output, submission.descriptor? = .ok descriptor →
      descriptor.action = .createComponent →
        (after.serve config' stamp actor submission).1 = .ok output →
          ∃ record, output = .component record ∧ Makes descriptor.payload record ∧
            after.site.components.find record.type = none ∧
            (after.serve config' stamp actor submission).2.site.components.find record.type =
              some record) ∧
    ((∀ contact, Event.contact contact ∉ events) → ∀ id,
      (desk.site.contacts.find id = none → after.site.contacts.find id = none) ∧
      ∀ contact, desk.site.contacts.find id = some contact →
        ∃ read, after.site.contacts.find id = some { contact with read } ∧
          (read = true ↔ contact.read = true ∨ Marked config ids events id desk)) := by
  intro after
  refine ⟨?_, ?_, ?_⟩
  · intro type record h
    have kept : after.site.components.find type = some record :=
      within_session config ids events desk type record h
    refine ⟨kept, ?_, ?_⟩
    · rintro stamp component rfl
      exact Registry.create_of_found kept _ _
    · intro config' stamp actor submission descriptor known action named
      exact createComponent_of_found kept known action named
  · intro config' stamp actor submission descriptor output known action ok
    exact serve_createComponent known action ok
  · intro quiet id
    exact ⟨find_session_of_none quiet, fun contact h => find_session_of_some quiet h⟩

/-- A component type is registered, a contact is marked, and the type is asked for again. -/
theorem components_and_contacts_persist_marked :
    let contact : Contact := ⟨"c", "Visitor", "visitor@example.com", "Hello", false, default⟩
    let creation : Submission := .request ⟨"create_component", [("type", .string "Card")], none⟩
    let marking : Submission := .request ⟨"mark_contact_read", [("id", .string "c")], none⟩
    let desk := (opening {} {} {} 0).session {} Nat.repr
      [.registration default ⟨"Card", "", none⟩, .contact contact]
    let events := [.command default none marking, .command default none creation]
    let after := desk.session {} Nat.repr events
    ∃ record, desk.site.components.find "Card" = some record ∧
      after.site.components.find "Card" = some record ∧
      (∃ failure, (after.serve {} ⟨Nat.repr, default⟩ none creation).1 = .error failure) ∧
      after.site.contacts.find "c" = some { contact with read := true } := by
  intro contact creation marking desk events after
  obtain ⟨registered, -, contacts⟩ := components_and_contacts_persist {} Nat.repr desk events
  have hc : ({} : Registry).create "0" default ⟨"Card", "", none⟩ =
      .ok (.ofNew "0" default ⟨"Card", "", none⟩, desk.site.components) := rfl
  have stored := ((Registry.create_ok hc).2.2 "Card").trans (if_pos rfl)
  obtain ⟨kept, -, refused⟩ := registered "Card" _ stored
  have quiet : ∀ contact, Event.contact contact ∉ events := by simp [events]
  have found : desk.site.contacts.find "c" = some contact := by
    change (ContactStore.insert contact {}).find "c" = some contact
    simp [ContactStore.find, ContactStore.insert, contact]
  obtain ⟨read, hr, iff⟩ := (contacts quiet "c").2 contact found
  have answered : (desk.serve {} ⟨Nat.repr, default⟩ none marking).1.isOk = true := by
    decide +kernel
  have marked : Marked {} Nat.repr events "c" desk := by
    cases ok : (desk.serve {} ⟨Nat.repr, default⟩ none marking).1 with
    | error failure =>
      rw [ok] at answered
      cases answered
    | ok output => exact ⟨[], _, _, rfl, _, output, rfl, rfl, rfl, ok⟩
  obtain rfl : read = true := iff.2 (.inr marked)
  exact ⟨_, stored, kept, refused {} _ none creation _ rfl rfl rfl, hr⟩

end Desk

end SiteDesk
