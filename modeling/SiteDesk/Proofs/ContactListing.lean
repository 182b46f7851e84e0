import SiteDesk.Proofs.Persistence

/-!
Listings of contacts. Newest first and by ascending id among those of one moment is a total order on
the contacts of a store, so it does not matter in which order the store goes through them, and a
listing is a beginning of any longer one. A valid configuration and the payload of a command give a
length between one and the greatest.
-/
namespace SiteDesk

namespace Timestamp

variable {a b c : Timestamp}

def IsBefore (a b : Timestamp) : Prop :=
  a.seconds < b.seconds ∨ (a.seconds = b.seconds ∧ a.nanos < b.nanos)

theorem IsBefore.trans (hab : a.IsBefore b) (hbc : b.IsBefore c) : a.IsBefore c := by
  unfold IsBefore at *
  omega

theorem isBefore_irrefl (a : Timestamp) : ¬ a.IsBefore a := by
  simp [IsBefore]

theorem isBefore_total (h : a ≠ b) : a.IsBefore b ∨ b.IsBefore a := by
  obtain ⟨seconds, nanos⟩ := a
  obtain ⟨seconds', nanos'⟩ := b
  simp only [ne_eq, mk.injEq] at h
  unfold IsBefore
  dsimp only
  omega

theorem isAtMost_iff (h : a ≠ b) : a.isAtMost b = true ↔ a.IsBefore b := by
  obtain ⟨seconds, nanos⟩ := a
  obtain ⟨seconds', nanos'⟩ := b
  simp only [ne_eq, mk.injEq] at h
  simp only [isAtMost, IsBefore, Bool.or_eq_true, Bool.and_eq_true, decide_eq_true_eq]
  omega

end Timestamp

namespace Contact

variable {a b c : Contact}

/-- A contact is listed before another: it is newer, or of the same moment with the lesser id. -/
def Precedes (a b : Contact) : Prop :=
  b.createdAt.IsBefore a.createdAt ∨ (a.createdAt = b.createdAt ∧ a.id < b.id)

theorem precedes_irrefl (a : Contact) : ¬ a.Precedes a := by
  simp [Precedes, Timestamp.isBefore_irrefl]

theorem Precedes.trans (hab : a.Precedes b) (hbc : b.Precedes c) : a.Precedes c := by
  rcases hab with newer | ⟨same, less⟩ <;> rcases hbc with newer' | ⟨same', less'⟩
  · exact .inl (newer'.trans newer)
  · exact .inl (same' ▸ newer)
  · exact .inl (same ▸ newer')
  · exact .inr ⟨same.trans same', String.lt_trans less less'⟩

/-- Two contacts have the same place in the order. -/
def Ties (a b : Contact) : Prop :=
  a.createdAt = b.createdAt ∧ a.id = b.id

theorem precedes_or_ties_or_precedes (a b : Contact) :
    a.Precedes b ∨ a.Ties b ∨ b.Precedes a := by
  by_cases same : a.createdAt = b.createdAt
  · by_cases tie : a.id = b.id
    · exact .inr (.inl ⟨same, tie⟩)
    · rcases String.le_total a.id b.id with le | le
      · exact .inl (.inr ⟨same, Std.lt_of_le_of_ne le tie⟩)
      · exact .inr (.inr (.inr ⟨same.symm, Std.lt_of_le_of_ne le (Ne.symm tie)⟩))
  · rcases Timestamp.isBefore_total same with older | newer
    · exact .inr (.inr (.inl older))
    · exact .inl (.inl newer)

theorem isListedBefore_iff : isListedBefore a b = true ↔ a.Precedes b ∨ a.Ties b := by
  unfold isListedBefore
  split
  · next same =>
    rw [decide_eq_true_iff]
    constructor
    · intro le
      by_cases tie : a.id = b.id
      · exact .inr ⟨same, tie⟩
      · exact .inl (.inr ⟨same, Std.lt_of_le_of_ne le tie⟩)
    · rintro ((newer | ⟨-, less⟩) | ⟨-, tie⟩)
      · exact absurd (same ▸ newer) (Timestamp.isBefore_irrefl _)
      · exact Std.le_of_lt less
      · exact tie ▸ String.le_refl _
  · next differ =>
    rw [Timestamp.isAtMost_iff (Ne.symm differ)]
    constructor
    · exact fun newer => .inl (.inl newer)
    · rintro ((newer | ⟨same, -⟩) | ⟨same, -⟩)
      · exact newer
      · exact absurd same differ
      · exact absurd same differ

theorem isListedBefore_total (a b : Contact) :
    (isListedBefore a b || isListedBefore b a) = true := by
  rw [Bool.or_eq_true, isListedBefore_iff, isListedBefore_iff]
  rcases precedes_or_ties_or_precedes a b with before | ties | after
  · exact .inl (.inl before)
  · exact .inl (.inr ties)
  · exact .inr (.inl after)

theorem isListedBefore_trans (a b c : Contact) (hab : isListedBefore a b = true)
    (hbc : isListedBefore b c = true) : isListedBefore a c = true := by
  rw [isListedBefore_iff] at *
  rcases hab with before | ⟨same, tie⟩
  · rcases hbc with before' | ⟨same, tie⟩
    · exact .inl (before.trans before')
    · exact .inl (by rwa [Precedes, ← same, ← tie])
  · unfold Precedes Ties
    rwa [same, tie]

end Contact

namespace ContactStore

variable {store contacts : ContactStore} {contact record : Contact} {id : String}
  {order others : List Contact}

/-- Every contact is stored under its own id. -/
def Filed (store : ContactStore) : Prop :=
  ∀ id contact, store.find id = some contact → contact.id = id

theorem filed_empty : Filed {} := by
  intro id contact found
  simp [find] at found

theorem Filed.insert (filed : store.Filed) (contact : Contact) : (store.insert contact).Filed := by
  intro id record found
  simp only [find, ContactStore.insert, Std.ExtTreeMap.getElem?_insert,
    Std.LawfulEqCmp.compare_eq_iff_eq] at found
  split at found
  · next same => rwa [← Option.some.inj found]
  · exact filed id record found

theorem Filed.markRead (filed : store.Filed)
    (marked : store.markRead id = some (record, contacts)) : contacts.Filed := by
  obtain ⟨contact, found, rfl, others⟩ := markRead_ok marked
  intro other kept
  rw [others]
  split
  · next same =>
    rintro ⟨rfl⟩
    exact (filed id contact found).trans same
  · exact filed other kept

/-- A list has the contacts of a store, each of them once. -/
structure Enumerates (order : List Contact) (store : ContactStore) : Prop where
  once : order.Nodup
  mem_iff (contact : Contact) : contact ∈ order ↔ store.find contact.id = some contact

theorem mem_all_iff (filed : store.Filed) :
    contact ∈ store.all ↔ store.find contact.id = some contact := by
  simp only [all, List.mem_map, Prod.exists, exists_eq_right,
    Std.ExtTreeMap.mem_toList_iff_getElem?_eq_some]
  constructor
  · rintro ⟨id, found⟩
    rwa [filed id contact found]
  · exact fun found => ⟨contact.id, found⟩

theorem map_id_all (filed : store.Filed) :
    store.all.map Contact.id = store.contacts.keys := by
  rw [all, List.map_map, ← Std.ExtTreeMap.map_fst_toList_eq_keys]
  refine List.map_congr_left fun entry stored => ?_
  exact filed _ _ (Std.ExtTreeMap.mem_toList_iff_getElem?_eq_some.1 stored)

theorem enumerates_all (filed : store.Filed) : Enumerates store.all store where
  once := by
    refine List.Nodup.of_map Contact.id ?_
    rw [map_id_all filed]
    exact Std.ExtTreeMap.nodup_keys
  mem_iff _ := mem_all_iff filed

namespace Enumerates

theorem perm (h : Enumerates order store) (h' : Enumerates others store) : order.Perm others :=
  (List.perm_ext_iff_of_nodup h.once h'.once).2 fun contact =>
    (h.mem_iff contact).trans (h'.mem_iff contact).symm

theorem eq_of_id (h : Enumerates order store) {a b : Contact} (ha : a ∈ order) (hb : b ∈ order)
    (same : a.id = b.id) : a = b := by
  have found := (h.mem_iff a).1 ha
  rw [same, (h.mem_iff b).1 hb] at found
  exact (Option.some.inj found).symm

theorem nodup_ids (h : Enumerates order store) : (order.map Contact.id).Nodup :=
  h.once.map_on fun _ ha _ hb same => h.eq_of_id ha hb same

theorem sorted (h : Enumerates order store) :
    Enumerates (order.mergeSort Contact.isListedBefore) store where
  once := (List.mergeSort_perm _ _).nodup_iff.2 h.once
  mem_iff contact := List.mem_mergeSort.trans (h.mem_iff contact)

theorem pairwise_sorted (h : Enumerates order store) :
    (order.mergeSort Contact.isListedBefore).Pairwise Contact.Precedes := by
  have listed := List.pairwise_mergeSort Contact.isListedBefore_trans
    Contact.isListedBefore_total order
  refine (listed.and h.sorted.once).imp_of_mem ?_
  rintro a b ha hb ⟨before, apart⟩
  -- no two contacts of a store tie, since they are told apart by their ids
  rcases Contact.isListedBefore_iff.1 before with precedes | ⟨-, tie⟩
  · exact precedes
  · exact absurd (h.sorted.eq_of_id ha hb tie) apart

/-- There is but one enumeration in which every contact precedes those after it. -/
theorem eq_of_pairwise (h : Enumerates order store) (h' : Enumerates others store)
    (precedes : order.Pairwise Contact.Precedes) (precedes' : others.Pairwise Contact.Precedes) :
    order = others := by
  refine (h.perm h').eq_of_pairwise (fun a b _ _ before after => ?_) precedes precedes'
  exact absurd (before.trans after) (Contact.precedes_irrefl a)

end Enumerates

def firstOf (limit : Nat) (order : List Contact) : List Contact :=
  (order.mergeSort Contact.isListedBefore).take limit

theorem list_eq_firstOf (limit : Nat) (store : ContactStore) :
    store.list limit = firstOf limit store.all := rfl

/-- A listing does not depend on the order in which the contacts are gone through. -/
theorem firstOf_eq_list (h : Enumerates order store) (filed : store.Filed) (limit : Nat) :
    firstOf limit order = store.list limit := by
  have every := enumerates_all filed
  rw [list_eq_firstOf, firstOf, firstOf,
    h.sorted.eq_of_pairwise every.sorted h.pairwise_sorted every.pairwise_sorted]

end ContactStore

namespace Config

variable {config : Config} {payload : Json.Members} {n : Nat}

theorem limits_of_validate (valid : config.validate = .ok ()) :
    1 ≤ config.contactListDefaultLimit ∧
      config.contactListDefaultLimit ≤ config.contactListMaxLimit := by
  unfold validate at valid
  split_ifs at valid
  omega

theorem contactLimit_mem (valid : config.validate = .ok ()) (asked : Option Nat) :
    1 ≤ config.contactLimit asked ∧ config.contactLimit asked ≤ config.contactListMaxLimit := by
  obtain ⟨least, most⟩ := limits_of_validate valid
  match asked with
  | none => exact ⟨least, most⟩
  | some 0 => exact ⟨least, most⟩
  | some (n + 1) =>
    have asked : config.contactLimit (some (n + 1)) = min (n + 1) config.contactListMaxLimit := rfl
    omega

def listLimit (config : Config) (payload : Json.Members) : Nat :=
  config.contactLimit ((Keyed.get? "limit" payload).bind Json.asNat?)

theorem listLimit_of_number (positive : 1 ≤ n)
    (asked : Keyed.get? "limit" payload = some (.ofNat n)) :
    config.listLimit payload = min n config.contactListMaxLimit := by
  have number : (Json.ofNat n).asNat? = some n := rfl
  rw [listLimit, asked, Option.bind_some, number, contactLimit]
  omega

theorem exists_number_of_asNat? {value : Json} (h : value.asNat? = some n) : value = .ofNat n := by
  cases value with
  | number number =>
    cases number with
    | integer whole =>
      cases whole with
      | ofNat m => exact congrArg Json.ofNat (Option.some.inj h)
      | negSucc m => cases h
    | float _ => cases h
  | _ => cases h

theorem listLimit_of_not_number
    (unasked : ∀ n, 1 ≤ n → Keyed.get? "limit" payload ≠ some (.ofNat n)) :
    config.listLimit payload = config.contactListDefaultLimit := by
  unfold listLimit contactLimit
  split
  · rfl
  · rfl
  · next n positive h =>
    obtain ⟨value, asked, number⟩ := Option.bind_eq_some_iff.1 h
    refine absurd ?_ (unasked n (Nat.one_le_iff_ne_zero.2 fun zero => positive (zero ▸ rfl)))
    rw [asked, exists_number_of_asNat? number]

end Config

namespace Desk

open SiteDesk.Command

variable {config : Config} {stamp : Stamp} {actor : Option String} {submission : Submission}
  {descriptor : Descriptor} {desk : Desk}

theorem filed_meet (config : Config) (ids : Nat → String) (event : Event)
    (filed : desk.site.contacts.Filed) : (desk.meet config ids event).site.contacts.Filed := by
  cases event with
  | command now actor submission =>
    rw [meet]
    by_cases marking : ∃ descriptor, submission.descriptor? = .ok descriptor ∧
        descriptor.action = .markContactRead
    · obtain ⟨descriptor, known, action⟩ := marking
      rcases serve_markContactRead config ⟨ids, now⟩ actor desk known action with
        ⟨-, hc⟩ | ⟨id, record, contacts, -, marked, -, hc⟩
      · rwa [hc]
      · rw [hc]
        exact filed.markRead marked
    · rwa [serve_contacts_eq fun descriptor known action => marking ⟨descriptor, known, action⟩]
  | registration now component =>
    rcases meet_registration config ids now component desk with hm | ⟨made, components, -, hm⟩
    · rwa [hm]
    · rwa [hm]
  | contact contact => exact filed.insert contact
  | expiry hash => exact filed

theorem filed_session (config : Config) (ids : Nat → String) (events : List Event)
    (filed : desk.site.contacts.Filed) :
    (desk.session config ids events).site.contacts.Filed :=
  @session_invariant config ids desk (fun later => later.site.contacts.Filed) events filed
    fun _ event _ later => filed_meet config ids event later

theorem serve_listContacts (config : Config) (stamp : Stamp) (actor : Option String)
    (desk : Desk) (known : submission.descriptor? = .ok descriptor)
    (action : descriptor.action = .listContacts) :
    (desk.serve config stamp actor submission).1 =
      .ok (.contacts (desk.site.contacts.list (config.listLimit descriptor.payload))) := by
  rw [serve_eq]
  simp only [attend, known, handle, action, carryOut_listContacts]
  rfl

/-- However a store of contacts has come about, its contacts are in one total order, newest first
and by ascending id among those of one moment, and a listing has the first of them, whatever the
order in which the store goes through them. The length of a listing is the number that is asked
for, the greatest length at most, and the usual length if no positive number is asked for. -/
theorem contact_listing_bounded :
    (∀ config ids events, ((Desk.empty config).session config ids events).site.contacts.Filed) ∧
    (∀ store : ContactStore, store.Filed → ∃ all : List Contact,
      ContactStore.Enumerates all store ∧ all.length = store.contacts.size ∧
      all.Pairwise Contact.Precedes ∧
      (∀ limit, store.list limit = all.take limit ∧
        (store.list limit).length = min limit store.contacts.size ∧
        ((store.list limit).map Contact.id).Nodup ∧
        ∀ order, ContactStore.Enumerates order store →
          ContactStore.firstOf limit order = store.list limit) ∧
      ∀ j k, j ≤ k → store.list j <+: store.list k) ∧
    ∀ config stamp actor submission descriptor desk, config.validate = .ok () →
      submission.descriptor? = .ok descriptor → descriptor.action = .listContacts →
      ∃ limit, 1 ≤ limit ∧ limit ≤ config.contactListMaxLimit ∧
        (∀ n, 1 ≤ n → Keyed.get? "limit" descriptor.payload = some (.ofNat n) →
          limit = min n config.contactListMaxLimit) ∧
        ((∀ n, 1 ≤ n → Keyed.get? "limit" descriptor.payload ≠ some (.ofNat n)) →
          limit = config.contactListDefaultLimit) ∧
        (Desk.serve config stamp actor submission desk).1 =
          .ok (.contacts (desk.site.contacts.list limit)) := by
  refine ⟨?_, ?_, ?_⟩
  · exact fun config ids events => filed_session config ids events ContactStore.filed_empty
  · intro store filed
    have every := ContactStore.enumerates_all filed
    have size : (store.all.mergeSort Contact.isListedBefore).length =
        store.contacts.size := by
      rw [List.length_mergeSort, ← List.length_map Contact.id, ContactStore.map_id_all filed,
        Std.ExtTreeMap.length_keys]
    refine ⟨_, every.sorted, size, every.pairwise_sorted, ?_, ?_⟩
    · refine fun limit => ⟨rfl, ?_, ?_, fun order h => ContactStore.firstOf_eq_list h filed limit⟩
      · rw [ContactStore.list, List.length_take, size]
      · exact every.sorted.nodup_ids.sublist ((List.take_sublist _ _).map _)
    · exact fun j k le => List.take_prefix_take_left le
  · intro config stamp actor submission descriptor desk valid known action
    obtain ⟨least, most⟩ := Config.contactLimit_mem valid
      ((Keyed.get? "limit" descriptor.payload).bind Json.asNat?)
    refine ⟨config.listLimit descriptor.payload, least, most, ?_, ?_, ?_⟩
    · exact fun n positive asked => Config.listLimit_of_number positive asked
    · exact Config.listLimit_of_not_number
    · exact serve_listContacts config stamp actor desk known action

/-- Two contacts of one moment are listed by id in whatever order they come, and a command that asks
for more than the greatest length gets that many. -/
theorem contact_listing_bounded_one_moment :
    let first : Contact := ⟨"a", "Ann", "ann@x", "Hi", false, default⟩
    let second : Contact := ⟨"b", "Bob", "bob@x", "Ho", true, default⟩
    let store := (ContactStore.insert second {}).insert first
    let asked : Submission := .descriptor ⟨.listContacts, [("limit", .ofNat 500)], ""⟩
    let desk := { Desk.empty {} with site.contacts := store }
    store.Filed ∧ ContactStore.Enumerates [second, first] store ∧
      ContactStore.firstOf 1 [second, first] = store.list 1 ∧ (store.list 1).length = 1 ∧
      store.list 1 <+: store.list 2 ∧ ({} : Config).validate = .ok () ∧
      (Desk.serve {} ⟨Nat.repr, default⟩ none asked desk).1 = .ok (.contacts (store.list 200)) := by
  intro first second store asked desk
  have filed : store.Filed := (ContactStore.filed_empty.insert second).insert first
  have order : ContactStore.Enumerates [second, first] store := by
    refine ⟨by decide, fun contact => ?_⟩
    have found : store.find contact.id =
        if "a" = contact.id then some first
        else if "b" = contact.id then some second else none := by
      simp [store, ContactStore.find, ContactStore.insert, first, second,
        Std.ExtTreeMap.getElem?_insert]
    rw [found]
    constructor
    · intro h
      rcases List.mem_pair.1 h with rfl | rfl <;> rfl
    · intro h
      split_ifs at h
      · exact List.mem_pair.2 (.inr (Option.some.inj h).symm)
      · exact List.mem_pair.2 (.inl (Option.some.inj h).symm)
  obtain ⟨-, stores, commands⟩ := contact_listing_bounded
  obtain ⟨all, -, -, -, lists, prefixes⟩ := stores store filed
  obtain ⟨-, length, -, orders⟩ := lists 1
  obtain ⟨limit, -, -, number, -, served⟩ :=
    commands {} ⟨Nat.repr, default⟩ none asked _ desk rfl rfl rfl
  obtain rfl : limit = 200 := number 500 (by decide) rfl
  have size : store.contacts.size = 2 := by
    simp [store, ContactStore.insert, Std.ExtTreeMap.size_insert, first, second]
  rw [size] at length
  exact ⟨filed, order, orders _ order, length, prefixes 1 2 (by decide), rfl, served⟩

end Desk

end SiteDesk
