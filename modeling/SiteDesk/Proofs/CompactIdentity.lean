import SiteDesk.Proofs.CacheFidelity

/-!
Telling values apart by their compact forms. Names and strings are written so that they can be read
back, and brackets and commas say where items and members end; so two different values have
different forms as soon as different numbers have different texts.
-/
namespace SiteDesk.Json

mutual

def numbers : Json → List Number
  | .null => []
  | .bool _ => []
  | .number n => [n]
  | .string _ => []
  | .array items => numbersOfItems items
  | .object members => numbersOfMembers members

def numbersOfItems : List Json → List Number
  | [] => []
  | item :: rest => numbers item ++ numbersOfItems rest

def numbersOfMembers : List (String × Json) → List Number
  | [] => []
  | (_, value) :: rest => numbers value ++ numbersOfMembers rest

end

theorem map_compact_of_compactItems {items others : List Json}
    (h : compactItems items = compactItems others) : items.map compact = others.map compact := by
  induction items generalizing others with
  | nil =>
    cases others with
    | nil => rfl
    | cons other others => simp [compactItems] at h
  | cons item rest ih =>
    cases others with
    | nil => simp [compactItems] at h
    | cons other others =>
      simp only [compactItems, List.cons.injEq, true_and] at h
      obtain ⟨hi, ht⟩ := delimited item other (by simpa using stops_compactItems rest [])
        (by simpa using stops_compactItems others []) h
      have hr : rest.map compact = others.map compact := ih ht
      simp only [List.map_cons, hi, hr]

theorem map_compact_of_compact {items others : List Json}
    (h : compact (.array items) = compact (.array others)) :
    items.map compact = others.map compact := by
  cases items with
  | nil =>
    cases others with
    | nil => rfl
    | cons other others =>
      simp only [compact, List.cons.injEq, true_and] at h
      exact absurd h.symm (compact_append_ne (not_opens_bracket _) _ _)
  | cons item rest =>
    cases others with
    | nil =>
      simp only [compact, List.cons.injEq, true_and] at h
      exact absurd h (compact_append_ne (not_opens_bracket _) _ _)
    | cons other others =>
      have hi : compactItems (item :: rest) = compactItems (other :: others) := by
        simp only [compact, List.cons.injEq, true_and] at h
        simp only [compactItems, h]
      exact map_compact_of_compactItems hi

/-- Numbers of one text are one number, for the numbers of two lists. -/
def Apart (numbers others : List Number) : Prop :=
  ∀ n ∈ numbers, ∀ m ∈ others, n.text = m.text → n = m

theorem Apart.left {a b c d : List Number} (h : Apart (a ++ b) (c ++ d)) : Apart a c :=
  fun n hn m hm => h n (List.mem_append_left _ hn) m (List.mem_append_left _ hm)

theorem Apart.right {a b c d : List Number} (h : Apart (a ++ b) (c ++ d)) : Apart b d :=
  fun n hn m hm => h n (List.mem_append_right _ hn) m (List.mem_append_right _ hm)

mutual

theorem eq_of_compact : ∀ a b : Json, Apart a.numbers b.numbers → compact a = compact b → a = b
  | .null, b, _, h => by
    have hk := kind_of_compact h
    cases b <;> simp only [kind, reduceCtorEq] at hk
    rfl
  | .bool x, b, _, h => by
    have hx := asBool?_of_compact h
    have hk := kind_of_compact h
    cases b <;> simp only [kind, reduceCtorEq] at hk
    simpa [asBool?] using hx
  | .number n, b, ha, h => by
    have hk := kind_of_compact h
    cases b with
    | number m =>
      have ht : n.text = m.text := h
      rw [ha n (by simp [numbers]) m (by simp [numbers]) ht]
    | _ => simp [kind] at hk
  | .string s, b, _, h => by
    have hs := asString?_of_compact h
    have hk := kind_of_compact h
    cases b <;> simp only [kind, reduceCtorEq] at hk
    simpa [asString?] using hs
  | .array items, b, ha, h => by
    have hk := kind_of_compact h
    cases b with
    | array others =>
      rw [items_eq_of_compact items others (by simpa [numbers] using ha) (map_compact_of_compact h)]
    | _ => simp [kind] at hk
  | .object members, b, ha, h => by
    have hk := kind_of_compact h
    cases b with
    | object others =>
      rw [members_eq_of_written members others (by simpa [numbers] using ha) (written_of_compact h)]
    | _ => simp [kind] at hk

theorem items_eq_of_compact : ∀ items others : List Json,
    Apart (numbersOfItems items) (numbersOfItems others) →
      items.map compact = others.map compact → items = others
  | [], [], _, _ => rfl
  | [], _ :: _, _, h => by simp at h
  | _ :: _, [], _, h => by simp at h
  | item :: rest, other :: others, ha, h => by
    simp only [List.map_cons, List.cons.injEq] at h
    simp only [numbersOfItems] at ha
    rw [eq_of_compact item other ha.left h.1, items_eq_of_compact rest others ha.right h.2]

theorem members_eq_of_written : ∀ members others : Members,
    Apart (numbersOfMembers members) (numbersOfMembers others) →
      written members = written others → members = others
  | [], [], _, _ => rfl
  | [], _ :: _, _, h => by simp [written] at h
  | _ :: _, [], _, h => by simp [written] at h
  | (name, value) :: rest, (other, found) :: others, ha, h => by
    simp only [written, List.map_cons, List.cons.injEq, Prod.mk.injEq] at h
    obtain ⟨⟨hn, hc⟩, hr⟩ := h
    simp only [numbersOfMembers] at ha
    rw [hn, eq_of_compact value found ha.left hc, members_eq_of_written rest others ha.right hr]

end

/-- Among values whose numbers have texts of their own, each has a compact form of its own. -/
theorem compactText_injOn {values : Set Json}
    (h : Set.InjOn Number.text {n | ∃ value ∈ values, n ∈ value.numbers}) :
    Set.InjOn compactText values := by
  intro a ha b hb ht
  have apart : Apart a.numbers b.numbers := fun n hn m hm => h ⟨a, ha, hn⟩ ⟨b, hb, hm⟩
  exact eq_of_compact a b apart (compact_of_compactText ht)

end SiteDesk.Json
