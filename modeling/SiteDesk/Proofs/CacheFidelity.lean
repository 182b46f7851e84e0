import Mathlib.Data.Set.Function
import SiteDesk.Proofs.CompactForm
import SiteDesk.Proofs.Handling

/-!
The schema cache as a stand-in for the compiler. It knows a definition by the hash of its compact
form alone. A form determines what its definition compiles to, so a cache that has only seen
definitions whose forms do not collide answers as the compiler would.
-/
namespace SiteDesk

namespace Json

def written (members : Members) : List (String × List Char) :=
  members.map fun entry => (entry.1, compact entry.2)

theorem compact_of_compactText {a b : Json} (h : a.compactText = b.compactText) :
    compact a = compact b := by
  simpa [compactText] using congrArg String.toList h

theorem kind_of_compact {a b : Json} (h : compact a = compact b) : a.kind = b.kind :=
  kind_of_compact_append (congrArg (· ++ []) h)

theorem written_of_compactMembers {members others : Members}
    (h : compactMembers members = compactMembers others) : written members = written others := by
  induction members generalizing others with
  | nil =>
    cases others with
    | nil => rfl
    | cons other others => simp [compactMembers] at h
  | cons entry rest ih =>
    obtain ⟨name, value⟩ := entry
    cases others with
    | nil => simp [compactMembers] at h
    | cons other others =>
      obtain ⟨other, found⟩ := other
      simp only [compactMembers, List.cons.injEq, true_and] at h
      obtain ⟨hn, ht⟩ := quote_append h
      obtain ⟨hv, hm⟩ := delimited value found (by simpa using stops_compactMembers rest [])
        (by simpa using stops_compactMembers others []) (List.cons.inj ht).2
      have hr : written rest = written others := ih hm
      simp only [written, List.map_cons] at hr ⊢
      rw [hn, hv, hr]

/-- The form of an object tells the names of its members and the forms of their values. -/
theorem written_of_compact {members others : Members}
    (h : compact (.object members) = compact (.object others)) :
    written members = written others := by
  cases members with
  | nil =>
    cases others with
    | nil => rfl
    | cons other others => simp [compact, quote] at h
  | cons entry rest =>
    obtain ⟨name, value⟩ := entry
    cases others with
    | nil => simp [compact, quote] at h
    | cons other others =>
      obtain ⟨other, found⟩ := other
      have hm : compactMembers ((name, value) :: rest) =
          compactMembers ((other, found) :: others) := by
        simp only [compact, List.cons.injEq, true_and] at h
        simp only [compactMembers, h]
      exact written_of_compactMembers hm

theorem get?_written (name : String) (members : Members) :
    Keyed.get? name (written members) = (Keyed.get? name members).map compact := by
  induction members with
  | nil => rfl
  | cons entry rest ih =>
    obtain ⟨key, value⟩ := entry
    by_cases hk : key = name
    · simp [written, Keyed.get?, hk]
    · simpa [written, Keyed.get?, hk] using ih

section Forms

variable {a b : Json}

theorem asString?_of_compact (h : compact a = compact b) : a.asString? = b.asString? := by
  have hk := kind_of_compact h
  cases a <;> cases b <;> simp only [kind, reduceCtorEq] at hk <;> try rfl
  simp only [compact] at h
  have hs := quote_append (congrArg (· ++ []) h)
  simp [asString?, hs.1]

theorem asBool?_of_compact (h : compact a = compact b) : a.asBool? = b.asBool? := by
  have hk := kind_of_compact h
  cases a <;> cases b <;> simp only [kind, reduceCtorEq] at hk <;> try rfl
  rename_i x y
  cases x <;> cases y <;> simp_all [compact]

end Forms

theorem bind_get?_of_written {β : Type} {read : Json → Option β} {members others : Members}
    (hr : ∀ a b, compact a = compact b → read a = read b) (h : written members = written others)
    (name : String) : (Keyed.get? name members).bind read = (Keyed.get? name others).bind read := by
  have hg := congrArg (Keyed.get? name) h
  rw [get?_written, get?_written] at hg
  cases hm : Keyed.get? name members <;> cases ho : Keyed.get? name others <;>
    simp only [hm, ho, Option.map_none, Option.map_some, reduceCtorEq, Option.some.injEq] at hg
  · rfl
  · exact hr _ _ hg

theorem contains_of_written {members others : Members} (h : written members = written others)
    (name : String) : Keyed.contains name members = Keyed.contains name others := by
  have hg := congrArg (fun entries => (Keyed.get? name entries).isSome) h
  simpa [Keyed.contains, get?_written] using hg

end Json

namespace Schema

open Json

section Members

variable {members others : Members}

theorem isLeaf_of_written (h : written members = written others) :
    isLeaf members = isLeaf others := by
  unfold isLeaf
  rw [bind_get?_of_written (fun _ _ => asString?_of_compact) h, contains_of_written h]

theorem declaredTag_of_written (h : written members = written others) :
    declaredTag members = declaredTag others := by
  unfold declaredTag
  rw [bind_get?_of_written (fun _ _ => asString?_of_compact) h]

theorem declaredOptional_of_written (h : written members = written others) :
    declaredOptional members = declaredOptional others := by
  unfold declaredOptional
  rw [bind_get?_of_written (fun _ _ => asBool?_of_compact) h]

theorem declaresArray_of_written (h : written members = written others) :
    declaresArray members = declaresArray others := by
  unfold declaresArray
  rw [contains_of_written h, declaredTag_of_written h]

theorem arrayOptional_of_written (h : written members = written others) :
    arrayOptional members = arrayOptional others := by
  unfold arrayOptional
  rw [declaredOptional_of_written h, declaredTag_of_written h]

end Members

theorem isOpen_of_compact {a b : Json} (h : compact a = compact b) : isOpen a = isOpen b := by
  have hk := kind_of_compact h
  cases a <;> cases b <;> simp only [kind, reduceCtorEq] at hk <;> try rfl
  rename_i members others
  have hw := congrArg List.length (written_of_compact h)
  simp only [written, List.length_map] at hw
  cases members <;> cases others <;> simp [isOpen] at hw ⊢

theorem strayNode_of_compact {a b : Json} (h : compact a = compact b) (path : List String) :
    strayNode a path = strayNode b path := by
  unfold strayNode compactText
  rw [h]

mutual

theorem compileNode_of_compact : ∀ (a b : Json) (level : Nat) (path : List String),
    compact a = compact b → compileNode a level path = compileNode b level path
  | .null, b, level, path, h => by
    have hk := kind_of_compact h
    cases b <;> simp only [kind, reduceCtorEq] at hk
    rfl
  | .bool x, b, level, path, h => by
    have hk := kind_of_compact h
    cases b <;> simp only [kind, reduceCtorEq] at hk
    simp only [compileNode, strayNode_of_compact h]
  | .number n, b, level, path, h => by
    have hk := kind_of_compact h
    cases b <;> simp only [kind, reduceCtorEq] at hk
    simp only [compileNode, strayNode_of_compact h]
  | .string s, b, level, path, h => by
    have hs := asString?_of_compact h
    have hk := kind_of_compact h
    cases b <;> simp only [kind, reduceCtorEq] at hk
    simp only [asString?, Option.some.injEq] at hs
    rw [hs]
  | .array items, b, level, path, h => by
    have hk := kind_of_compact h
    cases b <;> simp only [kind, reduceCtorEq] at hk
    simp only [compileNode, strayNode_of_compact h]
  | .object members, b, level, path, h => by
    have hk := kind_of_compact h
    cases b with
    | object others =>
      have hw := written_of_compact h
      simp only [compileNode, isLeaf_of_written hw, declaresArray_of_written hw,
        arrayOptional_of_written hw, declaredTag_of_written hw, declaredOptional_of_written hw,
        compileItems_of_written members others level path hw,
        compileFields_of_written members others level path hw]
    | _ => simp [kind] at hk

theorem compileItems_of_written : ∀ (members others : Members) (level : Nat) (path : List String),
    written members = written others →
      compileItems members level path = compileItems others level path
  | [], [], level, path, _ => rfl
  | [], _ :: _, level, path, h => by simp [written] at h
  | _ :: _, [], level, path, h => by simp [written] at h
  | (name, node) :: rest, (other, found) :: others, level, path, h => by
    simp only [written, List.map_cons, List.cons.injEq, Prod.mk.injEq] at h
    obtain ⟨⟨hn, hc⟩, hr⟩ := h
    simp only [compileItems, hn, isOpen_of_compact hc, compileNode_of_compact node found _ _ hc,
      compileItems_of_written rest others level path hr]

theorem compileFields_of_written : ∀ (members others : Members) (level : Nat)
    (path : List String), written members = written others →
      compileFields members level path = compileFields others level path
  | [], [], level, path, _ => rfl
  | [], _ :: _, level, path, h => by simp [written] at h
  | _ :: _, [], level, path, h => by simp [written] at h
  | (name, node) :: rest, (other, found) :: others, level, path, h => by
    simp only [written, List.map_cons, List.cons.injEq, Prod.mk.injEq] at h
    obtain ⟨⟨hn, hc⟩, hr⟩ := h
    simp only [compileFields, hn, compileNode_of_compact node found _ _ hc,
      compileFields_of_written rest others level path hr]

end

/-- Definitions with one compact form compile to one schema. -/
theorem compile_of_compactText {a b : Json} (h : a.compactText = b.compactText) :
    compile a = compile b := by
  have hc := compact_of_compactText h
  unfold compile isRoot
  rw [compileNode_of_compact a b 0 [] hc, kind_of_compact hc]

namespace Cache

/-- No two of the definitions have one hash, unless they have one form. -/
def NoCollision (definitions : Set Json) : Prop :=
  Set.InjOn Blake3.hexHash (Json.compactText '' definitions)

/-- For each of the definitions, the cache holds its own schema or none. -/
def Faithful (definitions : Set Json) (cache : Cache) : Prop :=
  ∀ definition ∈ definitions, ∀ schema,
    cache.entries[definitionHash definition]? = some schema → Schema.compile definition = .ok schema

variable {definitions : Set Json} {cache : Cache} {definition : Json}

theorem faithful_of_entries_eq_empty (h : cache.entries = ∅) : Faithful definitions cache := by
  intro definition _ schema hs
  simp [h] at hs

theorem compile_eq_of_hash (hn : NoCollision definitions) {other : Json}
    (hd : definition ∈ definitions) (ho : other ∈ definitions)
    (h : definitionHash definition = definitionHash other) :
    Schema.compile definition = Schema.compile other := by
  have ht : definition.compactText = other.compactText :=
    hn (Set.mem_image_of_mem _ hd) (Set.mem_image_of_mem _ ho) h
  exact compile_of_compactText ht

theorem Faithful.expired (h : Faithful definitions cache) (hash : String) :
    Faithful definitions { cache with entries := cache.entries.erase hash } := by
  intro definition hd schema hs
  rw [Std.ExtTreeMap.getElem?_erase] at hs
  split at hs
  · cases hs
  · exact h definition hd schema hs

theorem Faithful.compile_fst (h : Faithful definitions cache) (hd : definition ∈ definitions) :
    (cache.compile definition).1 = Schema.compile definition := by
  unfold compile
  dsimp only
  cases he : cache.entries[definitionHash definition]? with
  | some schema => exact (h definition hd schema he).symm
  | none =>
    cases Schema.compile definition <;> rfl

theorem Faithful.keep (hn : NoCollision definitions) (h : Faithful definitions cache)
    (hd : definition ∈ definitions) {schema : Compiled}
    (hs : Schema.compile definition = .ok schema) :
    Faithful definitions (cache.keep (definitionHash definition) schema) := by
  intro other ho found hf
  unfold Cache.keep at hf
  split at hf
  · by_cases hh : definitionHash definition = definitionHash other
    · simp only [hh, Std.ExtTreeMap.getElem?_insert_self, Option.some.injEq] at hf
      rw [← hf, ← hs]
      exact compile_eq_of_hash hn ho hd hh.symm
    · rw [Std.ExtTreeMap.getElem?_insert, if_neg (by simpa using hh)] at hf
      exact h other ho found hf
  · exact h other ho found hf

theorem Faithful.compile_snd (hn : NoCollision definitions) (h : Faithful definitions cache)
    (hd : definition ∈ definitions) : Faithful definitions (cache.compile definition).2 := by
  have hm : Faithful definitions { cache with misses := cache.misses + 1 } := h
  unfold compile
  dsimp only
  cases he : cache.entries[definitionHash definition]? with
  | some schema => exact h
  | none =>
    cases hs : Schema.compile definition with
    | error e => exact hm
    | ok schema => exact hm.keep hn hd hs

theorem Faithful.after (hn : NoCollision definitions) (h : Faithful definitions cache)
    {compiled : List Json} (hc : ∀ definition ∈ compiled, definition ∈ definitions) :
    Faithful definitions (cache.after compiled) := by
  induction compiled generalizing cache with
  | nil => exact h
  | cons definition rest ih =>
    rw [after_cons]
    exact ih (h.compile_snd hn (hc definition (by simp)))
      fun other ho => hc other (List.mem_cons_of_mem _ ho)

end Cache

end Schema

end SiteDesk
