import Mathlib.Data.Set.Card
import SiteDesk.Proofs.CacheTransparency

/-!
What the counters of a schema cache say. Every call to compile is counted once, as a hit or as a
miss. While there is room for all schemas and hashes do not collide, the calls alone decide which it
is: a hit if the definition was compiled before and the cache was not emptied since.
-/
namespace SiteDesk.Schema.Cache

variable {cache : Cache} {definition : Json} {operation : Operation}
  {operations : List Operation} {capacity : Nat} {hash : String}

def Hits (definition : Json) (cache : Cache) : Prop :=
  (cache.compile definition).2.hits = cache.hits + 1 ∧
    (cache.compile definition).2.misses = cache.misses

def Misses (definition : Json) (cache : Cache) : Prop :=
  (cache.compile definition).2.hits = cache.hits ∧
    (cache.compile definition).2.misses = cache.misses + 1

@[simp] theorem contains_iff :
    cache.contains definition = true ↔ definitionHash definition ∈ cache.entries :=
  Std.ExtTreeMap.contains_iff_mem

theorem compile_of_mem (h : definitionHash definition ∈ cache.entries) :
    (cache.compile definition).2 = { cache with hits := cache.hits + 1 } := by
  have found := Std.ExtTreeMap.getElem?_eq_some_getElem h
  simp only [compile, found]

theorem compile_of_not_mem (h : definitionHash definition ∉ cache.entries) :
    (cache.compile definition).2 =
      match Schema.compile definition with
      | .error _ => { cache with misses := cache.misses + 1 }
      | .ok schema =>
        { cache with misses := cache.misses + 1 }.keep (definitionHash definition) schema := by
  have unknown := Std.ExtTreeMap.getElem?_eq_none h
  simp only [compile, unknown]
  cases Schema.compile definition <;> rfl

theorem keep_eq (hash : String) (schema : Compiled) (cache : Cache) :
    cache.keep hash schema = { cache with entries := (cache.keep hash schema).entries } := by
  unfold keep
  split <;> rfl

theorem hits_of_mem (h : definitionHash definition ∈ cache.entries) : cache.Hits definition := by
  rw [Hits, compile_of_mem h]
  exact ⟨rfl, rfl⟩

theorem misses_of_not_mem (h : definitionHash definition ∉ cache.entries) :
    cache.Misses definition := by
  rw [Misses, compile_of_not_mem h]
  cases Schema.compile definition with
  | error e => exact ⟨rfl, rfl⟩
  | ok schema =>
    dsimp only
    rw [keep_eq]
    exact ⟨rfl, rfl⟩

@[simp] theorem hits_iff : cache.Hits definition ↔ definitionHash definition ∈ cache.entries := by
  refine ⟨fun hit => ?_, hits_of_mem⟩
  by_contra h
  have miss := (misses_of_not_mem h).1
  have := hit.1
  omega

@[simp] theorem misses_iff : cache.Misses definition ↔ definitionHash definition ∉ cache.entries := by
  refine ⟨fun miss h => ?_, misses_of_not_mem⟩
  have hit := (hits_of_mem h).1
  have := miss.1
  omega

theorem compile_capacity : (cache.compile definition).2.capacity = cache.capacity := by
  by_cases h : definitionHash definition ∈ cache.entries
  · rw [compile_of_mem h]
  · rw [compile_of_not_mem h]
    cases Schema.compile definition with
    | error e => rfl
    | ok schema =>
      dsimp only
      rw [keep_eq]

def Operation.isCompilation : Operation → Bool
  | .compile _ => true
  | _ => false

@[simp] theorem operated_concat (operations : List Operation) (operation : Operation) :
    cache.operated (operations ++ [operation]) = (cache.operated operations).operate operation := by
  simp [operated]

@[simp] theorem operate_capacity : (cache.operate operation).capacity = cache.capacity := by
  cases operation with
  | compile definition => exact compile_capacity
  | _ => rfl

@[simp] theorem operated_capacity : (cache.operated operations).capacity = cache.capacity := by
  induction operations using List.reverseRecOn with
  | nil => rfl
  | append_singleton operations operation ih => rw [operated_concat, operate_capacity, ih]

theorem count_operate :
    (cache.operate operation).hits + (cache.operate operation).misses =
      cache.hits + cache.misses + if operation.isCompilation then 1 else 0 := by
  cases operation with
  | compile definition =>
    change (cache.compile definition).2.hits + (cache.compile definition).2.misses = _ + 1
    by_cases h : definitionHash definition ∈ cache.entries
    · obtain ⟨hits, misses⟩ := hits_of_mem h
      omega
    · obtain ⟨hits, misses⟩ := misses_of_not_mem h
      omega
  | _ => rfl

theorem count_operated (cache : Cache) (operations : List Operation) :
    (cache.operated operations).hits + (cache.operated operations).misses =
      cache.hits + cache.misses + operations.countP Operation.isCompilation := by
  induction operations using List.reverseRecOn with
  | nil => rfl
  | append_singleton operations operation ih =>
    rw [operated_concat, count_operate, ih, List.countP_append, List.countP_singleton, add_assoc]

/-- A definition that compiles was compiled, and the cache was not emptied after that. -/
def Remembered (definition : Json) (operations : List Operation) : Prop :=
  (∃ schema, Schema.compile definition = .ok schema) ∧
    ∃ earlier later, operations = earlier ++ .compile definition :: later ∧
      .invalidateAll ∉ later

theorem not_remembered_nil : ¬ Remembered definition [] := by
  rintro ⟨-, earlier, later, h, -⟩
  simp at h

theorem remembered_concat :
    Remembered definition (operations ++ [operation]) ↔
      (operation = .compile definition ∧ ∃ schema, Schema.compile definition = .ok schema) ∨
        (operation ≠ .invalidateAll ∧ Remembered definition operations) := by
  constructor
  · rintro ⟨compiles, earlier, later, h, quiet⟩
    rcases List.eq_nil_or_concat' later with rfl | ⟨between, last, rfl⟩
    · exact .inl ⟨List.singleton_inj.1 (List.append_inj' h rfl).2, compiles⟩
    · rw [← List.cons_append, ← List.append_assoc] at h
      obtain ⟨rfl, same⟩ := List.append_inj' h rfl
      obtain rfl := List.singleton_inj.1 same
      rw [List.mem_append, List.mem_singleton, not_or] at quiet
      exact .inr ⟨Ne.symm quiet.2, compiles, earlier, between, rfl, quiet.1⟩
  · rintro (⟨rfl, compiles⟩ | ⟨kept, compiles, earlier, later, rfl, quiet⟩)
    · exact ⟨compiles, operations, [], rfl, List.not_mem_nil⟩
    · refine ⟨compiles, earlier, later ++ [operation], by simp, ?_⟩
      rw [List.mem_append, List.mem_singleton, not_or]
      exact ⟨quiet, kept.symm⟩

def compiledIn (operations : List Operation) : Set Json :=
  { definition | .compile definition ∈ operations }

theorem finite_compiledIn (operations : List Operation) : (compiledIn operations).Finite :=
  operations.finite_toSet.preimage fun _ _ _ _ h => Operation.compile.inj h

theorem compiledIn_subset (operations : List Operation) (operation : Operation) :
    compiledIn operations ⊆ compiledIn (operations ++ [operation]) :=
  fun _ h => List.mem_append_left _ h

theorem Remembered.mem_compiledIn (h : Remembered definition operations) :
    definition ∈ compiledIn operations := by
  obtain ⟨-, earlier, later, rfl, -⟩ := h
  exact List.mem_append_right _ List.mem_cons_self

/-- The cache holds the hashes of the definitions that are remembered, and no others. -/
def Tracks (operations : List Operation) (cache : Cache) : Prop :=
  ∀ hash, hash ∈ cache.entries ↔
    ∃ definition, definitionHash definition = hash ∧ Remembered definition operations

theorem ncard_entries (cache : Cache) :
    {hash | hash ∈ cache.entries}.ncard = cache.entries.size := by
  have keys : {hash | hash ∈ cache.entries} = (cache.entries.keys.toFinset : Set String) := by
    ext hash
    simp
  rw [keys, Set.ncard_coe_finset, List.toFinset_card_of_nodup Std.ExtTreeMap.nodup_keys,
    Std.ExtTreeMap.length_keys]

/-- A hash that is not held leaves room, if there is room for all definitions that are compiled. -/
theorem Tracks.size_lt (tracks : Tracks operations cache)
    (room : (compiledIn (operations ++ [.compile definition])).ncard ≤ cache.capacity)
    (h : definitionHash definition ∉ cache.entries) : cache.entries.size < cache.capacity := by
  have compiled : {hash | hash ∈ cache.entries} ⊂
      definitionHash '' compiledIn (operations ++ [.compile definition]) := by
    refine (Set.ssubset_iff_of_subset ?_).2 ⟨_, Set.mem_image_of_mem _ ?_, h⟩
    · intro hash held
      obtain ⟨other, rfl, remembered⟩ := (tracks hash).1 held
      exact Set.mem_image_of_mem _ (compiledIn_subset _ _ remembered.mem_compiledIn)
    · exact List.mem_append_right _ List.mem_cons_self
  have finite := finite_compiledIn (operations ++ [.compile definition])
  calc cache.entries.size
      = {hash | hash ∈ cache.entries}.ncard := (ncard_entries cache).symm
    _ < (definitionHash '' compiledIn (operations ++ [.compile definition])).ncard :=
        Set.ncard_lt_ncard compiled (finite.image _)
    _ ≤ (compiledIn (operations ++ [.compile definition])).ncard := Set.ncard_image_le finite
    _ ≤ cache.capacity := room

theorem mem_compile (room : definitionHash definition ∉ cache.entries →
      cache.entries.size < cache.capacity) :
    hash ∈ (cache.compile definition).2.entries ↔ hash ∈ cache.entries ∨
      (definitionHash definition = hash ∧ ∃ schema, Schema.compile definition = .ok schema) := by
  by_cases h : definitionHash definition ∈ cache.entries
  · rw [compile_of_mem h]
    exact ⟨.inl, fun held => held.elim id fun same => same.1 ▸ h⟩
  · rw [compile_of_not_mem h]
    cases Schema.compile definition with
    | error e => simp
    | ok schema => simp [keep, room h, Std.ExtTreeMap.mem_insert, or_comm]

theorem Tracks.operate (tracks : Tracks operations cache)
    (lasting : ∀ hash, operation ≠ .expiry hash)
    (room : (compiledIn (operations ++ [operation])).ncard ≤ cache.capacity) :
    Tracks (operations ++ [operation]) (cache.operate operation) := by
  intro hash
  simp only [remembered_concat]
  cases operation with
  | compile definition =>
    change hash ∈ (cache.compile definition).2.entries ↔ _
    rw [mem_compile (tracks.size_lt room), tracks hash]
    constructor
    -- the hash may be held already, for this definition or for one that collides with it
    · rintro (⟨other, same, remembered⟩ | ⟨same, compiles⟩)
      · exact ⟨other, same, .inr ⟨nofun, remembered⟩⟩
      · exact ⟨definition, same, .inl ⟨rfl, compiles⟩⟩
    · rintro ⟨other, same, ⟨called, compiles⟩ | ⟨-, remembered⟩⟩
      · obtain rfl := Operation.compile.inj called
        exact .inr ⟨same, compiles⟩
      · exact .inl ⟨other, same, remembered⟩
  | contains definition => simpa [Cache.operate] using tracks hash
  | invalidateAll => simp [Cache.operate, Cache.invalidateAll]
  | expiry key => exact absurd rfl (lasting key)

/-- The invariant of a run: induction on the calls from the last one back. -/
theorem tracks_operated (lasting : ∀ hash, .expiry hash ∉ operations)
    (room : (compiledIn operations).ncard ≤ capacity) :
    Tracks operations (operated operations { capacity }) := by
  induction operations using List.reverseRecOn with
  | nil =>
    intro hash
    simp [operated, not_remembered_nil]
  | append_singleton operations operation ih =>
    simp only [List.mem_append, not_or, List.mem_singleton, forall_and] at lasting
    have before : (compiledIn operations).ncard ≤ capacity :=
      (Set.ncard_le_ncard (compiledIn_subset _ _) (finite_compiledIn _)).trans room
    rw [operated_concat]
    refine (ih lasting.1 before).operate (fun hash h => lasting.2 hash h.symm) ?_
    rwa [operated_capacity]

/-- Where hashes do not collide, a definition is held exactly if it is remembered. -/
theorem mem_operated_iff (lasting : ∀ hash, .expiry hash ∉ operations)
    (apart : Set.InjOn definitionHash (insert definition (compiledIn operations)))
    (room : (compiledIn operations).ncard ≤ capacity) :
    definitionHash definition ∈ (operated operations { capacity }).entries ↔
      Remembered definition operations := by
  rw [tracks_operated lasting room]
  constructor
  · rintro ⟨other, same, remembered⟩
    have known := Set.mem_insert_of_mem definition remembered.mem_compiledIn
    rwa [apart known (Set.mem_insert _ _) same] at remembered
  · exact fun remembered => ⟨definition, rfl, remembered⟩

/-- The places of the calls to compile a definition that is remembered. -/
def served (operations : List Operation) : Set Nat :=
  { place | ∃ definition, operations[place]? = some (.compile definition) ∧
    Remembered definition (operations.take place) }

theorem lt_of_mem_served {place : Nat} (h : place ∈ served operations) :
    place < operations.length := by
  obtain ⟨definition, called, -⟩ := h
  exact (List.getElem?_eq_some_iff.1 called).1

theorem mem_served_concat {place : Nat} :
    place ∈ served (operations ++ [operation]) ↔ place ∈ served operations ∨
      (place = operations.length ∧
        ∃ definition, operation = .compile definition ∧ Remembered definition operations) := by
  rcases lt_trichotomy place operations.length with before | rfl | after
  · simp [served, List.getElem?_append_left before, List.take_append_of_le_length before.le,
      before.ne]
  · simp [served]
  · have beyond : (operations ++ [operation])[place]? = none :=
      List.getElem?_eq_none (by simpa using after)
    simp [served, beyond, after.le, after.ne']

theorem ncard_served_of_remembered (remembered : Remembered definition operations) :
    (served (operations ++ [.compile definition])).ncard = (served operations).ncard + 1 := by
  have more : served (operations ++ [.compile definition]) =
      insert operations.length (served operations) := by
    ext place
    rw [mem_served_concat, Set.mem_insert_iff, or_comm]
    exact or_congr_left (and_iff_left ⟨definition, rfl, remembered⟩)
  rw [more]
  exact Set.ncard_insert_of_notMem (fun h => absurd (lt_of_mem_served h) (lt_irrefl _))
    ((Set.finite_lt_nat _).subset fun _ h => lt_of_mem_served h)

theorem served_concat_of_not
    (unserved : ∀ definition, operation = .compile definition →
      ¬ Remembered definition operations) :
    served (operations ++ [operation]) = served operations := by
  ext place
  rw [mem_served_concat]
  refine or_iff_left ?_
  rintro ⟨-, definition, called, remembered⟩
  exact unserved definition called remembered

theorem hits_operated (lasting : ∀ hash, .expiry hash ∉ operations)
    (apart : Set.InjOn definitionHash (compiledIn operations))
    (room : (compiledIn operations).ncard ≤ capacity) :
    (operated operations { capacity }).hits = (served operations).ncard := by
  induction operations using List.reverseRecOn with
  | nil => simp [operated, served]
  | append_singleton operations operation ih =>
    have more := compiledIn_subset operations operation
    have earlier : ∀ hash, .expiry hash ∉ operations :=
      fun hash h => lasting hash (List.mem_append_left _ h)
    have before : (compiledIn operations).ncard ≤ capacity :=
      (Set.ncard_le_ncard more (finite_compiledIn _)).trans room
    have counted := ih earlier (apart.mono more) before
    rw [operated_concat]
    cases operation with
    | compile definition =>
      have called : insert definition (compiledIn operations) ⊆
          compiledIn (operations ++ [.compile definition]) :=
        Set.insert_subset (List.mem_append_right _ List.mem_cons_self) more
      have held := mem_operated_iff earlier (apart.mono called) before
      by_cases remembered : Remembered definition operations
      · rw [ncard_served_of_remembered remembered, ← counted]
        exact (hits_of_mem (held.2 remembered)).1
      · rw [served_concat_of_not fun _ h => Operation.compile.inj h ▸ remembered, ← counted]
        exact (misses_of_not_mem (held.not.2 remembered)).1
    | _ =>
      rw [served_concat_of_not fun _ h => by cases h]
      exact counted

theorem operated_of_no_room (empty : cache.entries = ∅) (full : cache.capacity = 0)
    (operations : List Operation) :
    (cache.operated operations).entries = ∅ ∧ (cache.operated operations).hits = cache.hits := by
  induction operations using List.reverseRecOn with
  | nil => exact ⟨empty, rfl⟩
  | append_singleton operations operation ih =>
    obtain ⟨bare, unhit⟩ := ih
    rw [operated_concat]
    cases operation with
    | compile definition =>
      have unknown : definitionHash definition ∉ (cache.operated operations).entries := by
        simp [bare]
      refine ⟨?_, (misses_of_not_mem unknown).1.trans unhit⟩
      change ((cache.operated operations).compile definition).2.entries = ∅
      rw [compile_of_not_mem unknown]
      cases Schema.compile definition with
      | error e => exact bare
      | ok schema => simp [keep, operated_capacity, full, bare]
    | contains definition => exact ⟨bare, unhit⟩
    | invalidateAll => exact ⟨rfl, unhit⟩
    | expiry hash => exact ⟨by simp [operate, bare], unhit⟩

/-- Hits and misses add up to the calls to compile, in every cache. As long as nothing expires,
hashes do not collide and there is room for all definitions that were compiled, a call is a hit
exactly if its definition is remembered, and so are the definitions that the cache contains. Without
any room every call is a miss. -/
theorem counters_exact (capacity : Nat) (operations : List Operation) :
    let cache := operated operations { capacity }
    cache.hits + cache.misses = operations.countP Operation.isCompilation ∧
    ((∀ hash, .expiry hash ∉ operations) → (compiledIn operations).ncard ≤ capacity →
      (Set.InjOn definitionHash (compiledIn operations) →
        cache.hits = (served operations).ncard) ∧
      ∀ definition, Set.InjOn definitionHash (insert definition (compiledIn operations)) →
        (cache.Hits definition ↔ Remembered definition operations) ∧
        (cache.Misses definition ↔ ¬ Remembered definition operations) ∧
        ((∀ schema, Schema.compile definition ≠ .ok schema) → cache.Misses definition) ∧
        (cache.contains definition = true ↔ Remembered definition operations) ∧
        cache.operate (.contains definition) = cache) ∧
    (capacity = 0 → cache.hits = 0 ∧ ∀ definition,
      cache.Misses definition ∧ cache.contains definition = false) := by
  intro cache
  refine ⟨?_, fun lasting room => ⟨fun apart => hits_operated lasting apart room, ?_⟩, ?_⟩
  · simpa using count_operated { capacity } operations
  · intro definition apart
    have held := mem_operated_iff lasting apart room
    refine ⟨hits_iff.trans held, misses_iff.trans held.not, ?_, contains_iff.trans held, rfl⟩
    rintro fails
    refine (misses_iff.trans held.not).2 ?_
    rintro ⟨⟨schema, compiles⟩, -⟩
    exact fails schema compiles
  · rintro rfl
    obtain ⟨bare, unhit⟩ : cache.entries = ∅ ∧ cache.hits = 0 :=
      operated_of_no_room rfl rfl operations
    have unknown (definition : Json) : definitionHash definition ∉ cache.entries := by
      simp [bare]
    refine ⟨unhit, fun definition => ⟨misses_of_not_mem (unknown definition), ?_⟩⟩
    exact Bool.eq_false_of_not_eq_true (contains_iff.not.2 (unknown definition))

/-- Emptied between two calls, a cache with room for two schemas knows only the later one: another
call would hit for it and miss for the earlier. -/
theorem counters_exact_two_schemas :
    let card := Json.object [("title", .string "string")]
    let note := Json.object [("text", .string "string")]
    let operations : List Operation :=
      [.compile note, .contains note, .invalidateAll, .compile card, .compile card]
    let cache := operated operations { capacity := 2 }
    Set.InjOn definitionHash {card, note} ∧ compiledIn operations = {card, note} ∧
      cache.hits + cache.misses = 3 ∧ cache.Hits card ∧ cache.Misses note := by
  intro card note operations cache
  have apart : Set.InjOn definitionHash {card, note} := by
    have : definitionHash card ≠ definitionHash note := by decide +kernel
    exact Set.injOn_pair.2 fun same => absurd same this
  have compiled : compiledIn operations = {card, note} := by
    ext definition
    simp [compiledIn, operations, or_comm]
  have room : (compiledIn operations).ncard ≤ 2 := by
    rw [compiled]
    exact (Set.ncard_insert_le _ _).trans_eq (by rw [Set.ncard_singleton])
  obtain ⟨counts, told, -⟩ := counters_exact 2 operations
  obtain ⟨-, told⟩ := told (by simp [operations]) room
  rw [compiled] at told
  have again : Remembered card operations :=
    ⟨⟨_, rfl⟩, [.compile note, .contains note, .invalidateAll, .compile card], [], rfl, by simp⟩
  have emptied : ¬ Remembered note operations := by
    have split : operations = [.compile note, .contains note] ++ [.invalidateAll] ++
      [.compile card] ++ [.compile card] := rfl
    rw [split]
    simp only [remembered_concat]
    simp [card, note]
  have called : operations.countP Operation.isCompilation = 3 := by rfl
  rw [called] at counts
  refine ⟨apart, compiled, counts, (told card ?_).1.2 again, (told note ?_).2.1.2 emptied⟩
  · rwa [Set.insert_eq_of_mem (by simp)]
  · rwa [Set.insert_eq_of_mem (by simp)]

end SiteDesk.Schema.Cache
