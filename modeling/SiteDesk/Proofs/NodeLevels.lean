import SiteDesk.Proofs.CompiledNodes

/-!
Which definitions compile. The nodes of a definition stand at levels: the root at level zero, each
member of a mapping one level below it, and so does what an array declares of its elements. A
definition that may stand at the root compiles exactly if no node in it stands deeper than the last
level that is allowed.
-/
namespace SiteDesk.Schema

variable {node inner definition : Json} {members : Json.Members} {level : Nat}
  {error : CompileError}

/-- One node stands right below another: as a member of a mapping, or under `items` where that says
something of the elements. An object with a string under `type`, or with `items`, is no mapping, and
its other members are no nodes. -/
inductive Below : Json → Json → Prop
  | member {members : Json.Members} {name : String} {node : Json}
      (untagged : ∀ tag, Keyed.get? "type" members ≠ some (.string tag))
      (plain : Keyed.get? "items" members = none) (declared : (name, node) ∈ members) :
      Below node (.object members)
  | items {members : Json.Members} {node : Json}
      (declared : Keyed.get? "items" members = some node) (stated : node ≠ .null)
      (nonempty : node ≠ .object []) : Below node (.object members)

/-- A node stands at a level of a definition. -/
inductive StandsAt (node : Json) : Nat → Json → Prop
  | root : StandsAt node 0 node
  | down {inner definition : Json} {level : Nat} (step : Below inner definition)
      (rest : StandsAt node level inner) : StandsAt node (level + 1) definition

/-- A node at a level has a node in it, maybe itself, that stands deeper than the last level. -/
def TooDeep (node : Json) (level : Nat) : Prop :=
  ∃ inner depth, StandsAt inner depth node ∧ maxDepth < level + depth

theorem isLeaf_eq_false_iff :
    isLeaf members = false ↔
      (∀ tag, Keyed.get? "type" members ≠ some (.string tag)) ∧
        Keyed.get? "items" members = none := by
  unfold isLeaf Keyed.contains
  cases Keyed.get? "items" members with
  | some items => simp
  | none =>
    cases Keyed.get? "type" members with
    | none => simp
    | some tag => cases tag <;> simp [Json.asString?]

theorem isOpen_eq_false_iff : isOpen node = false ↔ node ≠ .null ∧ node ≠ .object [] := by
  unfold isOpen
  split <;> simp_all

theorem Below.exists_members (below : Below inner node) : ∃ members, node = .object members := by
  cases below <;> exact ⟨_, rfl⟩

theorem Below.sizeOf_lt (below : Below inner node) : sizeOf inner < sizeOf node := by
  have smaller {members : Json.Members} {name : String} {node : Json}
      (declared : (name, node) ∈ members) : sizeOf node < sizeOf (Json.object members) := by
    have entry := List.sizeOf_lt_of_mem declared
    simp only [Prod.mk.sizeOf_spec, Json.object.sizeOf_spec] at entry ⊢
    omega
  cases below with
  | member _ _ declared => exact smaller declared
  | items declared => exact smaller (Keyed.mem_of_get? declared)

theorem wellFounded_below : WellFounded Below :=
  Subrelation.wf Below.sizeOf_lt (measure sizeOf).wf

theorem below_mapping_iff (mapping : isLeaf members = false) :
    Below inner (.object members) ↔ ∃ entry ∈ members, entry.2 = inner := by
  obtain ⟨untagged, plain⟩ := isLeaf_eq_false_iff.1 mapping
  constructor
  · intro below
    cases below with
    | member _ _ declared => exact ⟨_, declared, rfl⟩
    | items declared => cases plain.symm.trans declared
  · rintro ⟨entry, declared, rfl⟩
    exact .member untagged plain declared

theorem below_leaf_iff (leaf : isLeaf members = true) :
    Below inner (.object members) ↔
      Keyed.get? "items" members = some inner ∧ isOpen inner = false := by
  rw [isOpen_eq_false_iff]
  constructor
  · intro below
    cases below with
    | member untagged plain =>
      rw [isLeaf_eq_false_iff.2 ⟨untagged, plain⟩] at leaf
      cases leaf
    | items declared stated nonempty => exact ⟨declared, stated, nonempty⟩
  · rintro ⟨declared, stated, nonempty⟩
    exact .items declared stated nonempty

theorem below_items (declared : Keyed.get? "items" members = some inner)
    (closed : isOpen inner = false) : Below inner (.object members) :=
  .items declared (isOpen_eq_false_iff.1 closed).1 (isOpen_eq_false_iff.1 closed).2

theorem tooDeep_iff :
    TooDeep node level ↔
      maxDepth < level ∨ ∃ inner, Below inner node ∧ TooDeep inner (level + 1) := by
  constructor
  · rintro ⟨inner, depth, stands, deep⟩
    cases stands with
    | root => exact .inl deep
    | down step rest => exact .inr ⟨_, step, inner, _, rest, by omega⟩
  · rintro (deep | ⟨next, step, inner, depth, stands, deep⟩)
    · exact ⟨node, 0, .root, deep⟩
    · exact ⟨inner, depth + 1, .down step stands, by omega⟩

theorem tooDeep_mapping_iff (allowed : level ≤ maxDepth) (mapping : isLeaf members = false) :
    TooDeep (.object members) level ↔ ∃ entry ∈ members, TooDeep entry.2 (level + 1) := by
  rw [tooDeep_iff, or_iff_right (Nat.not_lt.2 allowed)]
  simp only [below_mapping_iff mapping]
  constructor
  · rintro ⟨_, ⟨entry, declared, rfl⟩, deep⟩
    exact ⟨entry, declared, deep⟩
  · rintro ⟨entry, declared, deep⟩
    exact ⟨entry.2, ⟨entry, declared, rfl⟩, deep⟩

theorem tooDeep_leaf_iff (allowed : level ≤ maxDepth) (leaf : isLeaf members = true) :
    TooDeep (.object members) level ↔
      ∃ node, Keyed.get? "items" members = some node ∧ isOpen node = false ∧
        TooDeep node (level + 1) := by
  rw [tooDeep_iff, or_iff_right (Nat.not_lt.2 allowed)]
  simp only [below_leaf_iff leaf, and_assoc]

theorem not_tooDeep (allowed : level ≤ maxDepth) (plain : ∀ members, node ≠ .object members) :
    ¬TooDeep node level := by
  rw [tooDeep_iff]
  rintro (deep | ⟨inner, step, -⟩)
  · exact Nat.not_lt.2 allowed deep
  · obtain ⟨members, rfl⟩ := step.exists_members
    exact plain members rfl

mutual

/-- A node fails to compile exactly if a node in it stands too deep, and for no other reason. -/
theorem compileNode_error_iff (node : Json) (level : Nat) (path : List String)
    (error : CompileError) :
    compileNode node level path = .error error ↔ error = .tooDeep ∧ TooDeep node level := by
  by_cases deep : maxDepth < level
  · have here : TooDeep node level := tooDeep_iff.2 (.inl deep)
    simp [compileNode_of_deep deep, here, eq_comm]
  have allowed := Nat.not_lt.1 deep
  cases node with
  | object members =>
    cases hl : isLeaf members with
    | false =>
      rw [compileNode_mapping allowed hl, tooDeep_mapping_iff allowed hl,
        ← compileFields_error_iff members level path]
      cases compileFields members level path <;> simp [Except.map]
    | true =>
      rw [tooDeep_leaf_iff allowed hl]
      cases ha : declaresArray members with
      | true =>
        rw [compileNode_list allowed hl ha, ← compileItems_error_iff members level path]
        cases compileItems members level path <;> simp [Except.map]
      | false =>
        have plain : Keyed.get? "items" members = none := by
          simpa [Keyed.contains] using (Bool.or_eq_false_iff.1 ha).1
        simp [compileNode_long allowed hl ha, plain]
  | null => simp [compileNode_null allowed, not_tooDeep allowed]
  | string tag => simp [compileNode_string allowed, not_tooDeep allowed]
  | _ => simp [compileNode_stray allowed path, Json.kind, not_tooDeep allowed]

theorem compileItems_error_iff (members : List (String × Json)) (level : Nat) (path : List String)
    (error : CompileError) :
    compileItems members level path = .error error ↔
      error = .tooDeep ∧ ∃ node, Keyed.get? "items" members = some node ∧ isOpen node = false ∧
        TooDeep node (level + 1) := by
  cases members with
  | nil => simp [compileItems, Keyed.get?]
  | cons entry rest =>
    obtain ⟨name, node⟩ := entry
    unfold compileItems
    by_cases hn : name = "items"
    · cases ho : isOpen node with
      | true => simp [Keyed.get?, hn, ho]
      | false => simp [Keyed.get?, hn, ho, compileNode_error_iff node]
    · simp [Keyed.get?, hn, compileItems_error_iff rest]

theorem compileFields_error_iff (members : List (String × Json)) (level : Nat)
    (path : List String) (error : CompileError) :
    compileFields members level path = .error error ↔
      error = .tooDeep ∧ ∃ entry ∈ members, TooDeep entry.2 (level + 1) := by
  cases members with
  | nil => simp [compileFields]
  | cons entry rest =>
    obtain ⟨name, node⟩ := entry
    have first := compileNode_error_iff node (level + 1) (path ++ [name])
    have later := compileFields_error_iff rest level path
    rw [compileFields_cons]
    -- The first member that fails ends the walk. It does not matter which, since all fail alike.
    cases hn : compileNode node (level + 1) (path ++ [name]) with
    | error earlier =>
      obtain ⟨rfl, deep⟩ := (first earlier).1 hn
      simp [Except.bind, deep, eq_comm]
    | ok compiled =>
      have shallow : ¬TooDeep node (level + 1) := by
        intro deep
        cases hn.symm.trans ((first .tooDeep).2 ⟨rfl, deep⟩)
      have ih := later error
      cases hr : compileFields rest level path <;>
        simpa [Except.bind, Except.map, hr, shallow] using ih

end

@[simp] theorem isRoot_eq_false_iff :
    isRoot definition = false ↔
      definition.kind ∈ [Json.Kind.null, .boolean, .number, .array] := by
  unfold isRoot
  cases definition.kind <;> decide

theorem compile_error_iff :
    compile definition = .error error ↔
      isRoot definition = false ∧ error = .notAnObject definition.kind ∨
        isRoot definition = true ∧ error = .tooDeep ∧ TooDeep definition 0 := by
  cases hr : isRoot definition with
  | false => simp [compile, hr, eq_comm]
  | true =>
    rw [compile_of_isRoot hr, ← compileNode_error_iff definition 0 []]
    cases compileNode definition 0 [] <;> simp [Except.map]

theorem exists_compile_iff :
    (∃ schema, compile definition = .ok schema) ↔
      isRoot definition = true ∧ ¬TooDeep definition 0 := by
  constructor
  · rintro ⟨schema, compiled⟩
    have root := (compile_eq_ok_iff.1 compiled).1
    refine ⟨root, fun deep => ?_⟩
    cases compiled.symm.trans (compile_error_iff.2 (.inr ⟨root, rfl, deep⟩))
  · rintro ⟨root, shallow⟩
    cases hc : compile definition with
    | ok schema => exact ⟨schema, rfl⟩
    | error error =>
      rcases compile_error_iff.1 hc with ⟨stray, -⟩ | ⟨-, -, deep⟩
      · cases root.symm.trans stray
      · exact absurd deep shallow

@[simp] theorem compile?_eq_some_iff {schema : Compiled} :
    compile? definition = some schema ↔ compile definition = .ok schema := by
  unfold compile?
  cases compile definition <;> simp [Except.toOption]

/-- A definition is refused as a root exactly if it is null, a boolean, a number or an array. Any
other one fails to compile exactly if a node in it stands deeper than level 64. -/
theorem compilation_decided (definition : Json) :
    (∀ found, compile definition = .error (.notAnObject found) ↔
      definition.kind ∈ [Json.Kind.null, .boolean, .number, .array] ∧ found = definition.kind) ∧
    (compile definition = .error .tooDeep ↔
      definition.kind ∉ [Json.Kind.null, .boolean, .number, .array] ∧
        ∃ node level, StandsAt node level definition ∧ 64 < level) ∧
    ((∃ schema, compile definition = .ok schema) ↔
      definition.kind ∉ [Json.Kind.null, .boolean, .number, .array] ∧
        ∀ node level, StandsAt node level definition → level ≤ 64) ∧
    ∀ schema, compile? definition = some schema ↔ compile definition = .ok schema := by
  have deep_iff : TooDeep definition 0 ↔
      ∃ node level, StandsAt node level definition ∧ 64 < level := by
    simp [TooDeep, maxDepth]
  have shallow_iff : ¬TooDeep definition 0 ↔
      ∀ node level, StandsAt node level definition → level ≤ 64 := by
    simp [deep_iff]
  rw [← deep_iff, ← shallow_iff, exists_compile_iff, ← isRoot_eq_false_iff, Bool.not_eq_false]
  exact ⟨fun found => by simp [compile_error_iff], by simp [compile_error_iff], Iff.rfl,
    fun schema => compile?_eq_some_iff⟩

/-- A null inside sixty-four mappings stands at the last level. -/
example :
    let nested := Nat.repeat fun node => Json.object [("a", node)]
    (compile? (nested 64 .null)).isSome = true ∧ (compile? (nested 65 .null)).isSome = false := by
  decide +kernel

end SiteDesk.Schema
