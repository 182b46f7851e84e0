import SiteDesk.Schema.Definition

/-!
One equation for each form of node, as long as its level is allowed: what it compiles to is told by
what the nodes inside it compile to. A definition that may stand at the root compiles to what its
root compiles to, under a wrapper field where the root declares no fields.
-/
namespace SiteDesk.Schema

variable {node definition : Json} {members : Json.Members} {level : Nat} {path : List String}
  {name : String} {compiled : Node} {schema : Compiled}

@[simp] theorem leafNode_fst (kind : Primitive) (optional : Bool) (path : List String) :
    (leafNode kind optional path).1 = .primitive kind optional := by
  cases kind <;> rfl

@[simp] theorem compileNode_of_deep (h : maxDepth < level) (node : Json) (path : List String) :
    compileNode node level path = .error .tooDeep := by
  unfold compileNode
  rw [if_pos h]

@[simp] theorem compileNode_string (h : level ≤ maxDepth) (tag : String) (path : List String) :
    compileNode (.string tag) level path = .ok (tagNode tag.toList false path) := by
  unfold compileNode
  rw [if_neg (Nat.not_lt.2 h)]

@[simp] theorem compileNode_null (h : level ≤ maxDepth) (path : List String) :
    compileNode .null level path = .ok (.any, []) := by
  unfold compileNode
  rw [if_neg (Nat.not_lt.2 h)]

theorem compileNode_stray (h : level ≤ maxDepth) (path : List String)
    (hk : node.kind = .boolean ∨ node.kind = .number ∨ node.kind = .array) :
    compileNode node level path = .ok (strayNode node path) := by
  unfold compileNode
  rw [if_neg (Nat.not_lt.2 h)]
  cases node <;> simp_all [Json.kind]

@[simp] theorem compileNode_long (h : level ≤ maxDepth) (hl : isLeaf members = true)
    (ha : declaresArray members = false) :
    compileNode (.object members) level path =
      .ok (tagNode (declaredTag members) (declaredOptional members) path) := by
  unfold compileNode
  simp [Nat.not_lt.2 h, hl, ha]

theorem compileNode_list (h : level ≤ maxDepth) (hl : isLeaf members = true)
    (ha : declaresArray members = true) :
    compileNode (.object members) level path =
      (compileItems members level path).map fun found =>
        (.array found.1 (arrayOptional members), found.2) := by
  unfold compileNode
  simp only [Nat.not_lt.2 h, hl, ha, if_false, if_true]
  cases compileItems members level path <;> rfl

@[simp] theorem compileNode_mapping (h : level ≤ maxDepth) (hl : isLeaf members = false) :
    compileNode (.object members) level path =
      (compileFields members level path).map fun found => (.object found.1 false, found.2) := by
  unfold compileNode
  simp only [Nat.not_lt.2 h, hl, if_false, Bool.false_eq_true]
  cases compileFields members level path <;> rfl

theorem compileItems_eq (members : Json.Members) (level : Nat) (path : List String) :
    compileItems members level path =
      match Keyed.get? "items" members with
      | some node =>
        if isOpen node then .ok (.any, [])
        else compileNode node (level + 1) (path ++ [elementSegment])
      | none => .ok (.any, []) := by
  induction members with
  | nil => rfl
  | cons entry rest ih =>
    obtain ⟨name, node⟩ := entry
    by_cases hn : name = "items"
    · simp [compileItems, Keyed.get?, hn]
    · simpa [compileItems, Keyed.get?, hn] using ih

theorem compileFields_cons (name : String) (node : Json) (rest : List (String × Json)) (level : Nat)
    (path : List String) :
    compileFields ((name, node) :: rest) level path =
      (compileNode node (level + 1) (path ++ [name])).bind fun first =>
        (compileFields rest level path).map fun later =>
          ((name, first.1) :: later.1, first.2 ++ later.2) := by
  rw [compileFields]
  cases compileNode node (level + 1) (path ++ [name]) with
  | error e => rfl
  | ok first => cases compileFields rest level path <;> rfl

theorem allowed_of_compileNode (h : compileNode node level path = .ok compiled) :
    level ≤ maxDepth := by
  refine Nat.not_lt.1 fun deep => ?_
  rw [compileNode_of_deep deep] at h
  cases h

theorem mapping_of_compileNode (h : compileNode (.object members) level path = .ok compiled)
    (hl : isLeaf members = false) :
    ∃ found, compileFields members level path = .ok found ∧
      compiled = (.object found.1 false, found.2) := by
  rw [compileNode_mapping (allowed_of_compileNode h) hl] at h
  cases hf : compileFields members level path with
  | error e => simp [hf, Except.map] at h
  | ok found =>
    rw [hf] at h
    cases h
    exact ⟨found, rfl, rfl⟩

theorem list_of_compileNode (h : compileNode (.object members) level path = .ok compiled)
    (hl : isLeaf members = true) (ha : declaresArray members = true) :
    ∃ found, compileItems members level path = .ok found ∧
      compiled = (.array found.1 (arrayOptional members), found.2) := by
  rw [compileNode_list (allowed_of_compileNode h) hl ha] at h
  cases hi : compileItems members level path with
  | error e => simp [hi, Except.map] at h
  | ok found =>
    rw [hi] at h
    cases h
    exact ⟨found, rfl, rfl⟩

theorem cons_of_compileFields {rest : List (String × Json)}
    {found : List (String × Validator) × List UnknownTag}
    (h : compileFields ((name, node) :: rest) level path = .ok found) :
    ∃ first later, compileNode node (level + 1) (path ++ [name]) = .ok first ∧
      compileFields rest level path = .ok later ∧
      found = ((name, first.1) :: later.1, first.2 ++ later.2) := by
  rw [compileFields_cons] at h
  cases hn : compileNode node (level + 1) (path ++ [name]) with
  | error e => simp [hn, Except.bind] at h
  | ok first =>
    cases hr : compileFields rest level path with
    | error e => simp [hn, hr, Except.bind, Except.map] at h
    | ok later =>
      rw [hn, hr] at h
      cases h
      exact ⟨first, later, rfl, rfl, rfl⟩

theorem get?_of_compileFields {found : List (String × Validator) × List UnknownTag}
    (h : compileFields members level path = .ok found)
    (hg : Keyed.get? name members = some node) :
    ∃ field, compileNode node (level + 1) (path ++ [name]) = .ok field ∧
      Keyed.get? name found.1 = some field.1 := by
  induction members generalizing found with
  | nil => simp [Keyed.get?] at hg
  | cons entry rest ih =>
    obtain ⟨key, other⟩ := entry
    obtain ⟨first, later, hn, hr, rfl⟩ := cons_of_compileFields h
    by_cases hk : key = name
    · subst hk
      obtain rfl : other = node := by simpa [Keyed.get?] using hg
      exact ⟨first, hn, by simp [Keyed.get?]⟩
    · simp only [Keyed.get?, hk, if_false] at hg ⊢
      exact ih hr hg

theorem compile_of_isRoot (h : isRoot definition = true) :
    compile definition = (compileNode definition 0 []).map Compiled.ofRoot := by
  unfold compile
  rw [if_pos h]
  cases compileNode definition 0 [] <;> rfl

theorem compile_eq_ok_iff :
    compile definition = .ok schema ↔
      isRoot definition = true ∧
        ∃ root, compileNode definition 0 [] = .ok root ∧ Compiled.ofRoot root = schema := by
  cases hr : isRoot definition with
  | false => simp [compile, hr]
  | true =>
    rw [compile_of_isRoot hr]
    cases compileNode definition 0 [] <;> simp [Except.map]

end SiteDesk.Schema
