/-!
Lists of named values, the form of a JSON object: names ascend in code point order and each
occurs once. Reading and writing by name obey their laws on every list; writing also keeps an
ascending list ascending.
-/
namespace SiteDesk.Keyed

variable {α : Type}

def get? (name : String) : List (String × α) → Option α
  | [] => none
  | (key, value) :: rest => if key = name then some value else get? name rest

def contains (name : String) (entries : List (String × α)) : Bool :=
  (get? name entries).isSome

def replace (name : String) (value : α) : List (String × α) → List (String × α)
  | [] => []
  | (key, old) :: rest =>
    if key = name then (name, value) :: rest else (key, old) :: replace name value rest

def place (name : String) (value : α) : List (String × α) → List (String × α)
  | [] => [(name, value)]
  | (key, old) :: rest =>
    if name < key then (name, value) :: (key, old) :: rest
    else (key, old) :: place name value rest

def set (name : String) (value : α) (entries : List (String × α)) : List (String × α) :=
  if contains name entries then replace name value entries else place name value entries

def erase (name : String) (entries : List (String × α)) : List (String × α) :=
  entries.filter fun entry => entry.1 ≠ name

/-- Writes the entries one after the other, so that the last value of a name stays. -/
def ofList (entries : List (String × α)) : List (String × α) :=
  entries.foldl (fun written entry => set entry.1 entry.2 written) []

def Ascending (entries : List (String × α)) : Prop :=
  entries.Pairwise fun a b => a.1 < b.1

theorem get?_replace_self (name : String) (value : α) (entries : List (String × α)) :
    get? name (replace name value entries) = (get? name entries).map fun _ => value := by
  induction entries with
  | nil => rfl
  | cons entry rest ih =>
    obtain ⟨key, old⟩ := entry
    by_cases h : key = name <;> simp [replace, get?, h, ih]

theorem get?_replace_of_ne {name other : String} (h : other ≠ name) (value : α)
    (entries : List (String × α)) :
    get? other (replace name value entries) = get? other entries := by
  induction entries with
  | nil => rfl
  | cons entry rest ih =>
    obtain ⟨key, old⟩ := entry
    by_cases hk : key = name
    · simp [replace, get?, hk, Ne.symm h]
    · simp [replace, get?, hk, ih]

theorem get?_place_self {name : String} {entries : List (String × α)} (value : α)
    (h : get? name entries = none) : get? name (place name value entries) = some value := by
  induction entries with
  | nil => simp [place, get?]
  | cons entry rest ih =>
    obtain ⟨key, old⟩ := entry
    by_cases hk : key = name
    · simp [get?, hk] at h
    · by_cases hl : name < key
      · simp [place, get?, hl]
      · simp only [get?, hk, if_false] at h
        simp [place, get?, hl, hk, ih h]

theorem get?_place_of_ne {name other : String} (h : other ≠ name) (value : α)
    (entries : List (String × α)) :
    get? other (place name value entries) = get? other entries := by
  induction entries with
  | nil => simp [place, get?, Ne.symm h]
  | cons entry rest ih =>
    obtain ⟨key, old⟩ := entry
    by_cases hl : name < key
    · simp [place, get?, hl, Ne.symm h]
    · simp [place, get?, hl, ih]

@[simp] theorem get?_set_self (name : String) (value : α) (entries : List (String × α)) :
    get? name (set name value entries) = some value := by
  unfold set contains
  cases h : get? name entries with
  | none => simp [get?_place_self value h]
  | some old => simp [get?_replace_self, h]

theorem get?_set_of_ne {name other : String} (h : other ≠ name) (value : α)
    (entries : List (String × α)) :
    get? other (set name value entries) = get? other entries := by
  unfold set
  split
  · exact get?_replace_of_ne h value entries
  · exact get?_place_of_ne h value entries

theorem replace_get? {name : String} {value : α} {entries : List (String × α)}
    (h : get? name entries = some value) : replace name value entries = entries := by
  induction entries with
  | nil => rfl
  | cons entry rest ih =>
    obtain ⟨key, old⟩ := entry
    by_cases hk : key = name
    · simp only [get?, hk, if_true, Option.some.injEq] at h
      simp [replace, hk, h]
    · simp only [get?, hk, if_false] at h
      simp [replace, hk, ih h]

theorem set_get? {name : String} {value : α} {entries : List (String × α)}
    (h : get? name entries = some value) : set name value entries = entries := by
  simp [set, contains, h, replace_get? h]

theorem mem_of_get? {name : String} {value : α} {entries : List (String × α)}
    (h : get? name entries = some value) : (name, value) ∈ entries := by
  induction entries with
  | nil => simp [get?] at h
  | cons entry rest ih =>
    obtain ⟨key, old⟩ := entry
    by_cases hk : key = name
    · simp only [get?, hk, if_true, Option.some.injEq] at h
      simp [hk, h]
    · simp only [get?, hk, if_false] at h
      exact List.mem_cons_of_mem _ (ih h)

theorem mem_place {name : String} {value : α} {entry : String × α}
    {entries : List (String × α)} (h : entry ∈ place name value entries) :
    entry = (name, value) ∨ entry ∈ entries := by
  induction entries with
  | nil => simpa [place] using h
  | cons head rest ih =>
    obtain ⟨key, old⟩ := head
    unfold place at h
    split at h
    · simpa using h
    · rcases List.mem_cons.1 h with rfl | h
      · simp
      · rcases ih h with h | h <;> simp [h]

theorem mem_replace_key {name : String} {value : α} {entry : String × α}
    {entries : List (String × α)} (h : entry ∈ replace name value entries) :
    ∃ old, (entry.1, old) ∈ entries := by
  induction entries with
  | nil => simp [replace] at h
  | cons head rest ih =>
    obtain ⟨key, old⟩ := head
    unfold replace at h
    split at h
    · next hk =>
      rcases List.mem_cons.1 h with rfl | h
      · exact ⟨old, by simp [hk]⟩
      · exact ⟨entry.2, by simp [h]⟩
    · rcases List.mem_cons.1 h with rfl | h
      · exact ⟨old, by simp⟩
      · obtain ⟨old', h'⟩ := ih h
        exact ⟨old', List.mem_cons_of_mem _ h'⟩

theorem Ascending.replace {name : String} {value : α} {entries : List (String × α)}
    (h : Ascending entries) : Ascending (replace name value entries) := by
  induction entries with
  | nil => exact h
  | cons head rest ih =>
    obtain ⟨key, old⟩ := head
    have hc := List.pairwise_cons.1 h
    unfold Keyed.replace
    split
    · next hk =>
      subst hk
      exact List.pairwise_cons.2 ⟨hc.1, hc.2⟩
    · refine List.pairwise_cons.2 ⟨fun entry he => ?_, ih hc.2⟩
      obtain ⟨old', he'⟩ := mem_replace_key he
      exact hc.1 (entry.1, old') he'

theorem Ascending.place {name : String} {value : α} {entries : List (String × α)}
    (h : Ascending entries) (hn : get? name entries = none) :
    Ascending (place name value entries) := by
  induction entries with
  | nil => exact List.pairwise_singleton _ _
  | cons head rest ih =>
    obtain ⟨key, old⟩ := head
    have hc := List.pairwise_cons.1 h
    unfold Keyed.place
    by_cases hk : key = name
    · simp [get?, hk] at hn
    simp only [get?, hk, if_false] at hn
    split
    · next hl =>
      refine List.pairwise_cons.2 ⟨fun entry he => ?_, h⟩
      rcases List.mem_cons.1 he with rfl | he
      · exact hl
      · exact String.lt_trans hl (hc.1 _ he)
    · next hl =>
      refine List.pairwise_cons.2 ⟨fun entry he => ?_, ih hc.2 hn⟩
      rcases mem_place he with rfl | he
      · exact Std.lt_of_le_of_ne (Std.not_lt.1 hl) hk
      · exact hc.1 _ he

theorem Ascending.set {name : String} {value : α} {entries : List (String × α)}
    (h : Ascending entries) : Ascending (set name value entries) := by
  unfold Keyed.set contains
  cases hn : get? name entries with
  | none => simpa using h.place hn
  | some old => simpa using h.replace

theorem ascending_ofList (entries : List (String × α)) : Ascending (ofList entries) := by
  suffices ∀ written : List (String × α), Ascending written →
      Ascending
        (entries.foldl (fun written entry => Keyed.set entry.1 entry.2 written) written) from
    this [] List.Pairwise.nil
  induction entries with
  | nil => exact fun _ h => h
  | cons entry rest ih => exact fun written h => ih _ h.set

end SiteDesk.Keyed
