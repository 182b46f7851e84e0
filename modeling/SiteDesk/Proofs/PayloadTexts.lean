import SiteDesk.Proofs.ArgumentScanning
import SiteDesk.Proofs.Handling

/-!
The texts that payloads yield. Each comes out trimmed and is not blank; a text that is trimmed
already, such as a word or an id, comes out as it went in, and is looked up as it is.
-/
namespace SiteDesk

namespace Text

variable {text word : List Char}

/-- A text with no blanks around it, and with something in it. -/
structure Trimmed (text : List Char) : Prop where
  nonempty : text ≠ []
  trim_eq : trim text = text

theorem trim_of_starts_of_ends (hs : Starts text) (he : Ends text) : trim text = text := by
  unfold trim
  rw [trimStart_of_starts hs, trimEnd_of_ends he]

theorem starts_trim (h : trim text ≠ []) : Starts (trim text) := by
  obtain ⟨c, rest, ht⟩ := List.exists_cons_of_ne_nil h
  have hc : (trim text).head? = some c := by rw [ht]; rfl
  exact ⟨c, hc, isBlank_head_trim hc⟩

theorem ends_trim (h : trim text ≠ []) : Ends (trim text) := by
  have hl := List.getLast?_eq_getLast_of_ne_nil h
  exact ⟨_, hl, isBlank_getLast_trim hl⟩

theorem trimmed_trim (h : trim text ≠ []) : Trimmed (trim text) :=
  ⟨h, trim_of_starts_of_ends (starts_trim h) (ends_trim h)⟩

@[simp] theorem trim_trim (text : List Char) : trim (trim text) = trim text := by
  by_cases h : trim text = []
  · rw [h]
    rfl
  · exact (trimmed_trim h).trim_eq

@[simp] theorem trimEnd_trim (text : List Char) : trimEnd (trim text) = trim text := by
  by_cases h : trim text = []
  · rw [h]
    rfl
  · exact trimEnd_of_ends (ends_trim h)

theorem trimmed_of_word (hne : word ≠ []) (hw : ∀ c ∈ word, isBlank c = false) : Trimmed word :=
  ⟨hne, trim_of_starts_of_ends (starts_of_word hne hw) (ends_of_word hne hw)⟩

theorem toNat_lt_of_isHexDigit {c : Char} (h : isHexDigit c = true) : c.toNat < 103 := by
  by_contra far
  have none : hexValue? c = none := by
    have digit : c.isDigit = false := by
      have h9 : '9'.val.toNat = 57 := rfl
      have hc : c.toNat = c.val.toNat := rfl
      simp only [Char.isDigit, Bool.and_eq_false_iff, decide_eq_false_iff_not,
        UInt32.le_iff_toNat_le, h9]
      omega
    have small : ¬ c ≤ 'f' := fun hl => by
      have hf : c.toNat ≤ 102 := hl
      omega
    have capital : ¬ c ≤ 'F' := fun hl => by
      have hf : c.toNat ≤ 70 := hl
      omega
    simp [hexValue?, digit, small, capital]
  simp [isHexDigit, isDigitIn, none] at h

theorem isHexDigit_iff {c : Char} :
    isHexDigit c = true ↔ c ∈ "0123456789abcdefABCDEF".toList := by
  have low : ∀ n < 103, isHexDigit (Char.ofNat n) =
      "0123456789abcdefABCDEF".toList.contains (Char.ofNat n) := by
    decide +kernel
  rw [← List.contains_iff_mem]
  constructor
  · intro h
    rwa [← Char.ofNat_toNat c, ← low _ (toNat_lt_of_isHexDigit h), Char.ofNat_toNat]
  · intro h
    have digits : "0123456789abcdefABCDEF".toList.all isHexDigit = true := by decide +kernel
    exact List.all_eq_true.1 digits c (List.contains_iff_mem.1 h)
theorem isBlank_of_isHexDigit {c : Char} (h : isHexDigit c = true) : isBlank c = false := by
  have clear : "0123456789abcdefABCDEF".toList.all (fun c => !isBlank c) = true := by
    decide +kernel
  simpa using List.all_eq_true.1 clear c (isHexDigit_iff.1 h)

end Text

/-- A text of the form of an id: 24 hexadecimal digits, in capitals or not. -/
def IdForm (text : String) : Prop :=
  text.length = 24 ∧ ∀ c ∈ text.toList, c ∈ "0123456789abcdefABCDEF".toList

theorem isId_iff {text : String} : isId text = true ↔ IdForm text := by
  rw [isId, Bool.and_eq_true, decide_eq_true_eq, List.all_eq_true]
  exact and_congr Iff.rfl (forall₂_congr fun c _ => Text.isHexDigit_iff)

theorem trimmed_of_isId {id : String} (h : isId id = true) : Text.Trimmed id.toList := by
  simp only [isId, idLength, Bool.and_eq_true, List.all_eq_true] at h
  obtain ⟨length, digits⟩ := h
  refine Text.trimmed_of_word ?_ fun c hc => Text.isBlank_of_isHexDigit (digits c hc)
  intro empty
  rw [← String.length_toList, empty] at length
  cases length

namespace Command

open Text

variable {name value text : String} {payload : Json.Members}

theorem trimmed_of_text? (h : text? name payload = some value) : Trimmed value.toList := by
  unfold text? at h
  obtain ⟨text, -, ht⟩ := Option.bind_eq_some_iff.1 h
  dsimp only at ht
  split at ht
  · cases ht
  · next filled =>
    rw [Option.some.injEq] at ht
    rw [← ht, String.toList_ofList]
    exact trimmed_trim (by simpa using filled)

theorem text?_of_trimmed (hg : Keyed.get? name payload = some (.string text))
    (ht : Trimmed text.toList) : text? name payload = some text := by
  have filled : text.toList.isEmpty = false := by simpa using ht.nonempty
  simp only [text?, hg, Option.bind_some, Json.asString?, ht.trim_eq, filled,
    Bool.false_eq_true, if_false, String.ofList_toList]

/-- A text of a payload is missed if there is nothing in it but blanks. -/
theorem text?_of_string (h : Keyed.get? name payload = some (.string text)) :
    text? name payload = none ∨ text? name payload = some (String.ofList (trim text.toList)) := by
  simp only [text?, h, Option.bind_some, Json.asString?]
  split
  · exact Or.inl rfl
  · exact Or.inr rfl

end Command

theorem Desk.resolved_of_trimmed {pages : PageStore} {payload : Json.Members} {target : String}
    (hg : Keyed.get? "target" payload = some (.string target))
    (ht : Text.Trimmed target.toList) :
    resolved pages payload =
      match pages.find (.ofText target) with
      | none => .error (.notFound "Page not found")
      | some page => .ok page := by
  cases hf : pages.find (.ofText target) <;> simp [resolved, Command.text?_of_trimmed hg ht, hf]

end SiteDesk
