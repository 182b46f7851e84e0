/-!
Comparing text with the case of letters ignored: over ASCII letters alone, and under Unicode
simple case folding against a pattern of ASCII characters.
-/
namespace SiteDesk.Text

/-- Equality of texts up to the case of ASCII letters. -/
def sameIgnoringCase (a b : List Char) : Bool :=
  a.map Char.toLower = b.map Char.toLower

/-- The ASCII character a character folds to under simple case folding, itself if there is none:
besides the capitals, the long s folds to `s` and the Kelvin sign to `k`. -/
def fold (c : Char) : Char :=
  if c = '\u017F' then 's' else if c = '\u212A' then 'k' else c.toLower

/-- Equality of a text with an ASCII pattern under simple case folding. -/
def foldsTo (pattern text : List Char) : Bool :=
  text.map fold = pattern.map fold

/-- What remains of a text after an ASCII pattern, matched at its start up to the case of ASCII
letters. -/
def dropIgnoringCase? : List Char → List Char → Option (List Char)
  | [], text => some text
  | _ :: _, [] => none
  | p :: pattern, c :: text =>
    if c.toLower = p.toLower then dropIgnoringCase? pattern text else none

/-- What remains of a text after an ASCII pattern, matched at its start under simple case
folding. -/
def dropFolding? : List Char → List Char → Option (List Char)
  | [], text => some text
  | _ :: _, [] => none
  | p :: pattern, c :: text => if fold c = fold p then dropFolding? pattern text else none

theorem dropIgnoringCase?_eq_some_iff {pattern text rest : List Char} :
    dropIgnoringCase? pattern text = some rest ↔
      ∃ key, text = key ++ rest ∧ sameIgnoringCase key pattern = true := by
  induction pattern generalizing text with
  | nil => simp [dropIgnoringCase?, sameIgnoringCase]
  | cons p pattern ih =>
    cases text with
    | nil => simp [dropIgnoringCase?, sameIgnoringCase]
    | cons c text =>
      by_cases h : c.toLower = p.toLower
      · simp only [dropIgnoringCase?, h, if_true, ih]
        constructor
        · rintro ⟨key, rfl, hk⟩
          exact ⟨c :: key, rfl, by simpa [sameIgnoringCase, h] using hk⟩
        · rintro ⟨key, ht, hk⟩
          cases key with
          | nil => simp [sameIgnoringCase] at hk
          | cons d key =>
            simp only [List.cons_append, List.cons.injEq] at ht
            refine ⟨key, ht.2, ?_⟩
            simp only [sameIgnoringCase, List.map_cons, decide_eq_true_eq, List.cons.injEq] at hk
            simpa [sameIgnoringCase] using hk.2
      · simp only [dropIgnoringCase?, h, if_false]
        constructor
        · intro hn
          cases hn
        · rintro ⟨key, ht, hk⟩
          cases key with
          | nil => simp [sameIgnoringCase] at hk
          | cons d key =>
            simp only [List.cons_append, List.cons.injEq] at ht
            simp only [sameIgnoringCase, List.map_cons, decide_eq_true_eq, List.cons.injEq] at hk
            exact absurd (ht.1 ▸ hk.1) h

end SiteDesk.Text
