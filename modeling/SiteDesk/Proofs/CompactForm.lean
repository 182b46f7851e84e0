import Mathlib.Tactic.SplitIfs
import SiteDesk.Json.Printer
import SiteDesk.Json.Reader

/-!
What the compact form of a value tells of the value. Each character of a form says where the form
ends, so forms that stand one after the other can be told apart, and a form determines everything
about its value but which of the numbers with one text it holds.
-/
namespace SiteDesk.Json

def isNumberChar (c : Char) : Bool :=
  c.isDigit || c = '-' || c = '+' || c = '.' || c = 'e'

theorem isNumberChar_of_toDigits {n : Nat} {c : Char} (h : c ∈ Nat.toDigits 10 n) :
    isNumberChar c = true := by
  simp [isNumberChar, Nat.isDigit_of_mem_toDigits (by omega) (by omega) h]

namespace Number

theorem isNumberChar_integerText {n : Int} {c : Char} (h : c ∈ integerText n) :
    isNumberChar c = true := by
  unfold integerText at h
  split at h
  · rcases List.mem_cons.1 h with rfl | h
    · rfl
    · exact isNumberChar_of_toDigits h
  · exact isNumberChar_of_toDigits h

theorem integerText_ne_nil (n : Int) : integerText n ≠ [] := by
  unfold integerText
  split
  · simp
  · exact Nat.toDigits_ne_nil

theorem isNumberChar_shortest {x : Double} {c : Char} (h : c ∈ x.shortest.1) :
    isNumberChar c = true := by
  unfold Double.shortest Double.dropTrailingZeros at h
  rw [List.mem_reverse] at h
  exact isNumberChar_of_toDigits (List.mem_reverse.1 (List.dropWhile_subset _ h))

theorem isNumberChar_positional {digits : List Char} {e : Int}
    (hd : ∀ c ∈ digits, isNumberChar c = true) {c : Char} (h : c ∈ positional digits e) :
    isNumberChar c = true := by
  unfold positional at h
  split at h
  · simp only [List.mem_append, List.mem_cons, List.not_mem_nil, or_false] at h
    rcases h with ((rfl | rfl) | h) | h
    · rfl
    · rfl
    · rw [(List.mem_replicate.1 h).2]; rfl
    · exact hd c h
  · simp only [List.mem_append, List.mem_cons, List.not_mem_nil, or_false] at h
    rcases h with ((h | h) | rfl) | h
    · exact hd c (List.mem_of_mem_take h)
    · rw [(List.mem_replicate.1 h).2]; rfl
    · rfl
    · split at h
      · rw [List.mem_singleton.1 h]; rfl
      · exact hd c (List.mem_of_mem_drop h)

theorem isNumberChar_scientific {digits : List Char} {e : Int}
    (hd : ∀ c ∈ digits, isNumberChar c = true) {c : Char} (h : c ∈ scientific digits e) :
    isNumberChar c = true := by
  unfold scientific at h
  simp only [List.mem_append, List.mem_cons, List.not_mem_nil, or_false] at h
  rcases h with (h | rfl | h) | h
  · cases digits with
    | nil => simp at h
    | cons d rest =>
      cases rest with
      | nil => exact hd c (by simpa using h)
      | cons next others =>
        simp only [List.mem_cons] at h
        rcases h with rfl | rfl | h
        · exact hd c (by simp)
        · rfl
        · exact hd c (by simp [h])
  · rfl
  · rw [h]
    split <;> rfl
  · exact isNumberChar_of_toDigits h

theorem isNumberChar_text {n : Number} {c : Char} (h : c ∈ n.text) : isNumberChar c = true := by
  cases n with
  | integer n => exact isNumberChar_integerText h
  | float x =>
    have hbody : ∀ c ∈ (if x.isZero then positional ['0'] 0
        else if positionalFrom ≤ x.shortest.2 ∧ x.shortest.2 ≤ positionalTo then
          positional x.shortest.1 x.shortest.2 else scientific x.shortest.1 x.shortest.2),
        isNumberChar c = true := by
      intro c hc
      have hzero : ∀ d ∈ ['0'], isNumberChar d = true := by
        intro d hd
        rw [List.mem_singleton.1 hd]
        rfl
      split at hc
      · exact isNumberChar_positional hzero hc
      · split at hc
        · exact isNumberChar_positional (fun c h => isNumberChar_shortest h) hc
        · exact isNumberChar_scientific (fun c h => isNumberChar_shortest h) hc
    change c ∈ floatText x at h
    unfold floatText at h
    dsimp only at h
    split at h
    · rcases List.mem_cons.1 h with rfl | h
      · rfl
      · exact hbody c h
    · exact hbody c h

theorem text_ne_nil (n : Number) : n.text ≠ [] := by
  cases n with
  | integer n => exact integerText_ne_nil n
  | float x =>
    change floatText x ≠ []
    unfold floatText positional scientific
    dsimp only
    repeat' split
    all_goals simp

end Number

def Stops (rest : List Char) : Prop :=
  ∀ c ∈ rest.head?, isNumberChar c = false

theorem stops_cons {c : Char} (h : isNumberChar c = false) (rest : List Char) :
    Stops (c :: rest) := by
  simpa [Stops] using h

theorem Number.text_of_append {n m : Number} {r s : List Char} (hr : Stops r) (hs : Stops s)
    (h : n.text ++ r = m.text ++ s) : n.text = m.text ∧ r = s := by
  have key (n : Number) {r : List Char} (hr : Stops r) :
      (n.text ++ r).takeWhile isNumberChar = n.text := by
    rw [List.takeWhile_append_of_pos fun c hc => Number.isNumberChar_text hc]
    cases r with
    | nil => simp
    | cons c rest => simp [hr c (by simp)]
  have ht : n.text = m.text := by rw [← key n hr, ← key m hs, h]
  rw [ht] at h
  exact ⟨ht, List.append_cancel_left h⟩

def unescape : List Char → Option (Char × List Char)
  | '\\' :: 'u' :: _ :: _ :: high :: low :: rest =>
    some (Char.ofNat (Text.valueIn 16 [high, low]), rest)
  | '\\' :: c :: rest => (Reading.letterEscape? c).map fun meant => (meant, rest)
  | c :: rest => some (c, rest)
  | [] => none

theorem valueIn_hexDigits {n : Nat} (h : n < 0x20) :
    Text.valueIn 16 [hexDigit (n / 16), hexDigit n] = n := by
  have all : ∀ n < 0x20, Text.valueIn 16 [hexDigit (n / 16), hexDigit n] = n := by decide
  exact all n h

theorem unescape_escapeChar (c : Char) (rest : List Char) :
    unescape (escapeChar c ++ rest) = some (c, rest) := by
  unfold escapeChar
  split_ifs with hq hb h8 ht hn hf hr hu
  · subst hq; rfl
  · subst hb; rfl
  · subst h8; rfl
  · subst ht; rfl
  · subst hn; rfl
  · subst hf; rfl
  · subst hr; rfl
  · simp only [List.cons_append, List.nil_append, unescape]
    rw [valueIn_hexDigits hu, Char.ofNat_toNat]
  · simp only [List.cons_append, List.nil_append]
    unfold unescape
    split <;> simp_all

theorem escapeChar_append_ne (c : Char) (rest others : List Char) :
    escapeChar c ++ rest ≠ '"' :: others := by
  unfold escapeChar
  split_ifs <;> simp_all

theorem quoteRest_append {cs ds r s : List Char} (h : quoteRest cs ++ r = quoteRest ds ++ s) :
    cs = ds ∧ r = s := by
  induction cs generalizing ds with
  | nil =>
    cases ds with
    | nil => simpa [quoteRest] using h
    | cons d ds =>
      simp only [quoteRest, List.cons_append, List.nil_append, List.append_assoc] at h
      exact absurd h.symm (escapeChar_append_ne d _ _)
  | cons c cs ih =>
    cases ds with
    | nil =>
      simp only [quoteRest, List.cons_append, List.nil_append, List.append_assoc] at h
      exact absurd h (escapeChar_append_ne c _ _)
    | cons d ds =>
      simp only [quoteRest, List.append_assoc] at h
      have hu := congrArg unescape h
      rw [unescape_escapeChar, unescape_escapeChar, Option.some.injEq, Prod.mk.injEq] at hu
      obtain ⟨hcs, hrs⟩ := ih hu.2
      exact ⟨by rw [hu.1, hcs], hrs⟩

theorem quote_append {a b : String} {r s : List Char} (h : quote a ++ r = quote b ++ s) :
    a = b ∧ r = s := by
  simp only [quote, List.cons_append, List.cons.injEq, true_and] at h
  obtain ⟨hc, hrs⟩ := quoteRest_append h
  exact ⟨String.toList_injective hc, hrs⟩

def opens : Kind → Char → Bool
  | .null, c => c = 'n'
  | .boolean, c => c = 't' || c = 'f'
  | .number, c => isNumberChar c
  | .string, c => c = '"'
  | .array, c => c = '['
  | .object, c => c = '\x7b'

theorem opens_unique {k l : Kind} {c : Char} (hk : opens k c = true) (hl : opens l c = true) :
    k = l := by
  have hn : isNumberChar 'n' = false ∧ isNumberChar 't' = false ∧ isNumberChar 'f' = false ∧
      isNumberChar '"' = false ∧ isNumberChar '[' = false ∧ isNumberChar '\x7b' = false := by
    decide
  cases k <;> cases l <;> simp only [opens, Bool.or_eq_true, decide_eq_true_eq] at hk hl <;>
    grind

theorem compact_opens (v : Json) : ∃ c rest, compact v = c :: rest ∧ opens v.kind c = true := by
  cases v with
  | null => exact ⟨_, _, rfl, rfl⟩
  | bool b => cases b <;> exact ⟨_, _, rfl, rfl⟩
  | number n =>
    cases ht : n.text with
    | nil => exact absurd ht n.text_ne_nil
    | cons c rest =>
      have hc : c ∈ n.text := by simp [ht]
      exact ⟨c, rest, by simp [compact, ht], Number.isNumberChar_text hc⟩
  | string s => exact ⟨_, _, rfl, rfl⟩
  | array items => cases items <;> exact ⟨_, _, rfl, rfl⟩
  | object members =>
    cases members with
    | nil => exact ⟨_, _, rfl, rfl⟩
    | cons member rest => exact ⟨_, _, rfl, rfl⟩

theorem compact_append_ne {v : Json} {c : Char} (h : opens v.kind c = false)
    (rest others : List Char) : compact v ++ rest ≠ c :: others := by
  intro he
  obtain ⟨first, tail, hv, ho⟩ := compact_opens v
  rw [hv, List.cons_append, List.cons.injEq] at he
  rw [he.1, h] at ho
  cases ho

theorem kind_of_compact_append {a b : Json} {r s : List Char}
    (h : compact a ++ r = compact b ++ s) : a.kind = b.kind := by
  obtain ⟨c, rest, ha, hc⟩ := compact_opens a
  obtain ⟨d, others, hb, hd⟩ := compact_opens b
  rw [ha, hb, List.cons_append, List.cons_append, List.cons.injEq] at h
  rw [← h.1] at hd
  exact opens_unique hc hd

theorem stops_compactItems (items : List Json) (rest : List Char) :
    Stops (compactItems items ++ rest) := by
  cases items <;> exact stops_cons (by decide) _

theorem stops_compactMembers (members : Members) (rest : List Char) :
    Stops (compactMembers members ++ rest) := by
  cases members <;> exact stops_cons (by decide) _

@[simp] theorem not_opens_bracket (k : Kind) : opens k ']' = false := by
  cases k <;> decide

/-- The form of a value tells where it ends: of two forms that begin a text, followed by no number,
neither goes on beyond the other. -/
def Delimited (a : Json) : Prop :=
  ∀ (b : Json) {r s : List Char}, Stops r → Stops s → compact a ++ r = compact b ++ s →
    compact a = compact b ∧ r = s

theorem compactItems_append {items : List Json} (each : ∀ item ∈ items, Delimited item)
    (others : List Json) {r s : List Char}
    (h : compactItems items ++ r = compactItems others ++ s) :
    compactItems items = compactItems others ∧ r = s := by
  induction items generalizing others with
  | nil =>
    cases others with
    | nil => exact ⟨rfl, List.append_cancel_left h⟩
    | cons other others => simp [compactItems] at h
  | cons item rest ih =>
    cases others with
    | nil => simp [compactItems] at h
    | cons other others =>
      rw [List.forall_mem_cons] at each
      simp only [compactItems, List.cons_append, List.cons.injEq, true_and, List.append_assoc] at h
      obtain ⟨hi, ht⟩ := each.1 other (stops_compactItems rest r) (stops_compactItems others s) h
      obtain ⟨hl, hrs⟩ := ih each.2 others ht
      exact ⟨by simp only [compactItems, hi, hl], hrs⟩

theorem compactMembers_append {members : Members} (each : ∀ entry ∈ members, Delimited entry.2)
    (others : Members) {r s : List Char}
    (h : compactMembers members ++ r = compactMembers others ++ s) :
    compactMembers members = compactMembers others ∧ r = s := by
  induction members generalizing others with
  | nil =>
    cases others with
    | nil => exact ⟨rfl, List.append_cancel_left h⟩
    | cons other others => simp [compactMembers] at h
  | cons entry rest ih =>
    cases others with
    | nil => simp [compactMembers] at h
    | cons other others =>
      rw [List.forall_mem_cons] at each
      simp only [compactMembers, List.cons_append, List.cons.injEq, true_and,
        List.append_assoc] at h
      obtain ⟨hn, ht⟩ := quote_append h
      obtain ⟨hv, ht⟩ := each.1 other.2 (stops_compactMembers rest r)
        (stops_compactMembers others s) (List.cons.inj ht).2
      obtain ⟨hl, hrs⟩ := ih each.2 others ht
      exact ⟨by simp only [compactMembers, hn, hv, hl], hrs⟩

theorem delimited_array {items : List Json} (each : ∀ item ∈ items, Delimited item) :
    Delimited (.array items) := by
  intro b r s _ _ h
  have hk := kind_of_compact_append h
  cases b with
  | array others =>
    cases items with
    | nil =>
      cases others with
      | nil => exact ⟨rfl, List.append_cancel_left h⟩
      | cons other others =>
        simp only [compact, List.cons_append, List.nil_append, List.cons.injEq, true_and,
          List.append_assoc] at h
        exact absurd h.symm (compact_append_ne (not_opens_bracket _) _ _)
    | cons item rest =>
      cases others with
      | nil =>
        simp only [compact, List.cons_append, List.nil_append, List.cons.injEq, true_and,
          List.append_assoc] at h
        exact absurd h (compact_append_ne (not_opens_bracket _) _ _)
      | cons other others =>
        -- after a comma in place of the bracket, both are the ends of longer arrays
        have ends : compactItems (item :: rest) ++ r = compactItems (other :: others) ++ s := by
          simp only [compact, List.cons_append, List.cons.injEq, true_and] at h
          simp only [compactItems, List.cons_append, h]
        obtain ⟨hi, hrs⟩ := compactItems_append each _ ends
        simp only [compactItems, List.cons.injEq, true_and] at hi
        exact ⟨by simp only [compact, hi], hrs⟩
  | _ => simp [kind] at hk

theorem delimited_object {members : Members} (each : ∀ entry ∈ members, Delimited entry.2) :
    Delimited (.object members) := by
  intro b r s _ _ h
  have hk := kind_of_compact_append h
  cases b with
  | object others =>
    cases members with
    | nil =>
      cases others with
      | nil => exact ⟨rfl, List.append_cancel_left h⟩
      | cons other others => simp [compact, quote] at h
    | cons entry rest =>
      cases others with
      | nil => simp [compact, quote] at h
      | cons other others =>
        have ends :
            compactMembers (entry :: rest) ++ r = compactMembers (other :: others) ++ s := by
          simp only [compact, List.cons_append, List.cons.injEq, true_and] at h
          simp only [compactMembers, List.cons_append, h]
        obtain ⟨hm, hrs⟩ := compactMembers_append each _ ends
        simp only [compactMembers, List.cons.injEq, true_and] at hm
        exact ⟨by simp only [compact, hm], hrs⟩
  | _ => simp [kind] at hk

theorem delimited_leaf {a : Json} (array : a.kind ≠ .array) (object : a.kind ≠ .object) :
    Delimited a := by
  intro b r s hr hs h
  have hk := kind_of_compact_append h
  cases a with
  | null =>
    cases b <;> simp only [kind, reduceCtorEq] at hk
    exact ⟨rfl, List.append_cancel_left h⟩
  | bool a =>
    cases b with
    | bool b => cases a <;> cases b <;> simp_all [compact]
    | _ => simp [kind] at hk
  | number n =>
    cases b with
    | number m => exact Number.text_of_append hr hs h
    | _ => simp [kind] at hk
  | string a =>
    cases b with
    | string b =>
      obtain ⟨hab, hrs⟩ := quote_append h
      exact ⟨by rw [hab], hrs⟩
    | _ => simp [kind] at hk
  | array items => exact absurd rfl array
  | object members => exact absurd rfl object

mutual

theorem delimited : ∀ a : Json, Delimited a
  | .array items => delimited_array (delimited_items items)
  | .object members => delimited_object (delimited_members members)
  | .null => delimited_leaf nofun nofun
  | .bool _ => delimited_leaf nofun nofun
  | .number _ => delimited_leaf nofun nofun
  | .string _ => delimited_leaf nofun nofun

theorem delimited_items : ∀ items : List Json, ∀ item ∈ items, Delimited item
  | [] => nofun
  | item :: rest => List.forall_mem_cons.2 ⟨delimited item, delimited_items rest⟩

theorem delimited_members : ∀ members : Members, ∀ entry ∈ members, Delimited entry.2
  | [] => nofun
  | (_, value) :: rest => List.forall_mem_cons.2 ⟨delimited value, delimited_members rest⟩

end

end SiteDesk.Json
