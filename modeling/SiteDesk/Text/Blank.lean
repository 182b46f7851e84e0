/-!
White space and trimming. Blank characters are those with the Unicode property White_Space;
trimming drops them at both ends of a text and nowhere else.
-/
namespace SiteDesk.Text

/-- The characters with the Unicode property White_Space. -/
def isBlank (c : Char) : Bool :=
  let n := c.toNat
  (9 ≤ n && n ≤ 13) || n = 0x20 || n = 0x85 || n = 0xA0 || n = 0x1680 ||
    (0x2000 ≤ n && n ≤ 0x200A) || n = 0x2028 || n = 0x2029 || n = 0x202F || n = 0x205F ||
    n = 0x3000

def trimStart (text : List Char) : List Char :=
  text.dropWhile isBlank

def trimEnd (text : List Char) : List Char :=
  (text.reverse.dropWhile isBlank).reverse

def trim (text : List Char) : List Char :=
  trimEnd (trimStart text)

def trimmed (text : String) : String :=
  String.ofList (trim text.toList)

def firstWord (text : List Char) : List Char × List Char :=
  (text.takeWhile fun c => !isBlank c, text.dropWhile fun c => !isBlank c)

@[simp] theorem firstWord_append (text : List Char) :
    (firstWord text).1 ++ (firstWord text).2 = text := by
  simp [firstWord]

theorem trimEnd_isPrefix (text : List Char) : trimEnd text <+: text := by
  have h := List.dropWhile_suffix (l := text.reverse) isBlank
  simpa [trimEnd] using List.reverse_prefix.2 h

theorem isBlank_head_trim {text : List Char} {c : Char} (h : (trim text).head? = some c) :
    isBlank c = false := by
  obtain ⟨tail, ht⟩ := trimEnd_isPrefix (trimStart text)
  have hs : (trimStart text).head? = some c := by
    rw [← ht]
    unfold trim at h
    cases he : trimEnd (trimStart text) with
    | nil => simp [he] at h
    | cons d rest => simpa [he] using h
  have := List.head?_dropWhile_not isBlank text
  unfold trimStart at hs
  simpa [hs] using this

theorem isBlank_getLast_trim {text : List Char} {c : Char} (h : (trim text).getLast? = some c) :
    isBlank c = false := by
  have := List.head?_dropWhile_not isBlank (trimStart text).reverse
  unfold trim trimEnd at h
  rw [List.getLast?_reverse] at h
  simpa [h] using this

end SiteDesk.Text
