import SiteDesk.Text.Blank

/-!
Slugs: the short name of a page, made from its path. Blanks and then slashes around the path are
dropped, and inner slashes become hyphens; the root is `home`, and an empty name becomes `page`.
-/
namespace SiteDesk

def stripSlashes (path : List Char) : List Char :=
  ((path.dropWhile (· = '/')).reverse.dropWhile (· = '/')).reverse

def hyphenate (path : List Char) : List Char :=
  path.map fun c => if c = '/' then '-' else c

def slug (path : String) : String :=
  let trimmed := Text.trim path.toList
  if trimmed = ['/'] then "home"
  else
    let name := hyphenate (stripSlashes trimmed)
    if name.isEmpty then "page" else String.ofList name

theorem slash_not_mem_hyphenate (path : List Char) : '/' ∉ hyphenate path := by
  intro h
  obtain ⟨c, _, hc⟩ := List.mem_map.1 h
  split at hc
  · exact absurd hc (by decide)
  · next hne => exact hne hc

end SiteDesk
