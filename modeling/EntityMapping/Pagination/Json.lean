import EntityMapping.Pagination

/-!
# Sorts, pages and limits as JSON

A direction is a word, and is also read from an object whose one key is the word and whose value is null.
-/

namespace EntityMapping

namespace Direction

/-- The name of a direction. -/
def name : Direction → String
  | asc => "Asc"
  | desc => "Desc"

def ofName? : String → Option Direction
  | "Asc" => some .asc
  | "Desc" => some .desc
  | _ => none

def toJson (d : Direction) : Json := .text d.name

/-- Reads a direction. The object form opens one bracket. -/
def ofJson? : Nat → Json → Option Direction
  | _, .string (some s) => ofName? s
  | _ + 1, .object [(some s, .null)] => ofName? s
  | _, _ => none

end Direction

namespace SortKey

def toJson (s : SortKey) : Json :=
  .fields [("property", .text s.property), ("direction", s.direction.toJson)]

/-- Reads a sort, opening at most `limit` brackets. -/
def ofJson? : Nat → Json → Option SortKey
  | limit + 1, j =>
    match j.parts? ["property", "direction"] with
    | some [some property, some direction] =>
      match property.text?, Direction.ofJson? limit direction with
      | some property, some direction => some ⟨property, direction⟩
      | _, _ => none
    | _ => none
  | 0, _ => none

def describe (s : SortKey) : String :=
  braced "Sort" [("property", quoted s.property), ("direction", s.direction.name)]

end SortKey

namespace Pageable

def toJson (p : Pageable) : Json :=
  .fields [("page", .int p.page.toNat), ("size", .int p.size.toNat),
    ("sorts", .array (p.sorts.map SortKey.toJson))]

/-- Reads a page request, opening at most `limit` brackets. Nothing is asked of its numbers here. -/
def ofJson? : Nat → Json → Option Pageable
  | limit + 1, j =>
    match j.parts? ["page", "size", "sorts"] with
    | some [some page, some size, some sorts] =>
      match page.uint64?, size.uint64?, sorts.items? SortKey.ofJson? limit with
      | some page, some size, some sorts => some ⟨page, size, sorts⟩
      | _, _, _ => none
    | _ => none
  | 0, _ => none

def describe (p : Pageable) : String :=
  braced "Pageable"
    [("page", naturalText p.page.toNat), ("size", naturalText p.size.toNat),
     ("sorts", bracketed (p.sorts.map SortKey.describe))]

end Pageable

namespace Limit

def toJson (l : Limit) : Json :=
  .fields [("start", .int l.start.toNat), ("max_results", .int l.maxResults.toNat)]

/-- Reads a limit, opening at most `limit` brackets. -/
def ofJson? : Nat → Json → Option Limit
  | _ + 1, j =>
    match j.parts? ["start", "max_results"] with
    | some [some start, some maxResults] =>
      match start.uint64?, maxResults.uint64? with
      | some start, some maxResults => some ⟨start, maxResults⟩
      | _, _ => none
    | _ => none
  | 0, _ => none

end Limit

/-- A page as text, with the texts of its results. -/
def Page.describe (p : Page String) : String :=
  braced "Page" [("content", bracketed p.content), ("pageable", p.pageable.describe)]

end EntityMapping
