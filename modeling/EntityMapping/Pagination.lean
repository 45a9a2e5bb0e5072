import EntityMapping.Error
import EntityMapping.Text.Quoted
import EntityMapping.Value.Json

/-!
# Sorts, pages and limits

What a caller can ask of a list of results: an order, one page of it, or a window. Pages are numbered from 1.
Numbers have 64 bits; a page request is refused when the number of results before it does not fit, and
further pages stay at the largest number instead of passing it.
-/

namespace EntityMapping

/-! ## Arithmetic that stays in range -/

/-- The largest number of 64 bits. -/
def largest : UInt64 := 18446744073709551615

/-- The sum, or the largest number. -/
def addWithin (a b : UInt64) : UInt64 :=
  if a.toNat + b.toNat < 2 ^ 64 then a + b else largest

/-- The product, or the largest number. -/
def mulWithin (a b : UInt64) : UInt64 :=
  if a.toNat * b.toNat < 2 ^ 64 then a * b else largest

/-- A sum in range is the exact one, capped. -/
theorem toNat_addWithin (a b : UInt64) : (addWithin a b).toNat = min (a.toNat + b.toNat) (2 ^ 64 - 1) := by
  unfold addWithin
  split
  · next h =>
    rw [UInt64.toNat_add, Nat.mod_eq_of_lt h]
    omega
  · next h =>
    have : largest.toNat = 2 ^ 64 - 1 := by decide
    omega

/-- A product in range is the exact one, capped. -/
theorem toNat_mulWithin (a b : UInt64) : (mulWithin a b).toNat = min (a.toNat * b.toNat) (2 ^ 64 - 1) := by
  unfold mulWithin
  split
  · next h =>
    rw [UInt64.toNat_mul, Nat.mod_eq_of_lt h]
    omega
  · next h =>
    have : largest.toNat = 2 ^ 64 - 1 := by decide
    omega

/-! ## Sorts -/

inductive Direction where
  | asc
  | desc
  deriving DecidableEq, Repr

/-- The order of a direction. -/
def Direction.orient : Direction → Ordering → Ordering
  | asc, o => o
  | desc, o => o.swap

/-- A property to sort by, and in which direction. -/
structure SortKey where
  property : String
  direction : Direction
  deriving DecidableEq, Repr

def SortKey.text (s : SortKey) : String :=
  s.property ++ match s.direction with
    | .asc => " ASC"
    | .desc => " DESC"

/-! ## Page requests -/

/-- A request for one page. -/
structure Pageable where
  page : UInt64
  size : UInt64
  sorts : List SortKey
  deriving DecidableEq, Repr

namespace Pageable

/-- The request for a page of a size. -/
def of (page size : UInt64) : Except MapError Pageable :=
  if page = 0 then .error (.invalidArgument .pageNumber)
  else if size = 0 then .error (.invalidArgument .pageSize)
  else if (page.toNat - 1) * size.toNat < 2 ^ 64 then .ok ⟨page, size, []⟩
  else .error (.invalidArgument (.pageRange page size))

/-- Adds a sort, behind those that are there. -/
def sortBy (p : Pageable) (s : SortKey) : Pageable := { p with sorts := p.sorts ++ [s] }

/-- The number of results before the page. -/
def offset (p : Pageable) : UInt64 := mulWithin (p.page - 1) p.size

/-- The request for the page behind. -/
def next (p : Pageable) : Pageable := { p with page := addWithin p.page 1 }

end Pageable

/-! ## Limits -/

/-- A window of results: the position of the first one, counted from 1, and how many there are at most. -/
structure Limit where
  start : UInt64
  maxResults : UInt64
  deriving DecidableEq, Repr

namespace Limit

/-- The first results. -/
def of (maxResults : UInt64) : Limit := ⟨1, maxResults⟩

/-- The results between two positions, both included. -/
def range (first last : UInt64) : Except MapError Limit :=
  if first = 0 ∨ last < first then .error (.invalidArgument (.limitRange first last))
  else .ok ⟨first, last - first + 1⟩

end Limit

/-! ## Pages -/

/-- A page of results and the request for it. -/
structure Page (α : Type) where
  content : List α
  pageable : Pageable

namespace Page

variable {α β : Type}

/-- The request for the page behind. -/
def nextPageable (p : Page α) : Pageable := p.pageable.next

def hasContent (p : Page α) : Bool := !p.content.isEmpty

def size (p : Page α) : Nat := p.content.length

def map (f : α → β) (p : Page α) : Page β := ⟨p.content.map f, p.pageable⟩

end Page

/-! ## Special parameters -/

/-- An argument of a repository call. -/
inductive Parameter where
  | pageable (p : Pageable)
  | sort (s : SortKey)
  | sorts (ss : List SortKey)
  | limit (l : Limit)
  /-- An argument that says nothing about the results. -/
  | other

/-- What the arguments of a call say about its results: the first page request, all sorts, the first limit. -/
structure SpecialParameters where
  pageable : Option Pageable
  sorts : List SortKey
  limit : Option Limit
  deriving DecidableEq

namespace SpecialParameters

def empty : SpecialParameters := ⟨none, [], none⟩

/-- Takes one more argument into account. -/
def take (special : SpecialParameters) : Parameter → SpecialParameters
  | .pageable p => { special with pageable := special.pageable <|> some p }
  | .sort s => { special with sorts := special.sorts ++ [s] }
  | .sorts ss => { special with sorts := special.sorts ++ ss }
  | .limit l => { special with limit := special.limit <|> some l }
  | .other => special

/-- What a list of arguments says. -/
def ofList (parameters : List Parameter) : SpecialParameters := parameters.foldl take empty

def isEmpty (special : SpecialParameters) : Bool :=
  special.pageable.isNone && special.sorts.isEmpty && special.limit.isNone

/-- Whether there are sorts and nothing else. -/
def hasOnlySort (special : SpecialParameters) : Bool :=
  special.pageable.isNone && special.limit.isNone && !special.sorts.isEmpty

/-- All sorts, those of the page request first. -/
def allSorts (special : SpecialParameters) : List SortKey :=
  (special.pageable.map Pageable.sorts).getD [] ++ special.sorts

end SpecialParameters

/-- The first page request among the arguments of a call. -/
def findPageable (parameters : List Parameter) : Option Pageable :=
  parameters.findSome? fun parameter =>
    match parameter with
    | .pageable p => some p
    | _ => none

end EntityMapping
