import EntityMapping.Pagination.Json
import EntityMapping.Repository.Results

/-!
# Dynamic returns

A repository call whose parts are supplied one by one: how to get a single result, how to get all results, and the
same for one page of them. When it is executed, the shape that the method declares decides which one of the
parts is used.

All results come in a sequence of some type `τ`, and only for a list they are all produced, in a way that is given. So a
sequence that goes on for ever can be handed out as it is.
-/

namespace EntityMapping

/-- How to get the results of a call for one page. -/
structure Paginated (ω τ α : Type) where
  pageable : Pageable
  single : Pageable → Traced ω MapError (Option α)
  stream : Pageable → Traced ω MapError τ
  page : Pageable → Traced ω MapError (Page α)

/-- A repository call that is ready to be executed. -/
structure DynamicReturn (ω τ α : Type) where
  classSource : String
  method : RepositoryMethod
  single : Traced ω MapError (Option α)
  result : Traced ω MapError τ
  pagination : Option (Paginated ω τ α)

namespace DynamicReturn

variable {ω τ α : Type}

/-- The page that is requested, if one is. -/
def pageable? (d : DynamicReturn ω τ α) : Option Pageable := d.pagination.map Paginated.pageable

/-- Gets the results in the shape that the method declares. -/
def execute (collect : τ → Traced ω MapError (List α)) (d : DynamicReturn ω τ α) :
    Traced ω MapError (RepositoryReturn τ α) :=
  let single := d.pagination.elim d.single fun p => p.single p.pageable
  let result := d.pagination.elim d.result fun p => p.stream p.pageable
  match d.method.returns with
  | .single => do return .single (← single)
  | .optional => do return .single (← single)
  | .list => do return .list (← collect (← result))
  | .stream => do return .stream (← result)
  | .page =>
    match d.pagination with
    | some p => do return .page (← p.page p.pageable)
    | none => .fail (.dynamicQuery (.pageWithoutRequest d.method.text))

end DynamicReturn

/-- The parts of a repository call that have been supplied so far. -/
structure DynamicReturnParts (ω τ α : Type) where
  classSource : Option String
  method : Option RepositoryMethod
  single : Option (Traced ω MapError (Option α))
  result : Option (Traced ω MapError τ)
  pagination : Option Pageable
  singlePaged : Option (Pageable → Traced ω MapError (Option α))
  streamPaged : Option (Pageable → Traced ω MapError τ)
  page : Option (Pageable → Traced ω MapError (Page α))

namespace DynamicReturnParts

variable {ω τ α : Type}

def empty : DynamicReturnParts ω τ α := ⟨none, none, none, none, none, none, none, none⟩

/-- A part that must have been supplied. -/
def required {β : Type} (what : String) : Option β → Except MapError β
  | some b => .ok b
  | none => .error (.nullArgument what)

/-- The functions for one page, all of which must have been supplied. -/
def paginated (parts : DynamicReturnParts ω τ α) (p : Pageable) : Except MapError (Paginated ω τ α) := do
  let single ← required "the single result pagination function" parts.singlePaged
  let stream ← required "the stream pagination function" parts.streamPaged
  let page ← required "the page function" parts.page
  return ⟨p, single, stream, page⟩

/-- The call, if all its parts have been supplied. The functions for one page are needed only if one is
requested. -/
def build (parts : DynamicReturnParts ω τ α) : Except MapError (DynamicReturn ω τ α) := do
  let classSource ← required "the class Source" parts.classSource
  let method ← required "the method Source" parts.method
  let single ← required "the single result supplier" parts.single
  let result ← required "the result supplier" parts.result
  let pagination ← parts.pagination.mapM parts.paginated
  return ⟨classSource, method, single, result, pagination⟩

end DynamicReturnParts

/-! ## Supplying the parts -/

/-- A part of a repository call. -/
inductive CallPart where
  | classSource
  | method
  | single
  | result
  | singlePaged
  | streamPaged
  | page
  deriving DecidableEq, Repr

/-- What is supplied as a part. -/
abbrev CallPart.Carrier (ω τ α : Type) : CallPart → Type
  | classSource => String
  | method => RepositoryMethod
  | single => Traced ω MapError (Option α)
  | result => Traced ω MapError τ
  | singlePaged => Pageable → Traced ω MapError (Option α)
  | streamPaged => Pageable → Traced ω MapError τ
  | page => Pageable → Traced ω MapError (Page α)

/-- One step in which a call is put together: a part is supplied, or it is said which page is requested, if one is. -/
inductive Supply (ω τ α : Type) where
  | part (k : CallPart) (x : k.Carrier ω τ α)
  | pagination (p : Option Pageable)

namespace DynamicReturnParts

variable {ω τ α : Type}

/-- The parts with another one of a kind. -/
def set (parts : DynamicReturnParts ω τ α) : (k : CallPart) → k.Carrier ω τ α → DynamicReturnParts ω τ α
  | .classSource, x => { parts with classSource := some x }
  | .method, x => { parts with method := some x }
  | .single, x => { parts with single := some x }
  | .result, x => { parts with result := some x }
  | .singlePaged, x => { parts with singlePaged := some x }
  | .streamPaged, x => { parts with streamPaged := some x }
  | .page, x => { parts with page := some x }

/-- The parts after another step. What is supplied again replaces what was supplied before. -/
def supply (parts : DynamicReturnParts ω τ α) : Supply ω τ α → DynamicReturnParts ω τ α
  | .part k x => parts.set k x
  | .pagination p => { parts with pagination := p }

/-- The parts that are supplied in some steps. -/
def ofList (steps : List (Supply ω τ α)) : DynamicReturnParts ω τ α := steps.foldl supply empty

end DynamicReturnParts

/-- What a call handed out as text. Results that are yet to come are not shown. -/
def RepositoryReturn.describe {τ α : Type} (text : α → String) : RepositoryReturn τ α → String
  | .single a => wrapped "Single" (optionText (a.map text))
  | .list as => wrapped "List" (bracketed (as.map text))
  | .stream _ => wrapped "Stream" ".."
  | .page p => wrapped "Page" (p.map text).describe

end EntityMapping
