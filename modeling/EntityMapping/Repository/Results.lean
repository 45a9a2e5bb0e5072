import EntityMapping.Pagination
import EntityMapping.Traced

/-!
# Results of repository calls

Results come one by one, and producing one may leave notes. A sequence of results may go on for ever, so there is no
one way to produce all of them. A repository method declares the shape in which it hands results out: at most one, a
list, the results as they come, or a page.
-/

namespace EntityMapping

/-- The shape that a repository method declares. -/
inductive ReturnShape where
  | single
  | optional
  | list
  | stream
  | page
  deriving DecidableEq, Repr

/-- Whether a shape holds at most one result. -/
def ReturnShape.isSingle : ReturnShape → Bool
  | single => true
  | optional => true
  | _ => false

/-- A method of a repository. -/
structure RepositoryMethod where
  repository : String
  name : String
  returns : ReturnShape
  deriving DecidableEq, Repr

def RepositoryMethod.text (m : RepositoryMethod) : String := m.repository ++ "::" ++ m.name

/-! ## Sequences of results -/

/-- A finite sequence of results, each with the notes that producing it leaves. -/
abbrev ResultStream (ω α : Type) := List (List ω × α)

namespace ResultStream

variable {ω α : Type}

/-- A sequence that is produced without notes. -/
def ofList (results : List α) : ResultStream ω α := results.map fun a => ([], a)

/-- Produces all results. -/
def collect (s : ResultStream ω α) : Traced ω MapError (List α) :=
  ⟨s.flatMap Prod.fst, .ok (s.map Prod.snd)⟩

end ResultStream

/-- What is answered to one request for a result after another, which may go on for ever. The answer `none`
says that there is no further result. -/
abbrev Answers (ω α : Type) := Nat → Option (List ω × α)

/-- The answers that a sequence gives. -/
def ResultStream.answers {ω α : Type} (s : ResultStream ω α) : Answers ω α := fun n => s[n]?

/-- The only result of a method, if there is any. A second result is asked for, and is an error. -/
def singleResult {ω α : Type} (method : RepositoryMethod) (supplier : Traced ω MapError (Answers ω α)) :
    Traced ω MapError (Option α) := do
  let answers ← supplier
  match answers 0 with
  | none => return none
  | some (notes, a) =>
    match answers 1 with
    | none => ⟨notes, .ok (some a)⟩
    | some (more, _) => ⟨notes ++ more, .error (.nonUniqueResult method.text)⟩

/-! ## What a call hands out -/

/-- What a repository call hands out, where `τ` is the type of the sequences in which results come. -/
inductive RepositoryReturn (τ α : Type) where
  | single (a : Option α)
  | list (as : List α)
  | stream (s : τ)
  | page (p : Page α)

namespace RepositoryReturn

variable {ω τ α : Type}

/-- The name of the shape. -/
def kind : RepositoryReturn τ α → String
  | single _ => "single"
  | list _ => "list"
  | stream _ => "stream"
  | page _ => "page"

/-- Another shape was expected. -/
def wrongShape (wanted : String) (r : RepositoryReturn τ α) : MapError :=
  .dynamicQuery (.wrongShape wanted r.kind)

def intoOptional : RepositoryReturn τ α → Except MapError (Option α)
  | single a => .ok a
  | r => .error (r.wrongShape "a single result")

/-- The results as a list, for which those that come one by one are all produced. -/
def intoList (collect : τ → Traced ω MapError (List α)) : RepositoryReturn τ α → Traced ω MapError (List α)
  | list as => pure as
  | stream s => collect s
  | r => .fail (r.wrongShape "a list")

def intoPage : RepositoryReturn τ α → Except MapError (Page α)
  | page p => .ok p
  | r => .error (r.wrongShape "a page")

end RepositoryReturn
end EntityMapping
