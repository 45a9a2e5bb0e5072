import EntityMapping.Object
import EntityMapping.Error

/-!
# Collections

How a collection of mapped objects is put together. The objects that are read from storage are first *staged* by a
supplier, which decides which of them reach the collection and in what order; then the collection takes
them one by one in the way of its sort.
-/

namespace EntityMapping

/-- Puts an object into an ascending list without equal objects, unless one that is equal is there. -/
def insertAscending (order : Object → Object → Ordering) (o : Object) : List Object → List Object
  | [] => [o]
  | p :: ps =>
    match order o p with
    | .lt => o :: p :: ps
    | .eq => p :: ps
    | .gt => p :: insertAscending order o ps

/-- Adds an object to a collection. Sets keep the first of equal objects. -/
def CollectionKind.add (order : Object → Object → Ordering) (kind : CollectionKind) (items : List Object)
    (o : Object) : List Object :=
  match kind with
  | set => if items.any fun p => order p o = .eq then items else items ++ [o]
  | sortedSet => insertAscending order o items
  | _ => items ++ [o]

/-- The collection of the given objects, added in order. -/
def CollectionKind.ofList (order : Object → Object → Ordering) (kind : CollectionKind)
    (items : List Object) : List Object :=
  items.foldl (kind.add order) []

/-- Lists, deques and queues hold exactly what was added. -/
theorem CollectionKind.ofList_of_not_set {order : Object → Object → Ordering} {kind : CollectionKind}
    (h : kind ≠ .set) (h' : kind ≠ .sortedSet) (items : List Object) :
    kind.ofList order items = items := by
  have hfold (done items : List Object) : items.foldl (kind.add order) done = done ++ items := by
    induction items generalizing done with
    | nil => simp
    | cons o items ih =>
      have hadd : kind.add order done o = done ++ [o] := by
        cases kind <;> simp_all [CollectionKind.add]
      rw [List.foldl_cons, hadd, ih, List.append_assoc, List.singleton_append]
  simpa [CollectionKind.ofList] using hfold [] items

/-! ## Suppliers -/

/-- Hands out staging collections for the sorts of collections that it accepts. -/
structure Supplier where
  name : String
  accepts : CollectionKind → Bool
  /-- What a staging collection holds after one more element. -/
  hold : CollectionKind → List Datum → Datum → List Datum
  /-- What a staging collection gives away in the end. -/
  release : CollectionKind → List Datum → List Datum

/-- A supplier whose staging collections keep their elements as they come. -/
def Supplier.plain (name : String) (accepts : CollectionKind → Bool) : Supplier :=
  ⟨name, accepts, fun _ held d => held ++ [d], fun _ held => held⟩

/-- A staging collection. -/
structure Staging where
  kind : CollectionKind
  supplier : Supplier
  held : List Datum

namespace Staging

def add (s : Staging) (d : Datum) : Staging := { s with held := s.supplier.hold s.kind s.held d }

def size (s : Staging) : Nat := s.held.length

def isEmpty (s : Staging) : Bool := s.held.isEmpty

/-- The elements that are given away, in order. -/
def elements (s : Staging) : List Datum := s.supplier.release s.kind s.held

end Staging

/-- A new staging collection. -/
def Supplier.supply (s : Supplier) (kind : CollectionKind) : Staging := ⟨kind, s, []⟩

/-- The suppliers in use, in the order of their registration. -/
structure Suppliers where
  registered : List Supplier

namespace Suppliers

def empty : Suppliers := ⟨[]⟩

def register (s : Suppliers) (supplier : Supplier) : Suppliers := ⟨s.registered ++ [supplier]⟩

/-- The suppliers that are always there; deques and queues have one in common. -/
def standard : Suppliers :=
  ⟨[.plain "list" (· = .list), .plain "deque" (fun k => k = .deque || k = .queue),
    .plain "set" (· = .set), .plain "tree set" (· = .sortedSet)]⟩

/-- The names of the suppliers. -/
def names (s : Suppliers) : List String := s.registered.map Supplier.name

/-- The supplier for a sort of collections: of those that accept it, the one that was registered last. -/
def find (s : Suppliers) (kind : CollectionKind) : Except MapError Supplier :=
  match s.registered.reverse.find? fun supplier => supplier.accepts kind with
  | some supplier => .ok supplier
  | none => .error (.unsupportedCollection kind.text)

/-- A new staging collection for a sort of collections. -/
def supply (s : Suppliers) (kind : CollectionKind) : Except MapError Staging :=
  (s.find kind).map fun supplier => supplier.supply kind

end Suppliers
end EntityMapping
