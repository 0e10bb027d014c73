import ContactGraph.Contact.Basic
import ContactGraph.Vocabulary

/-!
# Known ids

The store knows resources by numbers. The cache remembers the numbers of resources in both
directions : `id?` leads from a resource to its number and `iri?` back. Giving a resource a new
number forgets what its old number stood for.
-/

namespace ContactGraph

/-- Numbers of resources, and resources of numbers. -/
structure IdCache where
  /-- The number of each resource, without repetition. -/
  ids : List (Iri × LocalId) := []
  /-- The resource of each number, without repetition. -/
  iris : List (LocalId × Iri) := []
  deriving DecidableEq, Repr, Inhabited

namespace IdCache

/-- A list of pairs in which `k` is bound to `v`. -/
def put {κ ν : Type} [DecidableEq κ] (k : κ) (v : ν) (entries : List (κ × ν)) : List (κ × ν) :=
  (k, v) :: entries.filter (·.1 ≠ k)

/-- A list of pairs without those of `k`. -/
def drop {κ ν : Type} [DecidableEq κ] (k : κ) (entries : List (κ × ν)) : List (κ × ν) :=
  entries.filter (·.1 ≠ k)

/-- The number of a resource. -/
def id? (c : IdCache) (iri : Iri) : Option LocalId :=
  c.ids.lookup iri

/-- The resource of a number. -/
def iri? (c : IdCache) (id : LocalId) : Option Iri :=
  c.iris.lookup id

/-- How many resources have a number. -/
def size (c : IdCache) : Nat :=
  c.ids.length

/-- The cache in which a resource has a number. -/
def insert (c : IdCache) (iri : Iri) (id : LocalId) : IdCache :=
  let iris := match c.id? iri with
    | some previous => drop previous c.iris
    | none => c.iris
  ⟨put iri id c.ids, put id iri iris⟩

/-- The resources of a list that have no number, in order. -/
def missing (c : IdCache) (iris : List Iri) : List Iri :=
  iris.filter fun iri => (c.id? iri).isNone

/-- The cache with the numbers answered for resources. Resources without an answer stay unknown, and
answers without a resource are ignored. -/
def learn (c : IdCache) : List Iri → List (Option LocalId) → IdCache
  | iri :: iris, some id :: ids => learn (c.insert iri id) iris ids
  | _ :: iris, none :: ids => learn c iris ids
  | _, _ => c

end IdCache

end ContactGraph
