import ContactGraph.Query.Term
import ContactGraph.Schema.Definition

/-!
# Walking chains

Variables are made up in order : a computation in `Fresh` carries the number of variables made up so
far. `walk` makes up one variable for each step of a chain and gives the patterns that bind them.
-/

namespace ContactGraph.Query

/-- A computation that makes up variables. Its state counts those made up before. -/
abbrev Fresh := StateM Nat

/-- The next variable. -/
def fresh : Fresh Variable := fun n =>
  (.numbered (n + 1), n + 1)

/-- The contact a query is about. -/
def contactVar : Variable := .named "contact"

/-- The affiliation of the contact. -/
def contextVar : Variable := .named "context"

/-- The pattern of one edge between two variables. -/
def edge (subject : Variable) (predicate : Iri) (object : Variable) : Pattern :=
  .triple (.var subject) predicate (.var object)

/-- The pattern of one step. -/
def step (subject : Variable) (p : Property) (object : Variable) : Pattern :=
  if p.inverse then edge object p.iri subject else edge subject p.iri object

/-- A walked chain. -/
structure Walk where
  /-- The patterns of the steps. -/
  group : Group
  /-- The subject of the last step; the start when there is no step. -/
  previous : Variable
  /-- The end of the chain. -/
  target : Variable

/-- Walks a chain from a variable. -/
def walk (start : Variable) : List Property → Fresh Walk
  | [] => pure ⟨[], start, start⟩
  | [p] => do
    let next ← fresh
    pure ⟨[step start p next], start, next⟩
  | p :: q :: ps => do
    let next ← fresh
    let rest ← walk next (q :: ps)
    pure { rest with group := step start p next :: rest.group }

end ContactGraph.Query
