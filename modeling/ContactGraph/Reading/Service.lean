import ContactGraph.Error
import ContactGraph.Reading.IdCache
import ContactGraph.Result.Row

/-!
# Services

The triple store as seen from here : it answers queries with tables and resolves resources to
numbers, and meanwhile the caller may cancel. A service acts on a state of its own, which keeps
what happened even when an operation fails.
-/

namespace ContactGraph

/-- A triple store whose state is a `σ`. -/
structure Service (σ : Type) where
  /-- Answers a query, or says why not. -/
  select : String → σ → Except String Table × σ
  /-- Gives the numbers of resources in order, or says why not. -/
  resolve : List Iri → σ → Except String (List (Option LocalId)) × σ
  /-- Whether the running request was canceled. -/
  canceled : σ → Bool

/-- An operation on a service that can fail. The state of the service outlives a failure. -/
abbrev Run (σ α : Type) := ExceptT Error (StateM σ) α

namespace Run

variable {σ α : Type}

/-- Fails or goes on as a computation without a service did. -/
def ofExcept (x : Except Error α) : Run σ α :=
  ExceptT.mk (pure x)

/-- Fails with what a caller sees of a rejection. -/
def ofRejection (x : Except Rejection α) : Run σ α :=
  ofExcept (x.mapError Rejection.error)

/-- The outcome of an operation as a value. -/
def outcome (x : Run σ α) : Run σ (Except Error α) :=
  ExceptT.mk do
    let r ← x.run
    pure (.ok r)

end Run

namespace Service

variable {σ : Type}

/-- The same store for a request that is never canceled. -/
def uncanceled (s : Service σ) : Service σ :=
  { s with canceled := fun _ => false }

/-- Sends a query. -/
def query (s : Service σ) (text : String) : Run σ Table :=
  ExceptT.mk fun state =>
    let (answer, state) := s.select text state
    (answer.mapError Error.execution, state)

/-- Asks for the numbers of resources. -/
def numbers (s : Service σ) (iris : List Iri) : Run σ (List (Option LocalId)) :=
  ExceptT.mk fun state =>
    let (answer, state) := s.resolve iris state
    (answer.mapError Error.resolution, state)

/-- Whether the running request was canceled. -/
def isCanceled (s : Service σ) : Run σ Bool :=
  ExceptT.mk fun state => (.ok (s.canceled state), state)

/-- Fails when the running request was canceled. -/
def checkCanceled (s : Service σ) : Run σ Unit := do
  if ← s.isCanceled then throw .canceled

end Service

/-- The cache in which all resources of a list that the service knows have numbers. Only those
without a number are asked for. -/
def IdCache.resolve {σ : Type} (c : IdCache) (s : Service σ) (iris : List Iri) : Run σ IdCache :=
  match c.missing iris with
  | [] => pure c
  | iri :: rest => do
    let answer ← s.numbers (iri :: rest)
    pure (c.learn (iri :: rest) answer)

end ContactGraph
