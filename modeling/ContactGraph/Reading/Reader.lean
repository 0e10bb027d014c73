import ContactGraph.Computed.Step
import ContactGraph.Query.Plan
import ContactGraph.Reading.Service
import ContactGraph.Reading.SortKey
import ContactGraph.Result.Contacts
import ContactGraph.Sort.Contacts

/-!
# Reading contacts

A `Reader` fetches contacts from a service, one query for each type of contact. A fetch that is both
sorted and limited first asks for the ids of the contacts that win, and then fetches those; when the
ids cannot be had, the limit is applied while reading.
-/

namespace ContactGraph

open Query

/-- What is needed to read contacts. -/
structure Reader where
  /-- The settings. -/
  settings : Settings
  /-- The schemas. -/
  schemas : SchemaSet
  /-- The known ids of resources. -/
  ids : IdCache := {}

namespace Reader

variable {σ : Type}

/-! ## Opening -/

/-- All resources whose ids are needed. -/
def resources (r : Reader) : List Iri :=
  r.schemas.toList.flatMap Schema.resources

/-- Forgets all ids and asks for those that are needed. Without an answer none are known. -/
def refresh (r : Reader) (s : Service σ) : StateM σ (Reader × Except Error Unit) := do
  let forgotten : Reader := { r with ids := {} }
  match ← (IdCache.resolve {} s r.resources).run with
  | .ok ids => pure ({ r with ids := ids }, .ok ())
  | .error e => pure (forgotten, .error e)

/-- A reader with valid settings that knows the ids it needs. -/
def openWith (settings : Settings) (schemas : SchemaSet) (s : Service σ) : Run σ Reader := do
  Run.ofRejection settings.check
  let reader : Reader := { settings, schemas }
  let ids ← IdCache.resolve {} s reader.resources
  pure { reader with ids := ids }

/-! ## Contacts of one type -/

/-- What building queries refers to. -/
def scope (r : Reader) (schema : Schema) : Scope :=
  ⟨schema, r.settings, r.ids⟩

/-- What reading results refers to. -/
def frame (r : Reader) : Result.Frame :=
  ⟨r.settings, r.ids⟩

/-- The query that fetches contacts of a type. -/
def queryText (r : Reader) (type : ContactType) (request : Request) : Except Error String :=
  (Query.queryText r.schemas r.settings r.ids type request).mapError Rejection.error

/-- Contacts with their computed details, in the order asked for. -/
def arrange (r : Reader) (plan : Plan) (sorting : List SortOrder) (cs : List Contact) :
    List Contact :=
  let completed := cs.map (Computed.complete r.settings plan.details)
  if plan.sorted then completed else Sort.contacts sorting completed

/-- Fetches the contacts of one type. -/
def fetchType (r : Reader) (s : Service σ) (request : Request) (limit : Option Nat)
    (schema : Schema) : Run σ (List Contact) := do
  let plan ← Run.ofRejection (plan (r.scope schema) request)
  let table ← s.query plan.select.text
  let canceled ← s.isCanceled
  let cs ← Run.ofExcept (Result.contacts r.frame plan limit canceled table)
  pure (r.arrange plan request.sorting cs)

/-- How many contacts may still come. -/
def remaining (limit : Option Nat) (cs : List Contact) : Option Nat :=
  limit.map (· - cs.length)

/-- Fetches the contacts of several types and adds them to those there are, up to a limit. -/
def fetchTypes (r : Reader) (s : Service σ) (request : Request) (limit : Option Nat) :
    List Schema → List Contact → Run σ (List Contact)
  | [], cs => pure cs
  | schema :: schemas, cs => do
    s.checkCanceled
    if remaining limit cs = some 0 then pure cs
    else do
      let more ← r.fetchType s request (remaining limit cs) schema
      fetchTypes r s request limit schemas (Sort.mergeContacts request.sorting cs more)

/-! ## Ids -/

/-- The ids and sort keys in a table. -/
def keyedIds (schema : Schema) (sorting : List SortOrder) (table : Table) :
    List (ContactId × List SortKey) :=
  table.filterMap fun row =>
    (row.id? idColumn).map fun id =>
      (⟨schema.type, id⟩,
        sorting.zipIdx.map fun (o, i) =>
          SortKey.read (row.cell? (idColumn + 1 + i)) (schema.keyType o))

/-- Fetches the ids of one type with their sort keys. -/
def fetchKeyedIds (r : Reader) (s : Service σ) (request : Request) (schema : Schema) :
    Run σ (List (ContactId × List SortKey)) := do
  s.checkCanceled
  let select ← Run.ofRejection (idSelect (r.scope schema) request)
  let table ← s.query select.text
  pure (keyedIds schema request.sorting table)

/-- Fetches the ids of several types with their sort keys. -/
def fetchAllKeyedIds (r : Reader) (s : Service σ) (request : Request) :
    List Schema → Run σ (List (ContactId × List SortKey))
  | [] => pure []
  | schema :: schemas => do
    let here ← r.fetchKeyedIds s request schema
    let there ← fetchAllKeyedIds r s request schemas
    pure (here ++ there)

/-- The first elements of a list, as many as a limit allows. -/
def takeLimit {α : Type} (limit : Option Nat) (xs : List α) : List α :=
  match limit with
  | some n => xs.take n
  | none => xs

/-- The ids in the order of their keys, as many as a limit allows. -/
def pickIds (sorting : List SortOrder) (limit : Option Nat)
    (entries : List (ContactId × List SortKey)) : List ContactId :=
  (takeLimit limit
    (Sort.stableBy (fun a b => SortKey.compareAll sorting a.2 b.2) entries)).map (·.1)

/-- Fetches ids that the store sorts. -/
def fetchSortedIds (r : Reader) (s : Service σ) (request : Request) : Run σ (List ContactId) := do
  let entries ← r.fetchAllKeyedIds s request r.schemas.toList
  pure (pickIds request.sorting request.hint.maxCount entries)

/-! ## Requests -/

/-- The place of an id in a list, counting the last one when it is there twice; far behind when it
is not there. -/
def placeIn (ids : List LocalId) (c : Contact) : Nat :=
  (ids.zipIdx.reverse.lookup c.localId).getD (Number.pow2 64)

/-- Contacts in the order of a list of ids. -/
def inOrder (ids : List LocalId) (cs : List Contact) : List Contact :=
  Sort.stable (fun a b => placeIn ids a < placeIn ids b) cs

/-- Fetches the contacts of a list of ids, in its order. -/
def fetchByIds (r : Reader) (s : Service σ) (hint : FetchHint) (ids : List LocalId) :
    Run σ (List Contact) := do
  let cs ← r.fetchTypes s { filter := .ids ids, sorting := [], hint } none r.schemas.toList []
  pure (inOrder ids cs)

/-- Fetches the contacts of a request, applying its limit while reading. -/
def fetchDirectly (r : Reader) (s : Service σ) (request : Request) : Run σ (List Contact) :=
  r.fetchTypes s request request.hint.maxCount r.schemas.toList []

/-- Fetches the contacts of a request, in the order it asks for. -/
def fetch (r : Reader) (s : Service σ) (request : Request) : Run σ (List Contact) := do
  if request.hint.maxCount.isSome && !request.sorting.isEmpty then
    match ← (r.fetchSortedIds s request).outcome with
    | .ok [] => pure []
    | .ok (id :: ids) => r.fetchByIds s request.hint ((id :: ids).map (·.number))
    | .error e => if e.kind = .canceled then throw e else r.fetchDirectly s request
  else r.fetchDirectly s request

/-- The request that fetches no more than is needed to sort. -/
def narrowed (request : Request) : Request :=
  { request with
    hint := {
      details := request.sorting.map (·.detail)
      noRelationships := true
      maxCount := request.hint.maxCount } }

/-- Fetches the ids of the contacts of a request, in the order it asks for. When the store cannot
follow the order, the contacts are fetched and sorted. -/
def fetchIds (r : Reader) (s : Service σ) (request : Request) : Run σ (List ContactId) := do
  match ← (r.fetchSortedIds s request).outcome with
  | .ok ids => pure ids
  | .error e =>
    if e.kind = .notSupported && !request.sorting.isEmpty then do
      let cs ← r.fetch s (narrowed request)
      pure (cs.map (·.id))
    else throw e

/-- Fetches one contact. No caller can cancel this. -/
def contact (r : Reader) (s : Service σ) (id : LocalId) (hint : FetchHint) : Run σ Contact := do
  match ← r.fetch s.uncanceled { filter := .ids [id], hint } with
  | c :: _ => pure c
  | [] => throw (.doesNotExist id)

end Reader

end ContactGraph
