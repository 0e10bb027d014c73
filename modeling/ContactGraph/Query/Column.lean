import ContactGraph.Query.Chain
import ContactGraph.Result.Packed

/-!
# Column expressions

The expressions whose values fill the cells of a result. Values that can be many are collected by a
selection of their own and joined by a separator; a cell without values holds the empty text.
-/

namespace ContactGraph.Query

open Vocabulary

/-- One of the separators of packed cells, as text. -/
def separator (c : Char) : String :=
  String.singleton c

/-- The text of a value; a resource that stands for a value is given by its id. -/
def valueOf (f : FieldDefinition) (v : Variable) : Expr :=
  if f.instances.isEmpty then .str (.var v) else .str (Expr.idOf (.var v))

/-- The values of an expression over all ways to meet a group. -/
def collect (e : Expr) (sep : Char) (group : Group) : Expr :=
  Expr.orEmpty (.select (Select.scalar (.groupConcat e (separator sep)) group))

/-- The values of a field at the end of a chain. -/
def listOf (start : Variable) (chain : List Property) (f : FieldDefinition) : Fresh Expr := do
  let w ← walk start chain
  pure (collect (valueOf f w.target) Packed.list w.group)

/-- The free properties of a name that a resource at the end of a chain has. -/
def customValuesOf (start : Variable) (chain : List Property) (name : String) : Fresh Expr := do
  let w ← walk start chain
  let property ← fresh
  let value ← fresh
  pure (collect (.str (.var value)) Packed.list (w.group ++ [
    edge w.target Nao.hasProperty property,
    .triple (.var property) Nao.propertyName (Expr.text name),
    edge property Nao.propertyValue value]))

/-- The ids of the classes of a resource. -/
def classIdsOf (resource : Variable) : Fresh Expr := do
  let type ← fresh
  pure (collect (.str (Expr.idOf (.var type))) Packed.list [edge resource Rdf.type type])

/-- The graph that holds one edge. Without an object any object will do. -/
def graphOf (subject : Variable) (p : Property) (object : Option Variable) : Fresh Expr := do
  let graph ← fresh
  let object ← match object with
    | some v => pure v
    | none => fresh
  pure (Expr.orEmpty
    (.select (Select.first (.var graph) [.graph graph [step subject p object]])))

/-- A value, followed by the graph it comes from. -/
def withGraph (value graph : Expr) : Expr :=
  Expr.concat [value, Expr.text (separator Packed.graph), graph]

/-- The expression, or nothing for a contact without an affiliation when the detail needs one. -/
def guarded (d : DetailDefinition) (e : Expr) : Expr :=
  if d.hasContext then .ifElse (.bound contextVar) e (Expr.text "") else e

/-- Where the chain of a detail starts. -/
def startOf (d : DetailDefinition) : Variable :=
  if d.hasContext then contextVar else contactVar

end ContactGraph.Query
