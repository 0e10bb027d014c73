import ContactGraph.Contact.Basic
import ContactGraph.Number.Digits
import ContactGraph.Query.Chain
import ContactGraph.Text.Case
import Mathlib.Data.List.Infix

/-!
# What queries mean

A `Store` holds a finite graph, and the expressions and patterns of a query are read over it the
usual way. `Store.value` is the value of an expression under a `Valuation` of its variables; an
expression without a value is unbound or in error, and `&&` and `||` are those of three-valued
logic. `Store.solutions` lists the ways to meet a group : every triple pattern in order, then every
filter of the group. `Store.IsTrue` says that an expression is true.

A selection inside an expression has the value of its first column : an aggregate over all its
rows, any other expression in its first row, and none without rows. Such selections have no order
of their own. What a property gives when it is used as a function is left to the store.
-/

namespace ContactGraph

open Query Vocabulary

/-! ## Graphs -/

/-- A node of a graph : a resource or a value. -/
inductive Node where
  /-- A resource. -/
  | resource (iri : Iri)
  /-- A plain text. -/
  | text (s : String)
  /-- A text of some other data type. -/
  | typed (s : String) (type : Iri)
  /-- A whole number. -/
  | integer (i : Int)
  /-- A truth value. -/
  | bool (b : Bool)
  deriving DecidableEq, Repr, Inhabited

namespace Node

/-- The text of a node. -/
def str : Node → String
  | .resource iri => iri
  | .text s => s
  | .typed s _ => s
  | .integer i => String.ofList (Number.intDigits i)
  | .bool b => Value.boolText b

/-- Whether two nodes are equal. Values of different types, and different values of a type whose
values are not known, cannot be compared. -/
def equals? (a b : Node) : Option Bool :=
  if a = b then some true
  else
    match a, b with
    | .resource _, _ => some false
    | _, .resource _ => some false
    | .text _, .text _ => some false
    | .integer _, .integer _ => some false
    | .bool _, .bool _ => some false
    | _, _ => none

/-- Order of two values, as far as they have one. -/
def order? : Node → Node → Option Ordering
  | .text a, .text b => some (compare a b)
  | .integer a, .integer b => some (compare a b)
  | _, _ => none

end Node

/-- An edge of a graph, in one of its named graphs or in none. -/
structure Triple where
  /-- The node the edge starts at. -/
  subject : Node
  /-- The property. -/
  predicate : Iri
  /-- The node the edge ends at. -/
  object : Node
  /-- The named graph. -/
  graph : Option Iri := none
  deriving DecidableEq, Repr

/-- A triple store. -/
structure Store where
  /-- The edges, in the order in which the store finds them. -/
  triples : List Triple
  /-- The numbers of resources. -/
  number : Iri → Option LocalId := fun _ => none
  /-- What the functions of the store give that have no meaning here. -/
  function : Iri → List (Option Node) → Option Node := fun _ _ => none

/-- What the variables of a query stand for. -/
abbrev Valuation := Variable → Option Node

namespace Valuation

/-- The valuation in which `v` stands for `x`. -/
def set (β : Valuation) (v : Variable) (x : Node) : Valuation := fun w =>
  if w = v then some x else β w

/-- The valuation of a query about one contact. -/
def contact (c : Iri) : Valuation := fun v =>
  if v = contactVar then some (.resource c) else none

/-- The valuation in which the value of `e` is `x`, when `known` is the value it has already. -/
def unify (β : Valuation) (e : Expr) (known : Option Node) (x : Node) : Option Valuation :=
  match known, e with
  | some y, _ => if y = x then some β else none
  | none, .var v => some (β.set v x)
  | none, _ => none

end Valuation

/-! ## Functions and operators -/

/-- The functions that mean the same in every store. -/
inductive Builtin where
  /-- The number of a resource. -/
  | id
  /-- The first value there is. -/
  | coalesce
  /-- The texts of values behind each other. -/
  | concat
  /-- A text in lower case. -/
  | lowerCase
  /-- Whether a text has another in it. -/
  | contains
  /-- Whether a text starts with another. -/
  | startsWith
  /-- Whether a text ends with another. -/
  | endsWith
  deriving DecidableEq, Repr

/-- The functions by their names. -/
def builtins : List (Iri × Builtin) := [
  (Tracker.id, .id), (Tracker.coalesce, .coalesce), (Fn.concat, .concat),
  (Fn.lowerCase, .lowerCase), (Fn.contains, .contains), (Fn.startsWith, .startsWith),
  (Fn.endsWith, .endsWith)]

/-- Both hold. One that does not settles it, even when the other is unknown. -/
def bothHold : Option Node → Option Node → Option Node
  | some (.bool true), some (.bool true) => some (.bool true)
  | some (.bool false), _ => some (.bool false)
  | _, some (.bool false) => some (.bool false)
  | _, _ => none

/-- Either holds. One that does settles it, even when the other is unknown. -/
def eitherHolds : Option Node → Option Node → Option Node
  | some (.bool true), _ => some (.bool true)
  | _, some (.bool true) => some (.bool true)
  | some (.bool false), some (.bool false) => some (.bool false)
  | _, _ => none

/-- Two values compared. -/
def comparison (test : Node → Node → Option Bool) : Option Node → Option Node → Option Node
  | some a, some b => (test a b).map .bool
  | _, _ => none

/-- An operator between two values. -/
def Query.Operator.apply : Operator → Option Node → Option Node → Option Node
  | .eq => comparison Node.equals?
  | .ne => comparison fun a b => (a.equals? b).map (!·)
  | .lt => comparison fun a b => (a.order? b).map Ordering.isLT
  | .le => comparison fun a b => (a.order? b).map Ordering.isLE
  | .ge => comparison fun a b => (a.order? b).map Ordering.isGE
  | .and => bothHold
  | .or => eitherHolds

/-- Whether a value is one of a list : some comparison holds, or none is in error. -/
def memberOf (x : Option Node) : List (Option Node) → Option Node
  | [] => x.map fun _ => .bool false
  | y :: ys => eitherHolds (comparison Node.equals? x y) (memberOf x ys)

namespace Store

/-- The function of a name, unless it is the store's own. -/
def builtin? (f : Iri) : Option Builtin :=
  builtins.lookup f

@[simp] theorem builtin?_id : builtin? Tracker.id = some .id := by decide

@[simp] theorem builtin?_coalesce : builtin? Tracker.coalesce = some .coalesce := by decide

@[simp] theorem builtin?_concat : builtin? Fn.concat = some .concat := by decide

@[simp] theorem builtin?_lowerCase : builtin? Fn.lowerCase = some .lowerCase := by decide

@[simp] theorem builtin?_contains : builtin? Fn.contains = some .contains := by decide

@[simp] theorem builtin?_startsWith : builtin? Fn.startsWith = some .startsWith := by decide

@[simp] theorem builtin?_endsWith : builtin? Fn.endsWith = some .endsWith := by decide

/-- A function applied to values. -/
def runBuiltin (T : Store) : Builtin → List (Option Node) → Option Node
  | .id, [some (.resource iri)] => (T.number iri).map fun n => .integer n.toNat
  | .coalesce, xs => xs.findSome? fun x => x
  | .concat, xs => (xs.mapM fun x => x).map fun xs => .text (String.join (xs.map Node.str))
  | .lowerCase, [some (.text s)] => some (.text (Text.lowercase s))
  | .contains, [some (.text s), some (.text w)] => some (.bool (w.toList <:+: s.toList))
  | .startsWith, [some (.text s), some (.text w)] => some (.bool (w.toList <+: s.toList))
  | .endsWith, [some (.text s), some (.text w)] => some (.bool (w.toList <:+ s.toList))
  | _, _ => none

/-- A function of the query language or of the store applied to values. -/
def call (T : Store) (f : Iri) (xs : List (Option Node)) : Option Node :=
  match builtin? f with
  | some b => T.runBuiltin b xs
  | none => T.function f xs

/-- The named graphs. -/
def graphs (T : Store) : List Iri :=
  (T.triples.filterMap (·.graph)).eraseDups

/-- The store with only the edges of one named graph. -/
def inGraph (T : Store) (g : Iri) : Store :=
  { T with triples := T.triples.filter fun t => t.graph = some g }

/-- As many rows as a selection may have. -/
def upTo {α : Type} : Option Nat → List α → List α
  | none, xs => xs
  | some n, xs => xs.take n

/-! ## Expressions and groups -/

mutual

/-- The value of an expression. `rows` are the rows that an aggregate ranges over. -/
def value (T : Store) (rows : List Valuation) (β : Valuation) : Expr → Option Node
  | .var v => β v
  | .iri iri => some (.resource iri)
  | .literal s none => some (.text s)
  | .literal s (some type) => some (.typed s type)
  | .integer i => some (.integer i)
  | .bool b => some (.bool b)
  | .call f args => T.call f (values T rows β args)
  | .str e => (value T rows β e).map fun x => .text x.str
  | .bound v => some (.bool (β v).isSome)
  | .ifElse condition yes no =>
    match value T rows β condition with
    | some (.bool true) => value T rows β yes
    | some (.bool false) => value T rows β no
    | _ => none
  | .binary l op r => op.apply (value T rows β l) (value T rows β r)
  | .isIn e items => memberOf (value T rows β e) (values T rows β items)
  | .holds g => some (.bool (((joins T β g).any fun γ => conditions T γ g)))
  | .groupConcat e separator =>
    (rows.mapM fun ρ => value T [] ρ e).map fun xs =>
      .text (String.intercalate separator (xs.map Node.str))
  | .select s => selected T β s

/-- The values of expressions. -/
def values (T : Store) (rows : List Valuation) (β : Valuation) : List Expr → List (Option Node)
  | [] => []
  | e :: es => value T rows β e :: values T rows β es

/-- The ways to meet one pattern. Filters wait until the whole group is met. -/
def extensions (T : Store) (β : Valuation) : Pattern → List Valuation
  | .triple s p o => T.triples.flatMap fun t =>
    if t.predicate = p then
      ((β.unify s (value T [] β s) t.subject).bind fun γ =>
        γ.unify o (value T [] γ o) t.object).toList
    else []
  | .optional g =>
    match (joins T β g).filter fun γ => conditions T γ g with
    | [] => [β]
    | γ :: γs => γ :: γs
  | .graph v g => T.graphs.flatMap fun iri =>
    match β.unify (.var v) (β v) (.resource iri) with
    | some γ => (joins (T.inGraph iri) γ g).filter fun δ => conditions (T.inGraph iri) δ g
    | none => []
  | .filter _ => [β]

/-- The ways to meet all patterns of a group but its filters. -/
def joins (T : Store) (β : Valuation) : List Pattern → List Valuation
  | [] => [β]
  | p :: ps => (extensions T β p).flatMap fun γ => joins T γ ps

/-- Whether a pattern is true, if it is a filter. -/
def condition (T : Store) (γ : Valuation) : Pattern → Bool
  | .filter e => value T [] γ e = some (.bool true)
  | _ => true

/-- Whether all filters of a group are true. -/
def conditions (T : Store) (γ : Valuation) : List Pattern → Bool
  | [] => true
  | p :: ps => condition T γ p && conditions T γ ps

/-- The value of a selection. -/
def selected (T : Store) (β : Valuation) : Select → Option Node
  | .mk columns g _ limit =>
    match upTo limit ((joins T β g).filter fun γ => conditions T γ g) with
    | [] => none
    | ρ :: ρs => (values T (ρ :: ρs) ρ columns).head?.join

end

/-- The ways to meet a group. -/
def solutions (T : Store) (β : Valuation) (g : Group) : List Valuation :=
  (joins T β g).filter fun γ => conditions T γ g

/-- Whether an expression is true. -/
def IsTrue (T : Store) (β : Valuation) (e : Expr) : Prop :=
  T.value [] β e = some (.bool true)

instance (T : Store) (β : Valuation) (e : Expr) : Decidable (T.IsTrue β e) :=
  inferInstanceAs (Decidable (T.value [] β e = some (.bool true)))

end Store

end ContactGraph
