import ContactGraph.Vocabulary

/-!
# Query terms

The part of SPARQL that contacts are read with : expressions, graph patterns and selections. A
property used as a function reads its objects. Variables are either named or numbered; the
numbered ones are those a query makes up.
-/

namespace ContactGraph.Query

/-- A variable of a query. -/
inductive Variable where
  /-- A variable with a name of its own. -/
  | named (name : String)
  /-- A variable made up for a query. -/
  | numbered (n : Nat)
  deriving DecidableEq, Repr, Inhabited

/-- Operators between two expressions. -/
inductive Operator where
  /-- Equal. -/
  | eq
  /-- Not equal. -/
  | ne
  /-- Smaller. -/
  | lt
  /-- Not greater. -/
  | le
  /-- Not smaller. -/
  | ge
  /-- Both hold. -/
  | and
  /-- Either holds. -/
  | or
  deriving DecidableEq, Repr, Inhabited

mutual

/-- An expression. -/
inductive Expr where
  /-- A variable. -/
  | var (v : Variable)
  /-- A resource. -/
  | iri (iri : Iri)
  /-- A text, of a data type or plain. -/
  | literal (text : String) (type : Option Iri)
  /-- A whole number. -/
  | integer (i : Int)
  /-- A truth value. -/
  | bool (b : Bool)
  /-- A function or a property applied to arguments. -/
  | call (function : Iri) (args : List Expr)
  /-- The text of a value. -/
  | str (e : Expr)
  /-- Whether a variable has a value. -/
  | bound (v : Variable)
  /-- One of two values, by a condition. -/
  | ifElse (condition yes no : Expr)
  /-- An operator between two expressions. -/
  | binary (left : Expr) (op : Operator) (right : Expr)
  /-- Whether a value is one of a list. -/
  | isIn (e : Expr) (items : List Expr)
  /-- Whether a group of patterns can be met. -/
  | holds (group : List Pattern)
  /-- The values of a selection, joined by a separator. -/
  | groupConcat (e : Expr) (separator : String)
  /-- The value of a selection. -/
  | select (s : Select)

/-- A graph pattern. -/
inductive Pattern where
  /-- An edge of the graph. -/
  | triple (subject : Expr) (predicate : Iri) (object : Expr)
  /-- Patterns that need not be met. -/
  | optional (group : List Pattern)
  /-- Patterns met in one named graph. -/
  | graph (v : Variable) (group : List Pattern)
  /-- A condition. -/
  | filter (e : Expr)

/-- One key of an order. -/
inductive OrderCondition where
  /-- The key and its direction. -/
  | mk (key : Expr) (descending : Bool)

/-- A selection. -/
inductive Select where
  /-- Its columns, its patterns, its order and how many rows it has at most. -/
  | mk (columns : List Expr) (group : List Pattern) (order : List OrderCondition)
      (limit : Option Nat)

end

/-- A group of patterns, all to be met. -/
abbrev Group := List Pattern

namespace OrderCondition

/-- The key. -/
def key : OrderCondition → Expr
  | .mk key _ => key

/-- Whether larger keys come first. -/
def descending : OrderCondition → Bool
  | .mk _ descending => descending

end OrderCondition

namespace Select

/-- The columns. -/
def columns : Select → List Expr
  | .mk columns _ _ _ => columns

/-- The patterns. -/
def group : Select → Group
  | .mk _ group _ _ => group

/-- The order of the rows. -/
def order : Select → List OrderCondition
  | .mk _ _ order _ => order

/-- How many rows there are at most. -/
def limit : Select → Option Nat
  | .mk _ _ _ limit => limit

/-- Whether there is neither a column nor a pattern. -/
def isEmpty (s : Select) : Bool :=
  s.columns.isEmpty && s.group.isEmpty

/-- A selection of one column. -/
def scalar (column : Expr) (group : Group) : Select :=
  .mk [column] group [] none

/-- A selection of one column of one row. -/
def first (column : Expr) (group : Group) : Select :=
  .mk [column] group [] (some 1)

end Select

namespace Expr

open Vocabulary

instance : Inhabited Expr := ⟨.bool true⟩

/-- A plain text. -/
def text (s : String) : Expr :=
  .literal s none

/-- A text of a data type. Plain text is the text of its own type. -/
def typed (s : String) (type : Iri) : Expr :=
  .literal s (if type = Xsd.string then none else some type)

/-- The number by which the store knows a resource. -/
def idOf (e : Expr) : Expr :=
  .call Tracker.id [e]

/-- The value, or the empty text when there is none. -/
def orEmpty (e : Expr) : Expr :=
  .call Tracker.coalesce [e, text ""]

/-- The text in lower case. -/
def lowerCase (e : Expr) : Expr :=
  .call Fn.lowerCase [e]

/-- The texts behind each other. -/
def concat (es : List Expr) : Expr :=
  .call Fn.concat es

/-- The expressions joined by an operator, from the left; `unit` when there is none. -/
def joinWith (op : Operator) (unit : Bool) : List Expr → Expr
  | [] => .bool unit
  | e :: es => es.foldl (fun acc e => .binary acc op e) e

/-- Whether all hold. -/
def all (es : List Expr) : Expr :=
  joinWith .and true es

/-- Whether any holds. -/
def any (es : List Expr) : Expr :=
  joinWith .or false es

/-- Whether the expression is the constant `true`. -/
def isTrue : Expr → Bool
  | .bool true => true
  | _ => false

end Expr

end ContactGraph.Query
