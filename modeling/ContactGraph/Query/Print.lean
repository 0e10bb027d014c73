import ContactGraph.Number.Digits
import ContactGraph.Query.Literal
import ContactGraph.Query.Term

/-!
# The text of a query

Terms are printed with single blanks between their parts; operators stand in parentheses, groups in
braces with a blank after each pattern.
-/

namespace ContactGraph.Query

open Number

/-- A variable with its question mark. -/
def Variable.print : Variable → List Char
  | .named name => '?' :: name.toList
  | .numbered n => '?' :: '_' :: natDigits n

/-- A resource between angle brackets. -/
def printIri (iri : Iri) : List Char :=
  '<' :: iri.toList ++ ['>']

/-- The symbol of an operator. -/
def Operator.print : Operator → List Char
  | .eq => ['=']
  | .ne => ['!', '=']
  | .lt => ['<']
  | .le => ['<', '=']
  | .ge => ['>', '=']
  | .and => ['&', '&']
  | .or => ['|', '|']

/-- A literal with its data type, if it is not plain. -/
def printLiteral (text : String) : Option Iri → List Char
  | none => quote text.toList
  | some type => quote text.toList ++ '^' :: '^' :: printIri type

/-- How many rows there are at most. -/
def printLimit : Option Nat → List Char
  | none => []
  | some n => " LIMIT ".toList ++ natDigits n

mutual

/-- The text of an expression. -/
def Expr.print : Expr → List Char
  | .var v => v.print
  | .iri iri => printIri iri
  | .literal text type => printLiteral text type
  | .integer i => intDigits i
  | .bool b => if b then "true".toList else "false".toList
  | .call function args => printIri function ++ '(' :: printCommas args ++ [')']
  | .str e => "str(".toList ++ e.print ++ [')']
  | .bound v => "BOUND(".toList ++ v.print ++ [')']
  | .ifElse c y n =>
    "IF(".toList ++ c.print ++ ',' :: ' ' :: y.print ++ ',' :: ' ' :: n.print ++ [')']
  | .binary l op r => '(' :: l.print ++ ' ' :: op.print ++ ' ' :: r.print ++ [')']
  | .isIn e items => e.print ++ " IN (".toList ++ printCommas items ++ [')']
  | .holds group => "EXISTS ".toList ++ '\x7b' :: ' ' :: printPatterns group ++ ['\x7d']
  | .groupConcat e separator =>
    "GROUP_CONCAT(".toList ++ e.print ++ ',' :: ' ' :: quote separator.toList ++ [')']
  | .select s => '(' :: s.print ++ [')']

/-- The text of a graph pattern. -/
def Pattern.print : Pattern → List Char
  | .triple s p o => s.print ++ ' ' :: printIri p ++ ' ' :: o.print ++ [' ', '.']
  | .optional group => "OPTIONAL ".toList ++ '\x7b' :: ' ' :: printPatterns group ++ ['\x7d']
  | .graph v group =>
    "GRAPH ".toList ++ v.print ++ ' ' :: '\x7b' :: ' ' :: printPatterns group ++ ['\x7d']
  | .filter e => "FILTER(".toList ++ e.print ++ [')']

/-- The text of one key of an order. -/
def OrderCondition.print : OrderCondition → List Char
  | .mk key descending =>
    (if descending then " DESC(".toList else " ASC(".toList) ++ key.print ++ [')']

/-- The text of a selection. -/
def Select.print : Select → List Char
  | .mk columns group order limit =>
    "SELECT ".toList ++ printBlanks columns ++ " WHERE ".toList
      ++ '\x7b' :: ' ' :: printPatterns group ++ '\x7d' :: printOrder order ++ printLimit limit

/-- Expressions with commas between them. -/
def printCommas : List Expr → List Char
  | [] => []
  | [e] => e.print
  | e :: f :: es => e.print ++ ',' :: ' ' :: printCommas (f :: es)

/-- Expressions with blanks between them. -/
def printBlanks : List Expr → List Char
  | [] => []
  | [e] => e.print
  | e :: f :: es => e.print ++ ' ' :: printBlanks (f :: es)

/-- Patterns with a blank after each. -/
def printPatterns : List Pattern → List Char
  | [] => []
  | p :: ps => p.print ++ ' ' :: printPatterns ps

/-- The keys of an order, when there are any. -/
def printOrder : List OrderCondition → List Char
  | [] => []
  | c :: cs => " ORDER BY".toList ++ c.print ++ printConditions cs

/-- Keys behind each other. -/
def printConditions : List OrderCondition → List Char
  | [] => []
  | c :: cs => c.print ++ printConditions cs

end

/-- The text of a group. -/
def printGroup (group : Group) : List Char :=
  '\x7b' :: ' ' :: printPatterns group ++ ['\x7d']

/-- The text of a selection, to be sent to the store. -/
def Select.text (s : Select) : String :=
  String.ofList s.print

end ContactGraph.Query
