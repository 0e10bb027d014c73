import ContactGraph.Filter
import ContactGraph.Query.Term
import ContactGraph.Text.Case

/-!
# Matching values

A value of a filter is compared either in the store, by an expression, or here, by `textMatches`.
Both fold letter case in the same way unless the flags forbid it.
-/

namespace ContactGraph.Query

open Vocabulary

/-- Whether `part` stands somewhere in a text. -/
def hasPart (part : List Char) : List Char → Bool
  | [] => part.isEmpty
  | c :: cs => part.isPrefixOf (c :: cs) || hasPart part cs

/-- Whether two texts match in a mode. -/
def modeMatches (mode : MatchMode) (candidate wanted : List Char) : Bool :=
  match mode with
  | .contains => hasPart wanted candidate
  | .startsWith => wanted.isPrefixOf candidate
  | .endsWith => wanted.isSuffixOf candidate
  | _ => candidate = wanted

/-- Whether a text matches the text of a filter. -/
def textMatches (candidate wanted : String) (flags : MatchFlags) : Bool :=
  if flags.folds then
    modeMatches flags.mode (Text.lowercase candidate).toList (Text.lowercase wanted).toList
  else modeMatches flags.mode candidate.toList wanted.toList

/-- Two text expressions compared in a mode. -/
def modeExpr (mode : MatchMode) (subject wanted : Expr) : Expr :=
  match mode with
  | .contains => .call Fn.contains [subject, wanted]
  | .startsWith => .call Fn.startsWith [subject, wanted]
  | .endsWith => .call Fn.endsWith [subject, wanted]
  | _ => .binary subject .eq wanted

/-- Whether the text of an expression matches the text of a filter. -/
def textExpr (subject : Expr) (wanted : String) (flags : MatchFlags) : Expr :=
  if flags.folds then
    modeExpr flags.mode (Expr.lowerCase subject) (Expr.text (Text.lowercase wanted))
  else modeExpr flags.mode subject (Expr.text wanted)

/-- A value as a literal of its type. -/
def literalOf : Value → Expr
  | .text s => Expr.text s
  | .url s => Expr.text s
  | .list items => Expr.text (String.intercalate ", " items)
  | v@(.instant _) => Expr.typed v.toText Xsd.dateTime
  | v@(.integer _) => Expr.typed v.toText Xsd.integer
  | v@(.double _) => Expr.typed v.toText Xsd.double
  | v@(.bool _) => Expr.typed v.toText Xsd.boolean

/-- Whether a variable matches the value of a filter; any item of a list will do. -/
def valueExpr (v : Variable) (wanted : Value) (flags : MatchFlags) : Expr :=
  match wanted with
  | .text s => textExpr (.str (.var v)) s flags
  | .url s => textExpr (.str (.var v)) s flags
  | .list items => Expr.any (items.map fun item => textExpr (.str (.var v)) item flags)
  | other => .binary (.var v) .eq (literalOf other)

/-- The texts a value of a filter stands for. -/
def wantedTexts : Value → List String
  | .list items => items
  | other => [other.toText]

/-- Whether values of a type are compared as texts. -/
def isTextual : ValueType → Bool
  | .text => true
  | .list => true
  | .url => true
  | _ => false

end ContactGraph.Query
