import ContactGraph.Query.Restriction
import ContactGraph.Sort.Order

/-!
# Ordering in the store

The store sorts values without letter case and puts contacts without a value first. A sort order
that asks for just that becomes an order condition; any other has to be followed after the fetch.
-/

namespace ContactGraph.Query

/-- Whether the store sorts the way a sort order asks for. -/
def isStoreOrder (o : SortOrder) : Bool :=
  !o.caseSensitive && o.blanks = .first

/-- The key of a contact : the first value that the patterns lead to. -/
def orderKey (r : Reach) (textual : Bool) : Expr :=
  let key := Expr.select (Select.first (.var r.value) r.group)
  if textual then Expr.lowerCase key else key

/-- The key for a sort order, unless the store cannot follow it. -/
def orderKey? (schema : Schema) (o : SortOrder) : Fresh (Option Expr) :=
  if !isStoreOrder o then pure none
  else
    match schema.detail? o.detail with
    | none => do
      let r ← reachCustom o.detail (some o.field)
      pure (some (orderKey r true))
    | some d =>
      if d.computed then pure none
      else
        match orderedField? d o.field with
        | none => pure none
        | some f => do
          let r ← reachField d f
          pure (some (orderKey r (isTextual f.type)))

/-- The order conditions for sort orders, unless the store cannot follow one of them. -/
def orderConditions (schema : Schema) : List SortOrder → Fresh (Option (List OrderCondition))
  | [] => pure (some [])
  | o :: os => do
    match ← orderKey? schema o with
    | none => pure none
    | some key => do
      let rest ← orderConditions schema os
      pure (rest.map fun cs => .mk key (o.direction = .descending) :: cs)

end ContactGraph.Query
