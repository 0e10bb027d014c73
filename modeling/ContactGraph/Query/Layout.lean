import ContactGraph.Query.Term
import ContactGraph.Schema.Definition

/-!
# Layouts

A layout says what the columns of a query hold, so that results can be read without the query. A
detail of which there is at most one has a column for each of its values; of a detail that can be
many one column holds all instances, each as a row of tokens.
-/

namespace ContactGraph.Query

/-- The column of one value of a unique detail. -/
structure Slot where
  /-- The place of the field in the detail. -/
  field : Nat
  /-- The column. -/
  column : Nat
  /-- Whether the column holds free properties instead of values. -/
  custom : Bool
  deriving DecidableEq, Repr, Inhabited

/-- Where the URI of a unique detail comes from. -/
inductive UriSource where
  /-- It is the affiliation. -/
  | affiliation
  /-- It is in a column. -/
  | column (column : Nat)
  deriving DecidableEq, Repr, Inhabited

/-- The column of the values or instances of one sub-type. -/
structure SubTypeColumn where
  /-- The column. -/
  column : Nat
  /-- The sub-type. -/
  label : String
  deriving DecidableEq, Repr, Inhabited

/-- One part of an instance in a packed cell. -/
inductive Token where
  /-- The URI of the detail. -/
  | uri
  /-- The values of a field. -/
  | value (field : Nat)
  /-- The free properties of a field. -/
  | custom (field : Nat)
  /-- The ids of the classes of the resource, for a field with sub-types. -/
  | classes (field : Nat)
  deriving DecidableEq, Repr, Inhabited

/-- The columns of a unique detail. -/
structure UniqueLayout where
  /-- The columns of its values. -/
  slots : List Slot
  /-- Where its URI comes from. -/
  uri : Option UriSource
  /-- The field for the sub-type. -/
  subTypeField : Option Nat
  /-- The columns of the sub-types. -/
  subTypeColumns : List SubTypeColumn
  deriving DecidableEq, Repr, Inhabited

/-- The columns of a detail that can be many. -/
structure MultiLayout where
  /-- The column of all instances. -/
  main : Nat
  /-- The parts of an instance. -/
  tokens : List Token
  /-- The field for the sub-type. -/
  subTypeField : Option Nat
  /-- The columns of the instances of each sub-type. -/
  subTypeColumns : List SubTypeColumn
  deriving DecidableEq, Repr, Inhabited

/-- What the columns of a detail hold. -/
inductive Layout where
  /-- Those of a unique detail. -/
  | unique (layout : UniqueLayout)
  /-- Those of a detail that can be many. -/
  | multi (layout : MultiLayout)
  deriving DecidableEq, Repr, Inhabited

/-- The columns that belong to a detail, from `first` up to but without `last`. -/
structure Binding where
  /-- The detail. -/
  detail : DetailDefinition
  /-- Its first column. -/
  first : Nat
  /-- The column behind its last one. -/
  last : Nat
  /-- What the columns hold. -/
  layout : Layout

/-- The columns of relationships. -/
structure RelationshipColumns where
  /-- Groups the contact belongs to. -/
  groups : Nat
  /-- Members of the group. -/
  members : Option Nat
  deriving DecidableEq, Repr, Inhabited

end ContactGraph.Query
