import ContactGraph.Sort.Order
import ContactGraph.Sort.Stable

/-!
# Sorting and merging contacts

Contacts are sorted stably by sort orders; two sorted lists are joined so that on a tie the left one
goes first.
-/

namespace ContactGraph.Sort

/-- Contacts sorted by sort orders. -/
def contacts (orders : List SortOrder) (cs : List Contact) : List Contact :=
  stableBy (Contact.order orders) cs

/-- Two sorted lists of contacts joined in order; on a tie the left one goes first. -/
def mergeContacts (orders : List SortOrder) (left right : List Contact) : List Contact :=
  left.merge right fun a b => Contact.order orders a b != .gt

end ContactGraph.Sort
