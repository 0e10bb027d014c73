import ContactGraph.Contact.Basic
import ContactGraph.Contact.Names
import ContactGraph.Settings

/-!
# Display labels

A contact is labelled by its full name, or failing that by the first of several other details that
has a text.
-/

namespace ContactGraph.Computed

/-- The first text that is not empty; empty when there is none. -/
def firstNonempty (texts : List String) : String :=
  (texts.find? (· ≠ "")).getD ""

/-- The first text of a field that is not empty, over all details of a name. -/
def firstText (c : Contact) (detail field : String) : String :=
  firstNonempty ((c.detailsNamed detail).map (·.text field))

/-- Given and family name, as far as they are known. -/
def fullName (order : NameOrder) (c : Contact) : String :=
  let first := firstText c Names.name Names.firstName
  let last := firstText c Names.name Names.lastName
  let parts := match order with
    | .firstLast => [first, last]
    | .lastFirst => [last, first]
  String.intercalate " " (parts.filter (· ≠ ""))

/-- The texts a contact can be labelled by, the best first. -/
def labelChoices (order : NameOrder) (preferNickname : Bool) (c : Contact) : List String :=
  let nickname := firstText c Names.nickname Names.nickname
  [ if preferNickname then nickname else "",
    fullName order c,
    firstText c Names.name Names.customLabel,
    nickname,
    firstText c Names.name Names.middleName,
    firstText c Names.organization Names.name,
    firstText c Names.emailAddress Names.emailAddress,
    firstText c Names.onlineAccount Names.accountUri,
    firstText c Names.phoneNumber Names.phoneNumber ]

/-- The label of a contact; empty when nothing can label it. -/
def label (order : NameOrder) (preferNickname : Bool) (c : Contact) : String :=
  firstNonempty (labelChoices order preferNickname c)

/-- Replaces the label of a contact. -/
def displayLabel (order : NameOrder) (preferNickname : Bool) (c : Contact) : Contact :=
  let c := c.without Names.displayLabel
  let text := label order preferNickname c
  if text = "" then c
  else c.save ({ name := Names.displayLabel : Detail }.set Names.label (.text text))

end ContactGraph.Computed
