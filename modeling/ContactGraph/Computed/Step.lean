import ContactGraph.Computed.Avatar
import ContactGraph.Computed.Label
import ContactGraph.Computed.Presence

/-!
# Computing details

After a fetch each contact goes through fixed steps : duplicates are removed, the global presence,
the label and the avatars are computed as far as they are wanted, and links are closed.
-/

namespace ContactGraph.Computed

/-- What can be done to a contact after a fetch. -/
inductive Step where
  /-- Only the first of equal details stays. -/
  | removeDuplicates
  /-- The global presence is computed. -/
  | globalPresence
  /-- The label is computed. -/
  | displayLabel (order : NameOrder) (preferNickname : Bool)
  /-- The avatars are computed. -/
  | avatars
  /-- Links are answered by links back. -/
  | closeLinks
  deriving DecidableEq, Repr, Inhabited

namespace Step

/-- The detail a step computes; none for one that is always taken. -/
def produces : Step → Option String
  | .globalPresence => some Names.globalPresence
  | .displayLabel _ _ => some Names.displayLabel
  | .avatars => some Names.avatar
  | .removeDuplicates => none
  | .closeLinks => none

/-- The details a step reads. -/
def dependencies : Step → List String
  | .globalPresence => [Names.presence]
  | .displayLabel _ _ => [
    Names.name, Names.nickname, Names.organization, Names.emailAddress, Names.onlineAccount,
    Names.phoneNumber]
  | .avatars => [Names.personalAvatar, Names.onlineAvatar, Names.presence]
  | .removeDuplicates => []
  | .closeLinks => []

/-- The contact after a step. -/
def apply : Step → Contact → Contact
  | .removeDuplicates, c => c.removeDuplicates
  | .globalPresence, c => Computed.globalPresence c
  | .displayLabel order preferNickname, c => Computed.displayLabel order preferNickname c
  | .avatars, c => Computed.avatars c
  | .closeLinks, c => c.closeLinks

/-- The contact after a step, if the step is to be taken when the details `wanted` are asked for. -/
def applyIfWanted (wanted : NameSet) (c : Contact) (s : Step) : Contact :=
  if s.produces.all wanted.contains then s.apply c else c

end Step

/-- The steps, in order. -/
def steps (settings : Settings) : List Step := [
  .removeDuplicates,
  .globalPresence,
  .displayLabel settings.nameOrder settings.preferNickname,
  .avatars,
  .closeLinks]

/-- The details read by the step that computes a detail. -/
def dependenciesOf (settings : Settings) (name : String) : Option (List String) :=
  ((steps settings).find? (·.produces = some name)).map (·.dependencies)

/-- The contact after all steps that the details `wanted` ask for. -/
def complete (settings : Settings) (wanted : NameSet) (c : Contact) : Contact :=
  (steps settings).foldl (Step.applyIfWanted wanted) c

end ContactGraph.Computed
