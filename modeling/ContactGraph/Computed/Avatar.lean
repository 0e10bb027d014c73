import ContactGraph.Computed.Presence
import ContactGraph.Sort.Stable

/-!
# Avatars

The avatars of a contact are its personal ones, then those of its accounts, the most available
account first.
-/

namespace ContactGraph.Computed

/-- How available the account of an avatar is. -/
def accountRank (c : Contact) (avatar : Detail) : Nat :=
  match avatar.uri with
  | none => 0
  | some uri =>
    match (c.detailsNamed Names.presence).find? (·.links.contains uri) with
    | some presence => rankOf presence
    | none => 0

/-- The avatar made of a personal one. -/
def personalAvatar (source : Detail) : Detail :=
  { copyFields source [Names.imageUrl] { name := Names.avatar } with
    context := source.context
    readOnly := source.readOnly }

/-- The avatar made of that of an account, linked to it. -/
def onlineAvatar (source : Detail) : Detail :=
  (personalAvatar source).linkAll source.uri.toList

/-- Replaces personal and account avatars by plain ones. -/
def avatars (c : Contact) : Contact :=
  let others := ((c.without Names.avatar).without Names.personalAvatar).without Names.onlineAvatar
  let online := Sort.stable (fun a b => accountRank others b < accountRank others a)
    (c.detailsNamed Names.onlineAvatar)
  ((c.detailsNamed Names.personalAvatar).map personalAvatar ++ online.map onlineAvatar).foldl
    Contact.save others

end ContactGraph.Computed
