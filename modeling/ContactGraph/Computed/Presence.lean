import ContactGraph.Contact.Names
import ContactGraph.Contact.Basic

/-!
# Global presence

The presences of a contact's accounts are summed up in one : its state is that of the most available
account, its message and nickname those of the account heard of last.
-/

namespace ContactGraph

/-- States of a presence. -/
inductive PresenceState where
  /-- Nothing is known. -/
  | unknown
  /-- There, but not to be seen. -/
  | hidden
  /-- Not there. -/
  | offline
  /-- Away for a while. -/
  | away
  /-- Away for long. -/
  | extendedAway
  /-- There, but busy. -/
  | busy
  /-- There. -/
  | available
  deriving DecidableEq, Repr, Inhabited

namespace PresenceState

/-- Every state. -/
def all : List PresenceState :=
  [.unknown, .hidden, .offline, .away, .extendedAway, .busy, .available]

/-- The name of a state. -/
def name : PresenceState → String
  | .unknown => "Unknown"
  | .hidden => "Hidden"
  | .offline => "Offline"
  | .away => "Away"
  | .extendedAway => "ExtendedAway"
  | .busy => "Busy"
  | .available => "Available"

/-- The state of a name. -/
def ofName? (name : String) : Option PresenceState :=
  all.find? (·.name = name)

/-- How available a state is. -/
def rank : PresenceState → Nat
  | .unknown => 0
  | .hidden => 1
  | .offline => 1
  | .away => 2
  | .extendedAway => 2
  | .busy => 3
  | .available => 4

/-- The state of a presence; unknown when it has none. -/
def ofDetail (d : Detail) : PresenceState :=
  (((d.value? Names.presenceState).bind Value.asText?).bind ofName?).getD .unknown

end PresenceState

namespace Computed

/-- How available a presence is. -/
def rankOf (d : Detail) : Nat :=
  (PresenceState.ofDetail d).rank

/-- When a presence was reported. -/
def timeOf (d : Detail) : Option Instant :=
  (d.value? Names.timestamp).bind Value.asInstant?

/-- Whether a time is later than another; no time is before every time. -/
def isLater : Option Instant → Option Instant → Bool
  | some a, some b => a.order b = .gt
  | some _, none => true
  | none, _ => false

/-- The presences that decide about the global one. -/
structure Leaders where
  /-- The most available presence. -/
  available : Detail
  /-- The most recent presence. -/
  recent : Detail

/-- The leaders after one more presence. A more available presence that is as recent as the most
recent one takes its place too. -/
def Leaders.next (l : Leaders) (d : Detail) : Leaders :=
  let l : Leaders :=
    if rankOf l.available < rankOf d then
      ⟨d, if timeOf d = timeOf l.recent then d else l.recent⟩
    else l
  if isLater (timeOf d) (timeOf l.recent) then { l with recent := d } else l

/-- The leaders of a list of presences. -/
def leaders? : List Detail → Option Leaders
  | [] => none
  | d :: ds => some ((d :: ds).foldl Leaders.next ⟨d, d⟩)

/-- Fields taken from the most recent presence. -/
def recentFields : List String :=
  [Names.nickname, Names.timestamp, Names.customMessage]

/-- Fields taken from the most available presence. -/
def availableFields : List String :=
  [Names.presenceState, Names.presenceStateText, Names.presenceStateImageUrl]

/-- A detail with fields copied from another one, as far as that has them. -/
def copyFields (source : Detail) (fields : List String) (d : Detail) : Detail :=
  fields.foldl (fun d field =>
    match source.value? field with
    | some v => d.set field v
    | none => d) d

/-- The global presence that follows from the leaders. -/
def Leaders.detail (l : Leaders) : Detail :=
  let d := copyFields l.available availableFields
    (copyFields l.recent recentFields { name := Names.globalPresence })
  d.linkAll (l.recent.uri.toList ++ l.available.uri.toList)

/-- Replaces the global presence by the one that follows from the presences. -/
def globalPresence (c : Contact) : Contact :=
  let c := c.without Names.globalPresence
  match leaders? (c.detailsNamed Names.presence) with
  | some l => c.save l.detail
  | none => c

end Computed

end ContactGraph
