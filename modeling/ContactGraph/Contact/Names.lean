/-!
# Names of details and fields

The details and fields that the library itself reads or computes. All other names are only data.
-/

namespace ContactGraph.Names

/-- The contact type, as a pseudo-detail and its field. -/
abbrev type : String := "Type"
/-- The pseudo-field for the context of a detail. -/
abbrev context : String := "Context"
/-- The field for several sub-types. -/
abbrev subTypes : String := "SubTypes"
/-- The name of a person, and the field for the name of an organization. -/
abbrev name : String := "Name"
/-- The given name. -/
abbrev firstName : String := "FirstName"
/-- The additional name. -/
abbrev middleName : String := "MiddleName"
/-- The family name. -/
abbrev lastName : String := "LastName"
/-- A label set by hand. -/
abbrev customLabel : String := "CustomLabel"
/-- The nickname, as a detail and as a field. -/
abbrev nickname : String := "Nickname"
/-- The computed label. -/
abbrev displayLabel : String := "DisplayLabel"
/-- The field of the computed label. -/
abbrev label : String := "Label"
/-- The employer or club. -/
abbrev organization : String := "Organization"
/-- An e-mail address, as a detail and as a field. -/
abbrev emailAddress : String := "EmailAddress"
/-- A phone number, as a detail and as a field. -/
abbrev phoneNumber : String := "PhoneNumber"
/-- An account of an online service. -/
abbrev onlineAccount : String := "OnlineAccount"
/-- The address of an account. -/
abbrev accountUri : String := "AccountUri"
/-- The presence of one account. -/
abbrev presence : String := "Presence"
/-- The presence computed from all accounts. -/
abbrev globalPresence : String := "GlobalPresence"
/-- When a presence was reported. -/
abbrev timestamp : String := "Timestamp"
/-- The state of a presence. -/
abbrev presenceState : String := "PresenceState"
/-- The state of a presence in words. -/
abbrev presenceStateText : String := "PresenceStateText"
/-- An image for the state of a presence. -/
abbrev presenceStateImageUrl : String := "PresenceStateImageUrl"
/-- The message of a presence. -/
abbrev customMessage : String := "CustomMessage"
/-- The computed avatar. -/
abbrev avatar : String := "Avatar"
/-- An avatar set by hand. -/
abbrev personalAvatar : String := "PersonalAvatar"
/-- The avatar of an account. -/
abbrev onlineAvatar : String := "OnlineAvatar"
/-- The address of an image. -/
abbrev imageUrl : String := "ImageUrl"

end ContactGraph.Names
