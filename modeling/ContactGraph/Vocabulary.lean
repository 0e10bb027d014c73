/-!
# Vocabulary

The names of classes, properties and functions that stand in queries and schemas, by the ontology
that defines them.
-/

namespace ContactGraph

/-- The name of a resource, class, property or function. -/
abbrev Iri := String

namespace Vocabulary

/-! ## Contacts -/

namespace Nco

/-- Where these names live. -/
abbrev base : Iri := "http://www.semanticdesktop.org/ontologies/2007/03/22/nco#"

abbrev personContact : Iri := base ++ "PersonContact"
abbrev contactGroup : Iri := base ++ "ContactGroup"
abbrev defaultContactMe : Iri := base ++ "default-contact-me"
abbrev hasAffiliation : Iri := base ++ "hasAffiliation"
abbrev belongsToGroup : Iri := base ++ "belongsToGroup"
abbrev contactGroupName : Iri := base ++ "contactGroupName"
abbrev contactUid : Iri := base ++ "contactUID"
abbrev nameGiven : Iri := base ++ "nameGiven"
abbrev nameAdditional : Iri := base ++ "nameAdditional"
abbrev nameFamily : Iri := base ++ "nameFamily"
abbrev honorificBefore : Iri := base ++ "nameHonorificPrefix"
abbrev honorificAfter : Iri := base ++ "nameHonorificSuffix"
abbrev fullname : Iri := base ++ "fullname"
abbrev nickname : Iri := base ++ "nickname"
abbrev hasPhoneNumber : Iri := base ++ "hasPhoneNumber"
abbrev phoneNumber : Iri := base ++ "phoneNumber"
abbrev voicePhoneNumber : Iri := base ++ "VoicePhoneNumber"
abbrev cellPhoneNumber : Iri := base ++ "CellPhoneNumber"
abbrev faxNumber : Iri := base ++ "FaxNumber"
abbrev pagerNumber : Iri := base ++ "PagerNumber"
abbrev modemNumber : Iri := base ++ "ModemNumber"
abbrev videoTelephoneNumber : Iri := base ++ "VideoTelephoneNumber"
abbrev bbsNumber : Iri := base ++ "BbsNumber"
abbrev carPhoneNumber : Iri := base ++ "CarPhoneNumber"
abbrev messagingNumber : Iri := base ++ "MessagingNumber"
abbrev hasEmailAddress : Iri := base ++ "hasEmailAddress"
abbrev emailAddress : Iri := base ++ "emailAddress"
abbrev hasPostalAddress : Iri := base ++ "hasPostalAddress"
abbrev streetAddress : Iri := base ++ "streetAddress"
abbrev extendedAddress : Iri := base ++ "extendedAddress"
abbrev pobox : Iri := base ++ "pobox"
abbrev locality : Iri := base ++ "locality"
abbrev region : Iri := base ++ "region"
abbrev postalcode : Iri := base ++ "postalcode"
abbrev country : Iri := base ++ "country"
abbrev url : Iri := base ++ "url"
abbrev websiteUrl : Iri := base ++ "websiteUrl"
abbrev blogUrl : Iri := base ++ "blogUrl"
abbrev hasImAddress : Iri := base ++ "hasIMAddress"
abbrev imId : Iri := base ++ "imID"
abbrev imProtocol : Iri := base ++ "imProtocol"
abbrev imNickname : Iri := base ++ "imNickname"
abbrev imPresence : Iri := base ++ "imPresence"
abbrev imStatusMessage : Iri := base ++ "imStatusMessage"
abbrev imAvatar : Iri := base ++ "imAvatar"
abbrev presenceLastModified : Iri := base ++ "presenceLastModified"
abbrev presenceStatusUnknown : Iri := base ++ "presence-status-unknown"
abbrev presenceStatusOffline : Iri := base ++ "presence-status-offline"
abbrev presenceStatusAvailable : Iri := base ++ "presence-status-available"
abbrev presenceStatusAway : Iri := base ++ "presence-status-away"
abbrev presenceStatusExtendedAway : Iri := base ++ "presence-status-extended-away"
abbrev presenceStatusHidden : Iri := base ++ "presence-status-hidden"
abbrev presenceStatusBusy : Iri := base ++ "presence-status-busy"
abbrev birthDate : Iri := base ++ "birthDate"
abbrev gender : Iri := base ++ "gender"
abbrev genderMale : Iri := base ++ "gender-male"
abbrev genderFemale : Iri := base ++ "gender-female"
abbrev genderOther : Iri := base ++ "gender-other"
abbrev note : Iri := base ++ "note"
abbrev hobby : Iri := base ++ "hobby"
abbrev photo : Iri := base ++ "photo"
abbrev org : Iri := base ++ "org"
abbrev role : Iri := base ++ "role"
abbrev title : Iri := base ++ "title"
abbrev department : Iri := base ++ "department"

end Nco

/-! ## Information elements -/

namespace Nie

/-- Where these names live. -/
abbrev base : Iri := "http://www.semanticdesktop.org/ontologies/2007/01/19/nie#"

abbrev contentCreated : Iri := base ++ "contentCreated"
abbrev contentLastModified : Iri := base ++ "contentLastModified"
abbrev url : Iri := base ++ "url"

end Nie

/-! ## Annotations : tags and free properties -/

namespace Nao

/-- Where these names live. -/
abbrev base : Iri := "http://www.semanticdesktop.org/ontologies/2007/08/15/nao#"

abbrev hasTag : Iri := base ++ "hasTag"
abbrev prefLabel : Iri := base ++ "prefLabel"
abbrev hasProperty : Iri := base ++ "hasProperty"
abbrev propertyName : Iri := base ++ "propertyName"
abbrev propertyValue : Iri := base ++ "propertyValue"

end Nao

/-! ## Phone numbers kept by the store -/

namespace Maemo

/-- Where these names live. -/
abbrev base : Iri := "http://maemo.org/ontologies/tracker#"

abbrev localPhoneNumber : Iri := base ++ "localPhoneNumber"

end Maemo

/-! ## Functions of the store -/

namespace Tracker

/-- Where these names live. -/
abbrev base : Iri := "http://www.tracker-project.org/ontologies/tracker#"

abbrev id : Iri := base ++ "id"
abbrev coalesce : Iri := base ++ "coalesce"

end Tracker

/-! ## Functions on texts -/

namespace Fn

/-- Where these names live. -/
abbrev base : Iri := "http://www.w3.org/2005/xpath-functions#"

abbrev concat : Iri := base ++ "concat"
abbrev lowerCase : Iri := base ++ "lower-case"
abbrev contains : Iri := base ++ "contains"
abbrev startsWith : Iri := base ++ "starts-with"
abbrev endsWith : Iri := base ++ "ends-with"

end Fn

/-! ## Core terms -/

namespace Rdf

/-- An instance has a class. -/
abbrev type : Iri := "http://www.w3.org/1999/02/22-rdf-syntax-ns#type"

/-- A resource has a label. -/
abbrev label : Iri := "http://www.w3.org/2000/01/rdf-schema#label"

end Rdf

namespace Xsd

/-- Where the data types live. -/
abbrev base : Iri := "http://www.w3.org/2001/XMLSchema#"

/-- Text. -/
abbrev string : Iri := base ++ "string"

/-- A date and time. -/
abbrev dateTime : Iri := base ++ "dateTime"

/-- A whole number. -/
abbrev integer : Iri := base ++ "integer"

/-- A double precision number. -/
abbrev double : Iri := base ++ "double"

/-- Yes or no. -/
abbrev boolean : Iri := base ++ "boolean"

end Xsd

end Vocabulary

end ContactGraph
