import ContactGraph.Contact.Names
import ContactGraph.Schema.Builder
import ContactGraph.Schema.Set

/-!
# The standard schemas

The details of persons and groups as the contact ontology keeps them.
-/

namespace ContactGraph.Standard

open Vocabulary

/-! ## Fields -/

/-- A step over a property. -/
def along (iri : Iri) : Property :=
  { iri }

/-- A step over a property whose object identifies the detail. -/
def identifying (iri : Iri) : Property :=
  { iri, identifies := true }

/-- A text behind one property. -/
def textField (name : String) (iri : Iri) : FieldDefinition :=
  { name, type := .text, chain := [along iri] }

/-- A value behind a chain of properties. -/
def field (name : String) (type : ValueType) (chain : List Iri) : FieldDefinition :=
  { name, type, chain := chain.map along }

/-- A field that is computed after the fetch. -/
def computedField (name : String) (type : ValueType) : FieldDefinition :=
  { name, type, computed := true }

/-! ## Details of persons and groups -/

/-- The identifier that stays with a contact across stores. -/
def guid : DetailDefinition :=
  { DetailDefinition.ofUnique "Guid" with fields := [textField "Guid" Nco.contactUid] }

/-- When the contact was created and last modified. -/
def timestamp : DetailDefinition :=
  { DetailDefinition.ofUnique "Timestamp" with
    fields := [
      field "CreationTimestamp" .instant [Nie.contentCreated],
      field "LastModified" .instant [Nie.contentLastModified]] }

/-- Notes, kept as plain texts. -/
def note : DetailDefinition :=
  { DetailDefinition.ofMany "Note" with
    chain := [along Nco.note]
    fields := [field "Note" .text []] }

/-- Tags, identified by their resources. -/
def tag : DetailDefinition :=
  { DetailDefinition.ofMany "Tag" with
    chain := [identifying Nao.hasTag]
    fields := [textField "Tag" Nao.prefLabel] }

/-- Images set by hand. -/
def personalAvatar : DetailDefinition :=
  { DetailDefinition.ofMany Names.personalAvatar with
    chain := [identifying Nco.photo]
    fields := [field Names.imageUrl .url [Nie.url]] }

/-- The label, computed from the given details. -/
def displayLabel (dependencies : List String) : DetailDefinition :=
  { DetailDefinition.ofComputed Names.displayLabel dependencies with
    fields := [computedField Names.label .text] }

/-- The avatar, computed from the given details. -/
def avatar (dependencies : List String) : DetailDefinition :=
  { DetailDefinition.ofComputed Names.avatar dependencies with
    fields := [computedField Names.imageUrl .url] }

/-- Nicknames, kept under the given property. -/
def nickname (iri : Iri) : DetailDefinition :=
  { DetailDefinition.ofMany Names.nickname with
    chain := [along iri]
    fields := [field Names.nickname .text []] }

/-! ## Details of persons -/

/-- The name of a person and its parts. -/
def name : DetailDefinition :=
  { DetailDefinition.ofUnique Names.name with
    fields := [
      textField "Prefix" Nco.honorificBefore,
      textField Names.firstName Nco.nameGiven,
      textField Names.middleName Nco.nameAdditional,
      textField Names.lastName Nco.nameFamily,
      textField "Suffix" Nco.honorificAfter,
      textField Names.customLabel Nco.fullname] }

/-- Kinds of phone numbers, by class. -/
def phoneClasses : List Labelled := [
  ⟨Nco.voicePhoneNumber, "Voice"⟩,
  ⟨Nco.cellPhoneNumber, "Mobile"⟩,
  ⟨Nco.faxNumber, "Fax"⟩,
  ⟨Nco.pagerNumber, "Pager"⟩,
  ⟨Nco.modemNumber, "Modem"⟩,
  ⟨Nco.videoTelephoneNumber, "Video"⟩,
  ⟨Nco.bbsNumber, "BulletinBoardSystem"⟩,
  ⟨Nco.carPhoneNumber, "Car"⟩,
  ⟨Nco.messagingNumber, "MessagingCapable"⟩]

/-- Phone numbers by affiliation, with their kinds. -/
def phoneNumber : DetailDefinition :=
  { DetailDefinition.ofMany Names.phoneNumber with
    hasContext := true
    hasOwner := true
    chain := [identifying Nco.hasPhoneNumber]
    fields := [
      textField Names.phoneNumber Nco.phoneNumber,
      { name := Names.subTypes
        type := .list
        subTypes := some (.byClass phoneClasses)
        default := some (.list ["Voice"]) }] }

/-- E-mail addresses by affiliation. -/
def emailAddress : DetailDefinition :=
  { DetailDefinition.ofMany Names.emailAddress with
    hasContext := true
    hasOwner := true
    chain := [identifying Nco.hasEmailAddress]
    fields := [textField Names.emailAddress Nco.emailAddress] }

/-- Postal addresses by affiliation. -/
def address : DetailDefinition :=
  { DetailDefinition.ofMany "Address" with
    hasContext := true
    chain := [identifying Nco.hasPostalAddress]
    fields := [
      textField "Street" Nco.streetAddress,
      textField "ExtendedAddress" Nco.extendedAddress,
      textField "PostOfficeBox" Nco.pobox,
      textField "Locality" Nco.locality,
      textField "Region" Nco.region,
      textField "PostCode" Nco.postalcode,
      textField "Country" Nco.country] }

/-- Web sites by affiliation, told apart by the property that leads to them. -/
def url : DetailDefinition :=
  { DetailDefinition.ofMany "Url" with
    hasContext := true
    chain := [along Nco.url]
    fields := [
      field "Url" .url [],
      { name := "SubType"
        type := .text
        subTypes := some (.byProperty [⟨Nco.websiteUrl, "HomePage"⟩, ⟨Nco.blogUrl, "Blog"⟩])
        default := some (.text "Favourite") }] }

/-- Accounts of online services by affiliation. -/
def onlineAccount : DetailDefinition :=
  { DetailDefinition.ofMany Names.onlineAccount with
    hasContext := true
    hasOwner := true
    chain := [identifying Nco.hasImAddress]
    fields := [
      textField Names.accountUri Nco.imId,
      textField "Protocol" Nco.imProtocol] }

/-- States of a presence, by the resource that stands for them. -/
def presenceStates : List Labelled := [
  ⟨Nco.presenceStatusUnknown, "Unknown"⟩,
  ⟨Nco.presenceStatusAvailable, "Available"⟩,
  ⟨Nco.presenceStatusHidden, "Hidden"⟩,
  ⟨Nco.presenceStatusBusy, "Busy"⟩,
  ⟨Nco.presenceStatusAway, "Away"⟩,
  ⟨Nco.presenceStatusExtendedAway, "ExtendedAway"⟩,
  ⟨Nco.presenceStatusOffline, "Offline"⟩]

/-- The presence of each account, under a URI of its own scheme. -/
def presence : DetailDefinition :=
  { DetailDefinition.ofMany Names.presence with
    hasContext := true
    hasOwner := true
    uriScheme := some "presence"
    chain := [identifying Nco.hasImAddress]
    fields := [
      textField Names.nickname Nco.imNickname,
      { field Names.presenceState .text [Nco.imPresence] with
        instances := presenceStates
        default := some (.text "Unknown") },
      field Names.timestamp .instant [Nco.presenceLastModified],
      textField Names.customMessage Nco.imStatusMessage] }

/-- The presence computed from those of all accounts. -/
def globalPresence : DetailDefinition :=
  { DetailDefinition.ofComputed Names.globalPresence [Names.presence] with
    fields := [
      computedField Names.nickname .text,
      computedField Names.presenceState .text,
      computedField Names.timestamp .instant,
      computedField Names.customMessage .text,
      computedField Names.presenceStateText .text,
      computedField Names.presenceStateImageUrl .url] }

/-- The image of each account. -/
def onlineAvatar : DetailDefinition :=
  { DetailDefinition.ofMany Names.onlineAvatar with
    hasContext := true
    hasOwner := true
    chain := [identifying Nco.hasImAddress]
    fields := [field Names.imageUrl .url [Nco.imAvatar, Nie.url]] }

/-- The day of birth. -/
def birthday : DetailDefinition :=
  { DetailDefinition.ofUnique "Birthday" with
    fields := [field "Birthday" .instant [Nco.birthDate]] }

/-- The gender, kept as a resource. -/
def gender : DetailDefinition :=
  { DetailDefinition.ofUnique "Gender" with
    fields := [
      { field "Gender" .text [Nco.gender] with
        instances := [
          ⟨Nco.genderMale, "Male"⟩,
          ⟨Nco.genderFemale, "Female"⟩,
          ⟨Nco.genderOther, "Unspecified"⟩]
        default := some (.text "Unspecified") }] }

/-- Hobbies, kept as plain texts. -/
def hobby : DetailDefinition :=
  { DetailDefinition.ofMany "Hobby" with
    chain := [along Nco.hobby]
    fields := [field "Hobby" .text []] }

/-- Employers and clubs; the location has no property of its own. -/
def organization : DetailDefinition :=
  { DetailDefinition.ofMany Names.organization with
    chain := [identifying Nco.hasAffiliation]
    fields := [
      field Names.name .text [Nco.org, Nco.fullname],
      textField "Title" Nco.title,
      textField "Role" Nco.role,
      field "Department" .list [Nco.department],
      FieldDefinition.build "Location" .text [.withoutMapping]] }

/-! ## Schemas -/

/-- The schema of persons. -/
def person : Schema where
  type := .person
  classes := [Nco.personContact]
  details := [
    name, nickname Nco.nickname, phoneNumber, emailAddress, address, url, onlineAccount, presence,
    globalPresence, personalAvatar, onlineAvatar,
    avatar [Names.personalAvatar, Names.onlineAvatar, Names.presence],
    birthday, gender, note, hobby, tag, organization, guid, timestamp,
    displayLabel [Names.name, Names.nickname, Names.organization, Names.emailAddress,
      Names.onlineAccount, Names.phoneNumber]]

/-- The schema of groups. -/
def group : Schema where
  type := .group
  classes := [Nco.contactGroup]
  details := [
    nickname Nco.contactGroupName, note, tag, personalAvatar, avatar [Names.personalAvatar], guid,
    timestamp, displayLabel [Names.nickname]]

/-- Both schemas. -/
def schemas : SchemaSet :=
  (SchemaSet.empty.insert person).insert group

end ContactGraph.Standard
