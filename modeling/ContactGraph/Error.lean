import ContactGraph.Contact.Id
import ContactGraph.Text.Quoted

/-!
# Errors

How an operation can fail. A `Rejection` is a request, a schema or a configuration that cannot be
served, by its cause; an `Error` is what a caller of the library sees, with its message and its
kind.
-/

namespace ContactGraph

/-- Everything a caller can be told. -/
inductive Error where
  /-- Something asked for makes no sense. -/
  | badArgument (reason : String)
  /-- There is no such contact. -/
  | doesNotExist (id : LocalId)
  /-- A detail is not as it should be. -/
  | invalidDetail (reason : String)
  /-- A detail of which there can be only one was saved twice. -/
  | duplicateUniqueDetail (id : LocalId) (detail : String)
  /-- Something went wrong inside. -/
  | unspecified (reason : String)
  /-- Something asked for cannot be done. -/
  | notSupported (reason : String)
  /-- The request was canceled. -/
  | canceled
  /-- There is no such contact type. -/
  | unknownContactType (name : String)
  /-- The store did not answer a query. -/
  | execution (reason : String)
  /-- The store did not resolve names to ids. -/
  | resolution (reason : String)
  /-- The configuration is not usable. -/
  | configuration (reason : String)
  deriving DecidableEq, Repr, Inhabited

/-- What kind of error a caller has to deal with. -/
inductive ErrorKind where
  /-- The request is at fault. -/
  | badArgument
  /-- The contact is not there. -/
  | doesNotExist
  /-- A detail is at fault. -/
  | invalidDetail
  /-- Anything else. -/
  | unspecified
  /-- The request is beyond what can be done. -/
  | notSupported
  /-- The caller gave up. -/
  | canceled
  deriving DecidableEq, Repr, Inhabited

/-- The name a kind goes by. -/
def ErrorKind.name : ErrorKind → String
  | .badArgument => "BadArgument"
  | .doesNotExist => "DoesNotExist"
  | .invalidDetail => "InvalidDetail"
  | .unspecified => "Unspecified"
  | .notSupported => "NotSupported"
  | .canceled => "Canceled"

namespace Error

/-- The kind of an error. -/
def kind : Error → ErrorKind
  | .badArgument _ => .badArgument
  | .unknownContactType _ => .badArgument
  | .configuration _ => .badArgument
  | .doesNotExist _ => .doesNotExist
  | .invalidDetail _ => .invalidDetail
  | .duplicateUniqueDetail _ _ => .invalidDetail
  | .notSupported _ => .notSupported
  | .canceled => .canceled
  | .unspecified _ => .unspecified
  | .execution _ => .unspecified
  | .resolution _ => .unspecified

/-- The text of an error. -/
def message : Error → String
  | .badArgument reason => "core error: bad argument: " ++ reason
  | .doesNotExist id => "core error: contact " ++ toString id.toNat ++ " does not exist"
  | .invalidDetail reason => "core error: invalid detail: " ++ reason
  | .duplicateUniqueDetail id detail =>
    "core error: contact " ++ toString id.toNat ++ " already has a " ++ detail ++ " detail"
  | .unspecified reason => "core error: unspecified error: " ++ reason
  | .notSupported reason => "core error: not supported: " ++ reason
  | .canceled => "core error: request canceled"
  | .unknownContactType name => "core error: unknown contact type: " ++ Text.quoted name
  | .execution reason => "query execution failed: " ++ reason
  | .resolution reason => "id resolution failed: " ++ reason
  | .configuration reason => "invalid configuration: " ++ reason

end Error

/-- Why a request, a schema or a configuration cannot be served. -/
inductive Rejection where
  /-- A filter on ids names none. -/
  | noIds
  /-- A filter on a detail that is computed after the fetch. -/
  | computedDetail (detail : String)
  /-- A filter on the context of a detail that has none. -/
  | noContext (detail : String)
  /-- A filter on a field that the detail does not have. -/
  | noField (detail field : String)
  /-- A filter on a field that is computed after the fetch. -/
  | computedField (detail field : String)
  /-- A range of a field whose values have no order in the store. -/
  | noRange (detail field : String)
  /-- A filter on removed contacts. -/
  | removalsUnknown
  /-- A sort order that the store cannot follow. -/
  | orderUnknown
  /-- A query with neither a column nor a pattern. -/
  | emptyQuery
  /-- A contact type without a schema. -/
  | noSchema (type : ContactType)
  /-- A detail with several instances but no resources for them. -/
  | noResourceChain (detail : String)
  /-- A field with sub-types by property but no property. -/
  | noPropertyChain (detail field : String)
  /-- A unique detail with sub-types by class. -/
  | classSubTypes (detail : String)
  /-- Phone numbers are compared by no digits. -/
  | noPhoneDigits
  /-- The default graph has no name. -/
  | noDefaultGraph
  deriving DecidableEq, Repr, Inhabited

/-- What a caller sees of a rejection. -/
def Rejection.error : Rejection → Error
  | .noIds => .badArgument "local id filter without ids"
  | .computedDetail d => .badArgument ("cannot filter on computed detail " ++ d)
  | .noContext d => .badArgument (d ++ " has no context")
  | .noField d f => .badArgument (d ++ " has no field " ++ f)
  | .computedField d f => .badArgument ("cannot filter on computed field " ++ d ++ "." ++ f)
  | .noRange d f => .badArgument ("cannot range-filter on " ++ d ++ "." ++ f)
  | .removalsUnknown => .notSupported "removed contacts are not tracked"
  | .orderUnknown => .notSupported "sort order cannot be evaluated by the store"
  | .emptyQuery => .unspecified "assembled query is empty"
  | .noSchema t => .badArgument ("no schema for contact type " ++ t.name)
  | .noResourceChain d => .badArgument ("multi-valued detail " ++ d ++ " needs a resource chain")
  | .noPropertyChain d f =>
    .badArgument ("property sub-types of " ++ d ++ "." ++ f ++ " need a property chain")
  | .classSubTypes d => .notSupported ("unique detail " ++ d ++ " cannot carry class sub-types")
  | .noPhoneDigits => .configuration "local_phone_number_length must be at least 1"
  | .noDefaultGraph => .configuration "default_graph must not be empty"

end ContactGraph
