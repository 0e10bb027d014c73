import ContactGraph.Json.Reading
import ContactGraph.Json.Requests
import ContactGraph.Json.Written
import ContactGraph.Proofs.Computed.Avatar
import ContactGraph.Proofs.Computed.Label
import ContactGraph.Proofs.Contact.BackLinks
import ContactGraph.Proofs.Filter.Allowed
import ContactGraph.Proofs.Filter.Combinators
import ContactGraph.Proofs.Filter.Context
import ContactGraph.Proofs.Filter.ListValues
import ContactGraph.Proofs.Filter.PhoneNumbers
import ContactGraph.Proofs.Query.FreeColumn
import ContactGraph.Proofs.Query.Literals
import ContactGraph.Proofs.Query.Scoping
import ContactGraph.Proofs.Query.SubTypes
import ContactGraph.Proofs.Reading.IntegerKeys
import ContactGraph.Proofs.Reading.Prefix
import ContactGraph.Proofs.Reading.Reported
import ContactGraph.Proofs.Reading.Resolving
import ContactGraph.Proofs.Result.Allowed
import ContactGraph.Proofs.Result.Filled
import ContactGraph.Proofs.Result.Labels
import ContactGraph.Proofs.Result.Provenance
import ContactGraph.Proofs.Result.Relationships
import ContactGraph.Proofs.Schema.Builder
import ContactGraph.Proofs.Schema.PackedList
import ContactGraph.Proofs.Sort.Stored
