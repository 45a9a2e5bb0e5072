import EntityMapping.Mapper
import EntityMapping.Object.Describe
import EntityMapping.Schema.Declaration
import EntityMapping.Schema.Describe
import EntityMapping.Schema.Loaded
import EntityMapping.Validation.Json
import EntityMapping.Proofs.Converter.RoundTrip
import EntityMapping.Proofs.Store.Invariant
import EntityMapping.Proofs.Template.Saving
import EntityMapping.Proofs.Workflow.Trace
import EntityMapping.Proofs.Converter.Loading
import EntityMapping.Proofs.Converter.OwnNames
import EntityMapping.Proofs.Converter.Levels
import EntityMapping.Proofs.Converter.Presence
import EntityMapping.Proofs.Converter.Conforming
import EntityMapping.Proofs.Converter.Thinning
import EntityMapping.Proofs.Converter.Strictness
import EntityMapping.Proofs.Converter.Failure
import EntityMapping.Proofs.Store.Lookup
import EntityMapping.Proofs.Template.Lookup
import EntityMapping.Proofs.Value.Wire
import EntityMapping.Proofs.Number.Digits
import EntityMapping.Proofs.Number.Finite
import EntityMapping.Proofs.Json.Numeral
import EntityMapping.Proofs.Json.Nesting
import EntityMapping.Proofs.Calendar.Reading
import EntityMapping.Proofs.Uuid
import EntityMapping.Proofs.Pagination
import EntityMapping.Proofs.Template.Shapes
import EntityMapping.Proofs.Template.Paging
import EntityMapping.Proofs.Number.Order
import EntityMapping.Proofs.Store.Order
import EntityMapping.Proofs.Number.Nearest
import EntityMapping.Proofs.Store.Sorting
import EntityMapping.Proofs.Template.Sorting
import EntityMapping.Proofs.Store.Numbering
import EntityMapping.Proofs.Template.Limits
import EntityMapping.Proofs.Store.SortKeys
import EntityMapping.Proofs.Template.Precedence
import EntityMapping.Proofs.Converter.Filling
import EntityMapping.Proofs.Converter.Missing
import EntityMapping.Proofs.Converter.Strategies
import EntityMapping.Proofs.Converter.Flattening
import EntityMapping.Proofs.Converter.Events
import EntityMapping.Proofs.Record.OrderedMap
import EntityMapping.Proofs.Value.NamesOnce
import EntityMapping.Proofs.Value.UpToOrder
import EntityMapping.Proofs.Store.Selection
import EntityMapping.Proofs.Store.Frame
import EntityMapping.Proofs.Converter.KeyValue
import EntityMapping.Proofs.Template.Windows
import EntityMapping.Proofs.Number.Exact
import EntityMapping.Proofs.Scalar.Coding
import EntityMapping.Proofs.Repository.DynamicReturn
import EntityMapping.Proofs.Collection
import EntityMapping.Proofs.Converter.Collections
import EntityMapping.Proofs.Schema.Embedding
import EntityMapping.Proofs.Converter.Termination
