import Courier.Connection.Planned
import Courier.Json.Value
import Courier.Response.Status
import Courier.Server.Basic
import Courier.Server.StaticFiles
import Courier.Proofs.Header.Copy
import Courier.Proofs.Encoding.Apply
import Courier.Proofs.Exchange.Steps
import Courier.Proofs.Exchange.Trace
import Courier.Proofs.Delivery.Pump
import Courier.Proofs.Delivery.Chunks
import Courier.Proofs.Exchange.Edits
import Courier.Proofs.Exchange.Message
import Courier.Proofs.Range.Grammar
import Courier.Proofs.Delivery.Sends
import Courier.Proofs.Source.Memory
import Courier.Proofs.Delivery.Heads
import Courier.Proofs.Range.Resolve
import Courier.Proofs.Delivery.InStep
import Courier.Proofs.Delivery.MemoryAnswer
import Courier.Proofs.Delivery.Pushed
import Courier.Proofs.Delivery.Assembly
import Courier.Proofs.Delivery.Settled
import Courier.Proofs.Delivery.Framing
import Courier.Proofs.Delivery.CacheHeaders
import Courier.Proofs.Delivery.HeadFirst
import Courier.Proofs.Delivery.Messages
import Courier.Proofs.Delivery.Integrity
import Courier.Proofs.Delivery.Partial
import Courier.Proofs.Delivery.NotModified
import Courier.Proofs.Delivery.Cookies
import Courier.Proofs.Server.Serving
import Courier.Proofs.Server.Flattening
import Courier.Proofs.Channel.Moves
import Courier.Proofs.Channel.Books
import Courier.Proofs.Channel.Transfer
import Courier.Proofs.Channel.Departure
import Courier.Proofs.Delivery.Writer
import Courier.Proofs.Delivery.HandlerHeaders
import Courier.Proofs.Source.Calls
import Courier.Proofs.Source.File
import Courier.Proofs.Source.Agreement
import Courier.Proofs.Delivery.Lockstep
import Courier.Proofs.Source.ChangingFile
import Courier.Proofs.Delivery.SourceUse
import Courier.Proofs.Channel.Attended
import Courier.Proofs.Delivery.Attended
import Courier.Proofs.Header.Multimap
import Courier.Proofs.Encoding.Acceptance
import Courier.Proofs.Delivery.Completion
import Courier.Proofs.Delivery.Faults
import Courier.Proofs.Routing.Search
import Courier.Proofs.Server.Table
import Courier.Proofs.Server.Dispatch
import Courier.Proofs.Binding.Nothing
import Courier.Proofs.Binding.PathParameters
import Courier.Proofs.Source.Paths
import Courier.Proofs.Source.Walks
import Courier.Proofs.Server.FilesBelow
import Courier.Proofs.Delivery.TypedBytes
import Courier.Proofs.Server.Passing
import Courier.Proofs.Server.SentFiles
import Courier.Proofs.Range.Reading
import Courier.Proofs.Delivery.EditedBody
import Courier.Proofs.Header.Merge
import Courier.Proofs.Cache.Directives
import Courier.Proofs.Range.Selection
import Courier.Proofs.Calendar.HttpDate
import Courier.Proofs.Server.NestedGroups
import Courier.Proofs.Cookie.Attributes
import Courier.Proofs.Cookie.Lookup
