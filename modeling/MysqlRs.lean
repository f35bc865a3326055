import MysqlRs.Library.Chunks
import MysqlRs.Library.LittleEndian
import MysqlRs.Library.Outcome
import MysqlRs.Library.Source
import MysqlRs.Library.Stages
import MysqlRs.Library.Runs
import MysqlRs.Library.Histories
import MysqlRs.Library.Supply
import MysqlRs.Library.Matching
import MysqlRs.Library.Rounding
import MysqlRs.Library.Scanning
import MysqlRs.Core.Text
import MysqlRs.Core.Charset
import MysqlRs.Core.Libraries
import MysqlRs.Core.Constants
import MysqlRs.Core.Error
import MysqlRs.Core.Packet
import MysqlRs.Core.PacketStream
import MysqlRs.Core.Float64
import MysqlRs.Core.Converters
import MysqlRs.Core.Hash
import MysqlRs.Values.Hashing
import MysqlRs.Core.FieldDescriptor
import MysqlRs.Core.Result
import MysqlRs.Core.Connection
import MysqlRs.Core.FeedPacket
import MysqlRs.Core.Commands
import MysqlRs.Framing.Fragments
import MysqlRs.Framing.Delivery
import MysqlRs.Framing.Expecting
import MysqlRs.Framing.Chunking
import MysqlRs.Tokio.Connection
import MysqlRs.Framing.Violations
import MysqlRs.Framing.Compression
import MysqlRs.Framing.Frames
import MysqlRs.Framing.Transparency
import MysqlRs.Protocol.Completes
import MysqlRs.Protocol.Consumes
import MysqlRs.Session.Arrivals
import MysqlRs.Protocol.Packets
import MysqlRs.Protocol.Responses
import MysqlRs.Protocol.Decoding
import MysqlRs.Protocol.Parts
import MysqlRs.Auth.Plugins
import MysqlRs.Auth.Machine
import MysqlRs.Tokio.Operations
import MysqlRs.Tokio.Authenticate
import MysqlRs.Tokio.Cursor
import MysqlRs.Tokio.Transaction
import MysqlRs.Session.Awaiting
import MysqlRs.Session.Exchange
import MysqlRs.Session.Owed
import MysqlRs.Session.Draining
import MysqlRs.Session.Operations
import MysqlRs.Tokio.LocalInfile
import MysqlRs.Session.Pairing
import MysqlRs.Tokio.Status
import MysqlRs.Session.Flags
import MysqlRs.Auth.Reaction
import MysqlRs.Auth.Session
import MysqlRs.Auth.Opening
import MysqlRs.Auth.Upgrade
import MysqlRs.Auth.Grouping
import MysqlRs.Auth.Secrets
import MysqlRs.Auth.Success
import MysqlRs.Sql.Escape
import MysqlRs.Tokio.ExecuteMany
import MysqlRs.Tokio.StatementLimit
import MysqlRs.Framing.RoundTrip
import MysqlRs.Session.Fetching
import MysqlRs.Session.Scrolling
import MysqlRs.Session.Columns
import MysqlRs.Session.Cursors
import MysqlRs.Tokio.DictCursor
import MysqlRs.Session.Labelling
import MysqlRs.Session.Visiting
import MysqlRs.Pool.Manager
import MysqlRs.Pool.Steps
import MysqlRs.Pool.Ledger
import MysqlRs.Pool.Capacity
import MysqlRs.Pool.Lifetime
import MysqlRs.Pool.Waiting
import MysqlRs.Session.Watching
import MysqlRs.Session.Transactions
import MysqlRs.Session.Nesting
import MysqlRs.Session.Drainable
import MysqlRs.Session.Settings
import MysqlRs.Pool.Sessions
import MysqlRs.Library.Checked
import MysqlRs.Library.Raw
import MysqlRs.Runtime.Packet
import MysqlRs.Library.Masking
import MysqlRs.Auth.Verification
import MysqlRs.Auth.Switch
import MysqlRs.Core.Utf8
import MysqlRs.Auth.Greeting
import MysqlRs.Library.Reading
import MysqlRs.Auth.HandshakeResponse
import MysqlRs.Runtime.Converters
import MysqlRs.Runtime.Error
import MysqlRs.Runtime.PacketStream
import MysqlRs.Runtime.Result
import MysqlRs.Runtime.Writing
import MysqlRs.Runtime.Cursor
import MysqlRs.Values.TimeSpans
import MysqlRs.Values.RoundTrip
import MysqlRs.Core.OptionFile
import MysqlRs.Options.Grammar
import MysqlRs.Options.Writing
import MysqlRs.Options.Applying
import MysqlRs.Session.Resuming
import MysqlRs.Session.Ending
import MysqlRs.Sql.Literals
import MysqlRs.Sql.Sequences
import MysqlRs.Sql.MultiByte
import MysqlRs.Tokio.BulkInsert
import MysqlRs.Runtime.Auth
import MysqlRs.Runtime.Handling
import MysqlRs.Library.Frame
import MysqlRs.Session.CaughtUp
import MysqlRs.Session.Abandoning
import MysqlRs.Pool.Vetting
import MysqlRs.Pool.Queueing
import MysqlRs.Pool.Custody
import MysqlRs.Pool.Handing
import MysqlRs.Pool.Closing
import MysqlRs.Pool.Reuse
import MysqlRs.Pool.Abandoned
import MysqlRs.Session.Setup
import MysqlRs.Auth.Admission
import MysqlRs.Auth.Login
import MysqlRs.Session.Connecting
import MysqlRs.Values.Numbers
import MysqlRs.Sql.Statements
