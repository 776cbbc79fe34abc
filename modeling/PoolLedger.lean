import PoolLedger.Asset
import PoolLedger.Database.Ledger
import PoolLedger.Database.Record
import PoolLedger.Database.Row
import PoolLedger.Database.Session
import PoolLedger.Database.Statement
import PoolLedger.Event.Basic
import PoolLedger.Event.Json
import PoolLedger.Event.Kind
import PoolLedger.Json.Basic
import PoolLedger.Json.Parser
import PoolLedger.Json.Printer
import PoolLedger.Json.Record
import PoolLedger.Ledger.Buckets
import PoolLedger.Ledger.Calendar
import PoolLedger.Ledger.Call
import PoolLedger.Ledger.Change
import PoolLedger.Ledger.Derive
import PoolLedger.Ledger.Error
import PoolLedger.Ledger.Json
import PoolLedger.Ledger.Store
import PoolLedger.Main
import PoolLedger.Net.Address
import PoolLedger.Net.Direction
import PoolLedger.Net.DirectionTable
import PoolLedger.Net.Domain
import PoolLedger.Net.DomainTable
import PoolLedger.Net.Host
import PoolLedger.Net.Percent
import PoolLedger.Net.Punycode
import PoolLedger.Net.Url
import PoolLedger.Node.Blocks
import PoolLedger.Node.Feed
import PoolLedger.Node.Lenient
import PoolLedger.Node.Request
import PoolLedger.Node.Timestamp
import PoolLedger.Number.Binary64
import PoolLedger.Number.Decimal
import PoolLedger.Number.Rounding
import PoolLedger.Number.Shortest
import PoolLedger.Number.Sum
import PoolLedger.Pipeline.BlockScanner
import PoolLedger.Pipeline.Coordinator
import PoolLedger.Pipeline.Delivery
import PoolLedger.Pipeline.Dispatcher
import PoolLedger.Pipeline.FeedScanner
import PoolLedger.Pipeline.Loop
import PoolLedger.Pipeline.Status
import PoolLedger.Report.Attributes
import PoolLedger.Report.Block
import PoolLedger.Report.Decode
import PoolLedger.Report.RawEvent
import PoolLedger.Service.Arguments
import PoolLedger.Service.Config
import PoolLedger.Service.Probe
import PoolLedger.Text.Base64
import PoolLedger.Text.Blank
import PoolLedger.Text.Case
import PoolLedger.Text.CaseTable
import PoolLedger.Text.Compose
import PoolLedger.Text.ComposeTable
import PoolLedger.Text.Integer
import PoolLedger.Text.PrintTable
import PoolLedger.Text.Quoted
import PoolLedger.Text.Reader
import PoolLedger.Toml.Basic
import PoolLedger.Toml.Parser
import PoolLedger.Toml.Section
import PoolLedger.Toml.Text
import PoolLedger.Toml.Word
import PoolLedger.Tx
import PoolLedger.Proofs.Ledger.Identity
import PoolLedger.Proofs.Ledger.Lookup
import PoolLedger.Proofs.Race.Basic
import PoolLedger.Proofs.Race.Settlement
import PoolLedger.Proofs.Race.Charge
import PoolLedger.Proofs.Dispatch.Redelivery
import PoolLedger.Proofs.Dispatch.Rollback
import PoolLedger.Proofs.Dispatch.Correlation
import PoolLedger.Proofs.Dispatch.Assembly
import PoolLedger.Proofs.Dispatch.DoubleHop
import PoolLedger.Proofs.Race.Fleet
import PoolLedger.Proofs.Race.Reconciliation
import PoolLedger.Proofs.Dispatch.Replay
import PoolLedger.Proofs.Dispatch.Restart
import PoolLedger.Proofs.Ledger.Calls
import PoolLedger.Proofs.Race.Chronicle
import PoolLedger.Proofs.Pipeline.Feed
import PoolLedger.Proofs.Pipeline.Coordinator
import PoolLedger.Proofs.Pipeline.Heights
import PoolLedger.Proofs.Pipeline.Intake
import PoolLedger.Proofs.Pipeline.Succession
import PoolLedger.Proofs.Pipeline.Handover
import PoolLedger.Proofs.Pipeline.Numbering
import PoolLedger.Proofs.Pipeline.Cursor
import PoolLedger.Proofs.Ledger.Order
import PoolLedger.Proofs.Ledger.Calendar
import PoolLedger.Proofs.Ledger.Partition
import PoolLedger.Proofs.Database.Session
import PoolLedger.Proofs.Database.Transaction
import PoolLedger.Proofs.Text.Upper
import PoolLedger.Proofs.Text.Codec
import PoolLedger.Proofs.Text.Asset
import PoolLedger.Proofs.Database.Buckets
import PoolLedger.Proofs.Ledger.Buckets
import PoolLedger.Proofs.Ledger.Wrapping
import PoolLedger.Proofs.Ledger.Denomination
import PoolLedger.Proofs.Report.Attributes
import PoolLedger.Proofs.Report.Form
import PoolLedger.Proofs.Report.Payload
import PoolLedger.Proofs.Report.Wire
import PoolLedger.Proofs.Ledger.SwapVolume
import PoolLedger.Proofs.Dispatch.Draining
import PoolLedger.Proofs.Dispatch.Frame
import PoolLedger.Proofs.Text.Canonical
import PoolLedger.Proofs.Text.Words
import PoolLedger.Proofs.Database.Changes
import PoolLedger.Proofs.Report.Coins
import PoolLedger.Proofs.Json.Codec
import PoolLedger.Proofs.Database.Events
import PoolLedger.Proofs.Json.Order
