import OrderDesk.Text.Base64
import OrderDesk.Time.Layout
import OrderDesk.Time.Span
import OrderDesk.Digest.Hmac
import OrderDesk.Page
import OrderDesk.Desk.Messages
import OrderDesk.Store.Repair
import OrderDesk.Telemetry.Provider
import OrderDesk.Service.Start
import OrderDesk.Desk.Catalog
import OrderDesk.Http.Serve
import OrderDesk.Log.Line
import OrderDesk.Event.Delivery
import OrderDesk.Payment.Outcome
import OrderDesk.Settings.Load
import OrderDesk.Main
import OrderDesk.Proofs.Action
import OrderDesk.Proofs.Store.Transaction
import OrderDesk.Proofs.Decimal.Text
import OrderDesk.Proofs.Store.Engine
import OrderDesk.Proofs.Order.Amounts
import OrderDesk.Proofs.Store.Products
import OrderDesk.Proofs.Store.Calls
import OrderDesk.Proofs.Desk.Steps
import OrderDesk.Proofs.Desk.Atomicity
import OrderDesk.Proofs.Desk.Reservation
import OrderDesk.Proofs.Desk.Creation
import OrderDesk.Proofs.Store.Sound
import OrderDesk.Proofs.Desk.Catalog
import OrderDesk.Proofs.Desk.Invariant
import OrderDesk.Proofs.Desk.Raising
import OrderDesk.Proofs.Desk.Runs
import OrderDesk.Proofs.Redis.Keyspace
import OrderDesk.Proofs.Redis.Idempotency
import OrderDesk.Proofs.Desk.Deeds
import OrderDesk.Proofs.Desk.Conservation
import OrderDesk.Proofs.Store.Reading
import OrderDesk.Proofs.Desk.Reading
import OrderDesk.Proofs.Number.Word
import OrderDesk.Proofs.Redis.OrderCache
import OrderDesk.Proofs.Desk.Keyed
import OrderDesk.Proofs.Desk.OncePerKey
import OrderDesk.Proofs.Desk.Replays
import OrderDesk.Proofs.Json.Documents
import OrderDesk.Proofs.Time.Calendar
import OrderDesk.Proofs.Time.Stamp
import OrderDesk.Proofs.Desk.Agreement
import OrderDesk.Proofs.Desk.Readers
import OrderDesk.Proofs.Desk.Removal
import OrderDesk.Proofs.Desk.Redelivery
import OrderDesk.Proofs.Desk.Convergence
import OrderDesk.Proofs.Desk.Announced
import OrderDesk.Proofs.Desk.Journal
import OrderDesk.Proofs.Text.Octets
import OrderDesk.Proofs.Event.Message
import OrderDesk.Proofs.Store.Saving
import OrderDesk.Proofs.Store.Archive
import OrderDesk.Proofs.Access.Token
import OrderDesk.Proofs.Http.Layers
import OrderDesk.Proofs.Http.Permission
import OrderDesk.Proofs.Store.Finding
import OrderDesk.Proofs.Desk.Immutable
import OrderDesk.Proofs.Store.Dialects
import OrderDesk.Proofs.Store.Ascending
import OrderDesk.Proofs.Store.Paging
import OrderDesk.Proofs.Desk.LockOrder
import OrderDesk.Proofs.Json.Places
import OrderDesk.Proofs.Http.Validation
import OrderDesk.Proofs.Http.Redaction
import OrderDesk.Proofs.Text.Cuts
import OrderDesk.Proofs.Json.Parallel
import OrderDesk.Proofs.Http.AccessLog
import OrderDesk.Proofs.Text.Base64
import OrderDesk.Proofs.Number.Binary64
import OrderDesk.Proofs.Json.Meanings
import OrderDesk.Proofs.Access.Issued
import OrderDesk.Proofs.Http.Tokens
import OrderDesk.Proofs.Http.Listings
import OrderDesk.Proofs.Store.Loading
import OrderDesk.Proofs.Store.Pattern
import OrderDesk.Proofs.Desk.Search
import OrderDesk.Proofs.Store.Categories
import OrderDesk.Proofs.Desk.Naming
import OrderDesk.Proofs.Http.Failures
import OrderDesk.Proofs.Decimal.Cents
import OrderDesk.Proofs.Desk.Prices
import OrderDesk.Proofs.Settings.Trees
import OrderDesk.Proofs.Settings.Files
import OrderDesk.Proofs.Settings.Leaves
import OrderDesk.Proofs.Settings.Precedence
import OrderDesk.Proofs.Desk.LowStock
import OrderDesk.Proofs.Store.Script
import OrderDesk.Proofs.Store.Nesting
import OrderDesk.Proofs.Order.Tally
