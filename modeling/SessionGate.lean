import SessionGate.Accounts
import SessionGate.Decimal.Integer
import SessionGate.Decimal.Shortest
import SessionGate.Email
import SessionGate.Errors
import SessionGate.Events
import SessionGate.Gate
import SessionGate.Hash.Argon2id
import SessionGate.Hash.Blake2b
import SessionGate.Hash.Words
import SessionGate.Http.Body
import SessionGate.Http.Cookie
import SessionGate.Http.Handlers
import SessionGate.Http.MediaType
import SessionGate.Http.Message
import SessionGate.Http.Router
import SessionGate.Http.Target
import SessionGate.Json.Failure
import SessionGate.Json.Lexeme
import SessionGate.Json.Reader
import SessionGate.Json.Record
import SessionGate.Json.Skip
import SessionGate.Json.Writer
import SessionGate.LogFilter
import SessionGate.Main
import SessionGate.Network.SocketAddress
import SessionGate.Octets
import SessionGate.Passwords
import SessionGate.Payload
import SessionGate.Program
import SessionGate.Proofs.Concurrency.Calls
import SessionGate.Proofs.Concurrency.Decisions
import SessionGate.Proofs.Concurrency.Foresight
import SessionGate.Proofs.Concurrency.Lag
import SessionGate.Proofs.Concurrency.Linearization
import SessionGate.Proofs.Concurrency.Registration
import SessionGate.Proofs.Concurrency.Simulation
import SessionGate.Proofs.Concurrency.TwoLooks
import SessionGate.Proofs.Decimal.Integer
import SessionGate.Proofs.Decimal.Numeral
import SessionGate.Proofs.Email
import SessionGate.Proofs.Http.Addresses
import SessionGate.Proofs.Http.Agreement
import SessionGate.Proofs.Http.Answers
import SessionGate.Proofs.Http.Carrier
import SessionGate.Proofs.Http.Coherence
import SessionGate.Proofs.Http.Conversations
import SessionGate.Proofs.Http.Cookie
import SessionGate.Proofs.Http.Deeds
import SessionGate.Proofs.Http.Gate
import SessionGate.Proofs.Http.Health
import SessionGate.Proofs.Http.Outcomes
import SessionGate.Proofs.Http.Responses
import SessionGate.Proofs.Http.Runs
import SessionGate.Proofs.Http.Statuses
import SessionGate.Proofs.Http.Strangers
import SessionGate.Proofs.Http.Traces
import SessionGate.Proofs.Http.UnknownMembers
import SessionGate.Proofs.Json.Collecting
import SessionGate.Proofs.Json.Lexemes
import SessionGate.Proofs.Json.Members
import SessionGate.Proofs.Json.Objects
import SessionGate.Proofs.Json.Values
import SessionGate.Proofs.Json.Written
import SessionGate.Proofs.Network.SocketAddress
import SessionGate.Proofs.Passwords
import SessionGate.Proofs.Payload
import SessionGate.Proofs.Runs.Accounts
import SessionGate.Proofs.Runs.Act
import SessionGate.Proofs.Runs.Addresses
import SessionGate.Proofs.Runs.Declared
import SessionGate.Proofs.Runs.Entries
import SessionGate.Proofs.Runs.Health
import SessionGate.Proofs.Runs.Mirrored
import SessionGate.Proofs.Runs.Payloads
import SessionGate.Proofs.Runs.Privilege
import SessionGate.Proofs.Runs.Reachable
import SessionGate.Proofs.Runs.Secrets
import SessionGate.Proofs.Runs.Sweeping
import SessionGate.Proofs.Sessions.AnyStores
import SessionGate.Proofs.Sessions.Conversations
import SessionGate.Proofs.Sessions.Deeds
import SessionGate.Proofs.Sessions.Expiry
import SessionGate.Proofs.Sessions.Health
import SessionGate.Proofs.Sessions.Hints
import SessionGate.Proofs.Sessions.History
import SessionGate.Proofs.Sessions.Lifecycle
import SessionGate.Proofs.Sessions.Operations
import SessionGate.Proofs.Settings.Environment
import SessionGate.Proofs.Settings.Lookup
import SessionGate.Proofs.Settings.Validity
import SessionGate.Proofs.Store.ExpiringMap
import SessionGate.Proofs.Store.Hosting
import SessionGate.Proofs.Store.Matching
import SessionGate.Proofs.Store.Numbering
import SessionGate.Proofs.Store.Term
import SessionGate.Proofs.Store.UserTable
import SessionGate.Proofs.Text.Base64Url
import SessionGate.Proofs.Text.Dividing
import SessionGate.Proofs.Text.Trimming
import SessionGate.Proofs.Text.Visible
import SessionGate.Proofs.Time.Calendar
import SessionGate.Proofs.Time.Instant
import SessionGate.Proofs.Time.Stamp
import SessionGate.Proofs.Token
import SessionGate.Proofs.World.Calls
import SessionGate.Proofs.World.Conversation
import SessionGate.Proofs.World.Core
import SessionGate.Proofs.World.Faults
import SessionGate.Proofs.World.Outages
import SessionGate.Proofs.World.Traces
import SessionGate.Sessions
import SessionGate.Settings
import SessionGate.Startup
import SessionGate.Store.ExpiringMap
import SessionGate.Store.UserTable
import SessionGate.Text.Base64Url
import SessionGate.Text.Blank
import SessionGate.Text.Extending
import SessionGate.Text.Inspection
import SessionGate.Text.Quoted
import SessionGate.Text.Unprintable
import SessionGate.Text.Utf8
import SessionGate.Time.Calendar
import SessionGate.Time.Instant
import SessionGate.Time.Stamp
import SessionGate.Token
import SessionGate.World
