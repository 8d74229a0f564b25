import BlokliClient.Library.Hex
import BlokliClient.Library.Replay
import BlokliClient.Library.Trail
import BlokliClient.Library.ChangeLog
import BlokliClient.Library.Worklist
import BlokliClient.Library.Machine
import BlokliClient.Wire
import BlokliClient.Api
import BlokliClient.Channels
import BlokliClient.ServiceType
import BlokliClient.Conversions
import BlokliClient.ServicePages
import BlokliClient.Testing.State
import BlokliClient.Testing.Client
import BlokliClient.Testing.Lock
import BlokliClient.Testing.Gap
import BlokliClient.Testing.Tickets
import BlokliClient.Testing.Rollback
import BlokliClient.Testing.Services
import BlokliClient.Testing.Spelling
import BlokliClient.Testing.Channels
import BlokliClient.Health
import BlokliClient.HealthRun
import BlokliClient.Document
import BlokliClient.Lexemes
import BlokliClient.Scanner
import BlokliClient.Splitting
import BlokliClient.Connection
import BlokliClient.Combined
import BlokliClient.Route
import BlokliClient.Hub.State
import BlokliClient.Hub.Program
import BlokliClient.Hub.Frame
import BlokliClient.Hub.Flow
import BlokliClient.Hub.Locals
import BlokliClient.Hub.Dispatch
import BlokliClient.Hub.Slots
import BlokliClient.Hub.Trackers
import BlokliClient.Hub.Deadlines
import BlokliClient.Hub.History
import BlokliClient.Hub.Queues
import BlokliClient.Hub.Overflow
import BlokliClient.Hub.Tokens
import BlokliClient.Hub.Supervision
import BlokliClient.Hub.Documents
import BlokliClient.Hub.Notification
import BlokliClient.Hub.Coverage
import BlokliClient.Hub.Ownership
import BlokliClient.Hub.Ending
import BlokliClient.Hub.Stalls
import BlokliClient.Hub.Resync
import BlokliClient.Hub.Lag
import BlokliClient.Hub.Degraded
import BlokliClient.Library.Solo
import BlokliClient.Hub.Connections
import BlokliClient.Hub.Siblings
import BlokliClient.Hub.Delivery
import BlokliClient.Hub.Rejections
import BlokliClient.Library.Backoff
import BlokliClient.Hub.Backoffs
import BlokliClient.Hub.Cursors
import BlokliClient.Hub.Provenance
import BlokliClient.Hub.Payloads
import BlokliClient.Hub.FrameOrder
import BlokliClient.Hub.Fates
import BlokliClient.Testing.Linear
import BlokliClient.Testing.Converge
import BlokliClient.Testing.Records
import BlokliClient.Hub.Positions
import BlokliClient.Hub.Barring
import BlokliClient.Hub.Resuming
import BlokliClient.Responses
import BlokliClient.Transactions
import BlokliClient.Hub.Tracking
import BlokliClient.Testing.Tracking
import BlokliClient.Testing.Queries
import BlokliClient.Inspector.Overview
import BlokliClient.Inspector.Table
import BlokliClient.Inspector.Arguments
import BlokliClient.Testing.Double
import BlokliClient.Testing.Obedience
import BlokliClient.Inspector.ServiceArguments
