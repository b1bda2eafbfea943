import StreamWarden.AppConfig
import StreamWarden.Console.Answer
import StreamWarden.Console.Basic
import StreamWarden.Console.Fields
import StreamWarden.Console.Provider
import StreamWarden.Console.Records
import StreamWarden.Console.Scenario
import StreamWarden.Console.Sessions
import StreamWarden.Console.StoreJson
import StreamWarden.Enforce.Evaluate
import StreamWarden.Enforce.LiveSession
import StreamWarden.Enforce.Select
import StreamWarden.Enforce.Tick
import StreamWarden.Enforce.Violation
import StreamWarden.Error
import StreamWarden.Json.Basic
import StreamWarden.Json.Reader
import StreamWarden.Json.Writer
import StreamWarden.Main
import StreamWarden.Media.Adapter
import StreamWarden.Media.Error
import StreamWarden.Media.Failover
import StreamWarden.Media.Http
import StreamWarden.Media.Jellyfin.ItemCache
import StreamWarden.Media.Jellyfin.Requests
import StreamWarden.Media.Jellyfin.SessionId
import StreamWarden.Media.Jellyfin.Sessions
import StreamWarden.Media.Plex
import StreamWarden.Media.Scripted
import StreamWarden.Media.Server
import StreamWarden.Media.Session
import StreamWarden.Monitor.Collect
import StreamWarden.Monitor.Diff
import StreamWarden.Net.Address
import StreamWarden.Net.Url
import StreamWarden.Number.Binary64
import StreamWarden.Number.Decimal
import StreamWarden.Number.Shortest
import StreamWarden.Policy.Basic
import StreamWarden.Policy.Options
import StreamWarden.Proofs.Evaluation
import StreamWarden.Schedule.Backoff
import StreamWarden.Store.Basic
import StreamWarden.Store.Enforcements
import StreamWarden.Store.Retention
import StreamWarden.Store.Rows
import StreamWarden.Store.Sessions
import StreamWarden.Store.Users
import StreamWarden.Text.Ascii
import StreamWarden.Text.Blank
import StreamWarden.Text.Integer
import StreamWarden.Text.Lower
import StreamWarden.Time.Instant
import StreamWarden.Xml.Element
import StreamWarden.Xml.Reader
import StreamWarden.Proofs.Ledger
import StreamWarden.Proofs.TickRuns
import StreamWarden.Proofs.EnforcementLog
import StreamWarden.Proofs.WarningCooldown
import StreamWarden.Proofs.Routing
import StreamWarden.Proofs.MatchKeys
import StreamWarden.Proofs.LiveTable
import StreamWarden.Proofs.SessionDiff
import StreamWarden.Proofs.PollRuns
import StreamWarden.Proofs.PollOutcome
import StreamWarden.Proofs.Lifecycle
import StreamWarden.Proofs.SessionLifecycle
import StreamWarden.Proofs.SummaryRows
import StreamWarden.Proofs.SessionRows
import StreamWarden.Proofs.PollFailure
import StreamWarden.Proofs.Grouping
import StreamWarden.Proofs.CountingRules
import StreamWarden.Proofs.ServerRules
import StreamWarden.Proofs.Selection
import StreamWarden.Proofs.Growth
import StreamWarden.Proofs.IgnoredSessions
import StreamWarden.Proofs.FailoverRuns
import StreamWarden.Proofs.TransitionTable
import StreamWarden.Proofs.JellyfinListing
import StreamWarden.Proofs.PlexClassification
import StreamWarden.Proofs.AccountLookup
import StreamWarden.Proofs.TickReport
import StreamWarden.Proofs.Cancellation
import StreamWarden.Proofs.OptionReading
import StreamWarden.Proofs.KeyedTables
import StreamWarden.Proofs.BackoffSchedule
import StreamWarden.Proofs.RetentionPurge
import StreamWarden.Proofs.BaseUrls
import StreamWarden.Proofs.XmlTree
import StreamWarden.Proofs.ItemCacheRuns
import StreamWarden.Proofs.EndpointPorts
