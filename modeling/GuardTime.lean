import GuardTime.Lib.Program
import GuardTime.Lib.Keyed
import GuardTime.Lib.TtlCache
import GuardTime.Lib.Js
import GuardTime.Footprint
import GuardTime.Services.Notifications
import GuardTime.Services.Sessions
import GuardTime.Services.Router
import GuardTime.Services.DnsPolicy
import GuardTime.Services.Devices
import GuardTime.Services.Enforcement
import GuardTime.Services.Scheduler
import GuardTime.Services.Gateway
import GuardTime.Services.Pairing
import GuardTime.Services.Auth
import GuardTime.Household
import GuardTime.Dns.Engine
import GuardTime.Dns.Isolation
import GuardTime.Dns.Cache
import GuardTime.Dns.Versions
import GuardTime.Session.Lifecycle
import GuardTime.Session.Budget
import GuardTime.Session.Expiry
import GuardTime.System.Links
import GuardTime.System.Quiet
import GuardTime.System.Run
import GuardTime.System.Changes
import GuardTime.System.Ownership
import GuardTime.Dns.Locks
import GuardTime.Dns.Invalidation
import GuardTime.Dns.Staleness
import GuardTime.Pairing.Effects
import GuardTime.Pairing.Agreement
import GuardTime.Agents.Rotation
import GuardTime.Pairing.Run
import GuardTime.Pairing.ConnectionLog
import GuardTime.Pairing.Status
import GuardTime.Pairing.Tokens
import GuardTime.Pairing.Discovery
import GuardTime.Lib.Runs
import GuardTime.Lib.Interleave
import GuardTime.Session.Runs
import GuardTime.Session.Exclusion
import GuardTime.Session.Finality
import GuardTime.Session.Paused
import GuardTime.Session.DailyLimit
import GuardTime.Agents.Leak
import GuardTime.Calls
import GuardTime.Commands.Polling
import GuardTime.Commands.Lifecycle
import GuardTime.Commands.Delivery
import GuardTime.Services.Calls
import GuardTime.Session.Once
import GuardTime.Session.Serial
import GuardTime.Commands.RouterSync
import GuardTime.Lib.Faults
import GuardTime.Session.Interrupted
import GuardTime.Auth.Refresh
import GuardTime.Locks.Fields
import GuardTime.Locks.Bedtime
import GuardTime.Services.Config
import GuardTime.Auth.Secrets
import GuardTime.Services.OAuth
import GuardTime.Auth.Microsoft
import GuardTime.Commands.Durability
import GuardTime.Auth.Lockout
import GuardTime.Columns
import GuardTime.Services.RouterIntegration
import GuardTime.Secrets.Credentials
import GuardTime.Services.Listings
import GuardTime.Secrets.Beacon
import GuardTime.Services.Parents
import GuardTime.References.Graph
import GuardTime.References.Requests
import GuardTime.References.Deletion
import GuardTime.Lib.Circle
import GuardTime.Locks.Clock
import GuardTime.Services.Health
import GuardTime.Health.Freshness
import GuardTime.Routers.Override
import GuardTime.Lib.LastWins
import GuardTime.Bandwidth.Order
import GuardTime.Discovery.Scan
import GuardTime.Discovery.Repeat
import GuardTime.Discovery.Spelling
import GuardTime.Discovery.Fingerprints
import GuardTime.Locks.Allowance
import GuardTime.Locks.RuleBedtime
import GuardTime.Lib.Owners
import GuardTime.Tenants.Gateway
import GuardTime.Lib.Turns
import GuardTime.Dns.Races
import GuardTime.Lib.Labels
import GuardTime.Dns.Decision
import GuardTime.Dns.Keys
import GuardTime.Lib.Rounds
import GuardTime.Push.Multicast
import GuardTime.Push.Receipt
import GuardTime.Lib.JsObject
import GuardTime.Services.UsageLogs
import GuardTime.Usage.Totals
import GuardTime.Services.Categories
import GuardTime.Dns.Blocklist
import GuardTime.Dns.Wildcard
import GuardTime.Dns.Queue
import GuardTime.Dns.Heartbeat
import GuardTime.Dns.Throttle
import GuardTime.Lib.Buckets
import GuardTime.Lib.LocalTime
import GuardTime.Services.Reports
import GuardTime.Reports.Conservation
import GuardTime.Transactions
import GuardTime.Pairing.Consumption
import GuardTime.Pairing.Overlap
import GuardTime.Pairing.Superseded
import GuardTime.Lib.Mean
import GuardTime.Services.NetworkHealth
import GuardTime.Health.Score
import GuardTime.Bandwidth.Override
import GuardTime.Pairing.Hostname
import GuardTime.Discovery.Separation
import GuardTime.Lib.Assure
import GuardTime.Services.Account
import GuardTime.Services.Protection
import GuardTime.Tenants.Writes
import GuardTime.Tenants.Strangers
import GuardTime.Tenants.Confinement
import GuardTime.Lib.Json
import GuardTime.Services.Encryption
import GuardTime.Secrets.Roundtrip
import GuardTime.System.Calls
import GuardTime.System.Tenure
import GuardTime.Lib.Gaps
import GuardTime.Push.Spacing
import GuardTime.Health.Ladder
import GuardTime.Services.Reads
import GuardTime.Tenants.Reads
import GuardTime.Dns.Catalogue
import GuardTime.Push.Registry
import GuardTime.System.Edits
import GuardTime.Health.Setup
