import Pairline.Transition
import Pairline.Whitespace
import Pairline.Turn.Service
import Pairline.Turn.Relay
import Pairline.Turn.Quota
import Pairline.Turn.Coverage
import Pairline.Bots.Capacity
import Pairline.Matchmaker.Interests
import Pairline.Matchmaker.Sweep
import Pairline.Matchmaker.Attempts
import Pairline.Bots.Slots
import Pairline.Program
import Pairline.Sessions.Record
import Pairline.Sessions.RedisState
import Pairline.Sessions.FailedWrites
import Pairline.Sessions.FailedSearch
import Pairline.Pool
import Pairline.Turn.Counter
import Pairline.Matchmaker.QueueStore
import Pairline.Matchmaker.Registry
import Pairline.Matchmaker.Membership
import Pairline.Sessions.Deletion
import Pairline.Sessions.DeletedStays
import Pairline.Turn.Releases
import Pairline.Turn.Retention
import Pairline.Turn.Marks
import Pairline.Turn.Grants
import Pairline.Leases
import Pairline.Sessions.SessionLock
import Pairline.Sessions.Matching
import Pairline.Sessions.Mirror
import Pairline.Rooms.Store
import Pairline.Sessions.ReportGrace
import Pairline.Turns
import Pairline.Rooms.Postconditions
import Pairline.Rooms.Locks
import Pairline.Rooms.Matches
import Pairline.Rooms.Start
import Pairline.Admin.Actions
import Pairline.Bots.Reservations
import Pairline.Bots.Snapshots
import Pairline.Admin.Progress
import Pairline.Admin.Delivery
import Pairline.Bans.Coverage
import Pairline.Bans.Calls
import Pairline.OrderedLocks
import Pairline.Bans.Uniqueness
import Pairline.Bans.Agreement
import Pairline.Bans.Reconciliation
import Pairline.Admin.Published
import Pairline.Admin.Expiry
import Pairline.Admin.Unbans
import Pairline.Rooms.Timeout
import Pairline.Signaling.Hub
import Pairline.Signaling.Delivery
import Pairline.Signaling.Teardown
import Pairline.Sockets.Channel
import Pairline.Sockets.Fencing
import Pairline.Sessions.Reports
import Pairline.ConsumerGroup
import Pairline.Reporting.Ingest
import Pairline.Reporting.Recovery
import Pairline.Streams.Claiming
import Pairline.Automod.Attempts
import Pairline.Automod.Finalisation
import Pairline.Automod.Rejection
import Pairline.Numerals
import Pairline.Sessions.Routes
import Pairline.Turn.Control
import Pairline.Turn.ControlAgreement
import Pairline.Admin.BannedWords
import Pairline.Sessions.Resolution
import Pairline.Rooms.Closing
import Pairline.Base64
import Pairline.Crc
import Pairline.Grouping
import Pairline.ByteSpace
import Pairline.Turn.PendingFields
import Pairline.Turn.BannedIPs
import Pairline.Turn.Admission
import Pairline.Turn.Bootstrap
import Pairline.Turn.Coherence
import Pairline.Automod.Evidence
import Pairline.Admin.Accounts
import Pairline.Tokens
import Pairline.Admin.Phrases
import Pairline.Admin.WordStore
import Pairline.Matchmaker.Waiting
import Pairline.Bans.Indexed
import Pairline.Replies
import Pairline.Redis.Pipeline
import Pairline.WaitingLine
import Pairline.Bots.AIWorker
import Pairline.Bots.ScriptWorker
import Pairline.Utf8
import Pairline.Automod.Reasons
import Pairline.Automod.Framing
import Pairline.Regex
import Pairline.Automod.Reasoning
import Pairline.Admin.Blocking
import Pairline.Automod.Taxonomy
import Pairline.Automod.Categories
import Pairline.Members
import Pairline.Sessions.Serialisation
import Pairline.Sessions.InPlace
import Pairline.Limiters
import Pairline.Signaling.RateLimit
import Pairline.Sockets.RateLimit
import Pairline.Admin.LoginLimit
import Pairline.Monitors
import Pairline.Sockets.Owners
import Pairline.Sockets.Cluster
import Pairline.Sockets.Records
import Pairline.Sockets.Deliveries
import Pairline.Matchmaker.LocalBatches
import Pairline.Automod.Labels
import Pairline.Doubles
import Pairline.Documents
import Pairline.Bots.AIConfig
import Pairline.Bots.AITransport
import Pairline.Bots.ScriptShape
import Pairline.Reporting.ChatLog
import Pairline.Turn.ChunkedWrite
import Pairline.Bits
import Pairline.Sockets.Cidr
import Pairline.Sockets.ClientIP
import Pairline.Client.IceServers
import Pairline.JsonText
import Pairline.Admin.Jwt
import Pairline.Client.Connection
import Pairline.Client.VideoChat
import Pairline.Client.Answers
import Pairline.Client.Candidates
import Pairline.Client.TextChat
