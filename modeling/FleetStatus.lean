import FleetStatus.Access
import FleetStatus.Address
import FleetStatus.Address.Text
import FleetStatus.Bytes
import FleetStatus.Challenge
import FleetStatus.Directory
import FleetStatus.Fleet
import FleetStatus.Hash.Hmac
import FleetStatus.Hash.Sha256
import FleetStatus.Host
import FleetStatus.Inbox
import FleetStatus.Index
import FleetStatus.Json
import FleetStatus.Json.Numeral
import FleetStatus.Json.Printer
import FleetStatus.Json.Reader
import FleetStatus.Json.Record
import FleetStatus.Listener
import FleetStatus.Main
import FleetStatus.Member
import FleetStatus.Node
import FleetStatus.Presence.Document
import FleetStatus.Presence.Event
import FleetStatus.Presence.Record
import FleetStatus.Presence.Replica
import FleetStatus.Presence.Store
import FleetStatus.Query.Decoded
import FleetStatus.Query.Info
import FleetStatus.Query.Legacy
import FleetStatus.Query.Reply
import FleetStatus.Query.Request
import FleetStatus.Responder
import FleetStatus.Settings
import FleetStatus.Settings.Document
import FleetStatus.StoreAddress
import FleetStatus.Text.Blank
import FleetStatus.Text.Case
import FleetStatus.Text.Case.Table
import FleetStatus.Text.Digits
import FleetStatus.Text.Glob
import FleetStatus.Text.Utf8
import FleetStatus.Uuid
import FleetStatus.Wire.Budget
import FleetStatus.Wire.Cursor
import FleetStatus.Wire.Field
import FleetStatus.Proofs.Index
import FleetStatus.Proofs.Address
import FleetStatus.Proofs.Challenge
import FleetStatus.Proofs.Text.Truncate
import FleetStatus.Proofs.Text.Digits
import FleetStatus.Proofs.Text.Glob
import FleetStatus.Proofs.Json.Scalars
import FleetStatus.Proofs.Json.RoundTrip
import FleetStatus.Proofs.Json.Records
import FleetStatus.Proofs.Wire.Reading
import FleetStatus.Proofs.Wire.Form
import FleetStatus.Proofs.Wire.Shortage
import FleetStatus.Proofs.Query.Decoding
import FleetStatus.Proofs.Query.Grammar
import FleetStatus.Proofs.Query.Paging
import FleetStatus.Proofs.Presence.Run
import FleetStatus.Proofs.Presence.Located
import FleetStatus.Proofs.Presence.Coherence
import FleetStatus.Proofs.Presence.History
import FleetStatus.Proofs.Presence.Settled
import FleetStatus.Proofs.Presence.Replica
import FleetStatus.Proofs.Presence.Notified
import FleetStatus.Proofs.Presence.Refresh
import FleetStatus.Proofs.Presence.Replay
import FleetStatus.Proofs.Presence.Standing
import FleetStatus.Proofs.Presence.Vacancy
import FleetStatus.Proofs.Presence.Membership
import FleetStatus.Proofs.Presence.Tails
import FleetStatus.Proofs.Member.Tail
import FleetStatus.Proofs.Member.Queue
import FleetStatus.Proofs.Member.Interleaving
import FleetStatus.Proofs.Member.Tenure
import FleetStatus.Proofs.Query.Reflection
import FleetStatus.Proofs.Access
import FleetStatus.Proofs.Query.Summary
import FleetStatus.Proofs.Query.RoundTrip
import FleetStatus.Proofs.Query.Authorization
import FleetStatus.Proofs.Query.Refusal
import FleetStatus.Proofs.Query.Size
import FleetStatus.Proofs.Query.Legacy
import FleetStatus.Proofs.Query.Cut
import FleetStatus.Proofs.Listener
import FleetStatus.Proofs.Fleet.Steps
import FleetStatus.Proofs.Presence.Totals
import FleetStatus.Proofs.Presence.Listed
import FleetStatus.Proofs.Fleet.Sound
import FleetStatus.Proofs.Fleet.Totals
import FleetStatus.Proofs.Fleet.Schedule
import FleetStatus.Proofs.Member.Life
import FleetStatus.Proofs.Member.Stopping
import FleetStatus.Proofs.Presence.Snapshot
import FleetStatus.Proofs.Presence.Upkeep
import FleetStatus.Proofs.Presence.Staleness
import FleetStatus.Proofs.Presence.Pruning
import FleetStatus.Proofs.Presence.FullRead
import FleetStatus.Proofs.Presence.Moves
import FleetStatus.Proofs.Query.Encoding
import FleetStatus.Proofs.Presence.Document
import FleetStatus.Proofs.Json.Values
import FleetStatus.Proofs.Wire.Sequence
import FleetStatus.Proofs.Settings.Document
import FleetStatus.Proofs.Settings.Url
