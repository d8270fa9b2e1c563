import AlertRelay.Broker.Log
import AlertRelay.Broker.Subscription
import AlertRelay.Broker.Transaction
import AlertRelay.Broker.Waiting
import AlertRelay.Config.Broker
import AlertRelay.Config.Consumer
import AlertRelay.Config.Service
import AlertRelay.DeadLetter
import AlertRelay.Delivery.Loop
import AlertRelay.Delivery.Redelivery
import AlertRelay.Delivery.Run
import AlertRelay.Delivery.Schedule
import AlertRelay.Delivery.Source
import AlertRelay.Delivery.Worker
import AlertRelay.Diagnostics.Filter
import AlertRelay.Diagnostics.Subscriber
import AlertRelay.Document.Access
import AlertRelay.Document.Basic
import AlertRelay.Document.Decode
import AlertRelay.Document.Render
import AlertRelay.Document.Scan
import AlertRelay.Enrich.Classify
import AlertRelay.Enrich.Normalize
import AlertRelay.Error
import AlertRelay.Event
import AlertRelay.Gate
import AlertRelay.Hash.Sip
import AlertRelay.Json
import AlertRelay.Ledger
import AlertRelay.Metrics.Counters
import AlertRelay.Metrics.Exposition
import AlertRelay.Metrics.Histogram
import AlertRelay.Metrics.Traffic
import AlertRelay.Net.Address
import AlertRelay.Number.Binary64
import AlertRelay.Number.Literal
import AlertRelay.Number.Powers
import AlertRelay.Number.Shortest
import AlertRelay.Number.Text
import AlertRelay.Outcome
import AlertRelay.Program
import AlertRelay.Proofs.Broker.Growth
import AlertRelay.Proofs.Ledger
import AlertRelay.Proofs.Program.Discipline
import AlertRelay.Proofs.Relay.Clients
import AlertRelay.Record
import AlertRelay.Rehearsal.Attempts
import AlertRelay.Rehearsal.Consumer
import AlertRelay.Relay.Effect
import AlertRelay.Relay.Emit
import AlertRelay.Relay.Enrich
import AlertRelay.Relay.Handle
import AlertRelay.Relay.Route
import AlertRelay.Relay.Settings
import AlertRelay.Relay.Site
import AlertRelay.Relay.World
import AlertRelay.Retry.Attempts
import AlertRelay.Retry.Policy
import AlertRelay.Score
import AlertRelay.Service.Http
import AlertRelay.Shutdown
import AlertRelay.Store.Database
import AlertRelay.Store.Memory
import AlertRelay.Store.Persistent
import AlertRelay.Table
import AlertRelay.Text.Blank
import AlertRelay.Text.Case
import AlertRelay.Text.Hex
import AlertRelay.Text.Utf8
import AlertRelay.Time.Instant
import AlertRelay.Time.Rfc3339
import AlertRelay.Toml.Moments
import AlertRelay.Toml.Numbers
import AlertRelay.Toml.Quoted
import AlertRelay.Toml.Scan
import AlertRelay.Toml.Tables
import AlertRelay.Toml.Trivia
import AlertRelay.Uuid
import AlertRelay.Wire.Event
import AlertRelay.Proofs.Relay.Unit
import AlertRelay.Proofs.Relay.Disturbance
import AlertRelay.Proofs.Relay.Atomicity
import AlertRelay.Proofs.Text.Utf8
import AlertRelay.Proofs.Relay.Emission
import AlertRelay.Proofs.Relay.DualWrite
import AlertRelay.Proofs.Broker.Positions
import AlertRelay.Proofs.Delivery.Course
import AlertRelay.Proofs.Delivery.Deployment
import AlertRelay.Proofs.Delivery.Soundness
import AlertRelay.Proofs.Delivery.Tracking
import AlertRelay.Proofs.Delivery.Progress
import AlertRelay.Proofs.Delivery.Chronicle
import AlertRelay.Proofs.Delivery.Gapless
import AlertRelay.Proofs.DeadLetter
import AlertRelay.Proofs.Delivery.Once
import AlertRelay.Proofs.Relay.Singular
import AlertRelay.Proofs.Program.Transcript
import AlertRelay.Proofs.Relay.Repetition
import AlertRelay.Proofs.Relay.Crossing
import AlertRelay.Proofs.Relay.Replay
import AlertRelay.Proofs.Broker.Pauses
import AlertRelay.Proofs.Broker.Deposits
import AlertRelay.Proofs.Broker.Atomic
import AlertRelay.Proofs.Delivery.Throttle
import AlertRelay.Proofs.Delivery.Lapse
import AlertRelay.Proofs.Delivery.Acts
import AlertRelay.Proofs.Delivery.Notices
import AlertRelay.Proofs.Delivery.Account
import AlertRelay.Proofs.Delivery.Draining
import AlertRelay.Proofs.Delivery.Ending
import AlertRelay.Proofs.Delivery.Failure
import AlertRelay.Proofs.Delivery.Watch
import AlertRelay.Proofs.Delivery.Budget
import AlertRelay.Proofs.Delivery.Waiting
import AlertRelay.Proofs.Delivery.Reopening
import AlertRelay.Proofs.Number.Digits
import AlertRelay.Proofs.Document.Strings
import AlertRelay.Proofs.Document.Numbers
import AlertRelay.Proofs.Document.Written
import AlertRelay.Proofs.Json.Sorted
import AlertRelay.Proofs.Json.Normal
import AlertRelay.Proofs.Number.Finite
import AlertRelay.Proofs.Document.Scanned
import AlertRelay.Proofs.Number.Numerals
import AlertRelay.Proofs.Net.Written
import AlertRelay.Proofs.Relay.Publication
import AlertRelay.Proofs.Relay.Succession
import AlertRelay.Proofs.Store.Persistent
import AlertRelay.Proofs.Uuid
import AlertRelay.Proofs.Wire.RoundTrip
import AlertRelay.Proofs.Delivery.Feedback
import AlertRelay.Proofs.Retry.Attempts
import AlertRelay.Proofs.Broker.Handouts
import AlertRelay.Proofs.Relay.Tally
import AlertRelay.Proofs.Hysteresis
import AlertRelay.Proofs.Enrich.Recognition
import AlertRelay.Proofs.Vigil
import AlertRelay.Proofs.Config.Broker
import AlertRelay.Proofs.Broker.Rotation
import AlertRelay.Proofs.Config.Connection
