import AlorairLite.Async.Coroutine
import AlorairLite.Async.Schedule
import AlorairLite.Async.Contract
import AlorairLite.Async.Rules
import AlorairLite.Async.Practice
import AlorairLite.Async.Conversation
import AlorairLite.Async.Starts
import AlorairLite.Async.Budget
import AlorairLite.Async.Errors
import AlorairLite.Async.Causes
import AlorairLite.Async.Transition
import AlorairLite.Async.History
import AlorairLite.Async.Discipline
import AlorairLite.Async.Exclusion
import AlorairLite.Async.Progress
import AlorairLite.Async.Shield
import AlorairLite.Async.Layer
import AlorairLite.Async.Heralds
import AlorairLite.Async.Echoes
import AlorairLite.Async.Regime
import AlorairLite.Async.Front
import AlorairLite.Local.Protocol
import AlorairLite.Local.Client
import AlorairLite.Local.Effect
import AlorairLite.Local.Shape
import AlorairLite.Local.Decomposition
import AlorairLite.Local.Stream
import AlorairLite.Local.Link
import AlorairLite.Local.Task
import AlorairLite.Local.Caller
import AlorairLite.Local.Guard
import AlorairLite.Local.Outcome
import AlorairLite.Local.Acknowledgement
import AlorairLite.Local.Report
import AlorairLite.Local.Coordinator
import AlorairLite.Local.Change
import AlorairLite.Local.Restart
import AlorairLite.Local.Intent
import AlorairLite.Local.Publication
import AlorairLite.Local.Projection
import AlorairLite.Local.Loop
import AlorairLite.Local.Unload
import AlorairLite.Framing.Scanner
import AlorairLite.Local.Codec
import AlorairLite.Local.Segmentation
import AlorairLite.Local.Pacing
import AlorairLite.Local.Notification
import AlorairLite.Local.Overflow
import AlorairLite.Cloud.Data
import AlorairLite.Cloud.Coordinator
import AlorairLite.Cloud.Change
import AlorairLite.Cloud.Conduct
import AlorairLite.Cloud.Journey
import AlorairLite.Cloud.Protection
import AlorairLite.Cloud.Polls
import AlorairLite.Cloud.Confirmation
import AlorairLite.Cloud.Permanence
import AlorairLite.Cloud.Replay
import AlorairLite.Cloud.Vendor
import AlorairLite.Cloud.Experimental
import AlorairLite.Cloud.Client
import AlorairLite.Cloud.Session
import AlorairLite.Cloud.Evidence
import AlorairLite.Cloud.Move
import AlorairLite.Cloud.Turn
import AlorairLite.Cloud.Ownership
import AlorairLite.Cloud.Methods
import AlorairLite.Cloud.Authority
import AlorairLite.Cloud.Coalescing
import AlorairLite.Cloud.Exclusion
import AlorairLite.Cloud.Liveness
import AlorairLite.Cloud.Verdict
import AlorairLite.Cloud.Vocabulary
import AlorairLite.Cloud.Nesting
import AlorairLite.Cloud.Listing
import AlorairLite.Cloud.Renewal
import AlorairLite.Cloud.Endurance
import AlorairLite.Cloud.Recovery
import AlorairLite.Cloud.Survival
import AlorairLite.Cloud.Requests
import AlorairLite.Cloud.Receipt
import AlorairLite.Cloud.Privacy
import AlorairLite.Cloud.Mutation
import AlorairLite.Cloud.Settlement
import AlorairLite.Cloud.Drain
import AlorairLite.Cloud.Restraint
import AlorairLite.Cloud.Layered
import AlorairLite.Cloud.Commission
import AlorairLite.Cloud.Dispatch
import AlorairLite.Unload
import AlorairLite.Entries.Registry
import AlorairLite.Entries.Soundness
import AlorairLite.Entries.Power
import AlorairLite.Entities.Controls
import AlorairLite.Entities.Displays
import AlorairLite.Entities.CloudDisplays
import AlorairLite.Entities.Polled
import AlorairLite.Entities.Pushed
import AlorairLite.Local.Feedback
import AlorairLite.Entities.LastCommand
