import Rampage.Lib.Table
import Rampage.Lib.Select
import Rampage.Lib.Machine
import Rampage.Lib.Handler
import Rampage.Lib.Saturating
import Rampage.Lib.Hex
import Rampage.Lib.Frames
import Rampage.Lib.Plan
import Rampage.Protocol.Text
import Rampage.Protocol.Contracts
import Rampage.Protocol.Promotion
import Rampage.Protocol.Storage
import Rampage.Protocol.Uuid
import Rampage.Governor.Check
import Rampage.Governor.Promotion
import Rampage.Governor.Storage
import Rampage.Planner.Score
import Rampage.Ledger.Events
import Rampage.Controller.State
import Rampage.Controller.Admission
import Rampage.Controller.Handlers
import Rampage.Controller.Restore
import Rampage.Controller.Effects.Admission
import Rampage.Controller.Effects.Handlers
import Rampage.Controller.Run
import Rampage.Controller.Admitted
import Rampage.Controller.Change
import Rampage.Controller.Canaries
import Rampage.Controller.Scenario
import Rampage.Controller.Authority
import Rampage.Controller.Claimed
import Rampage.Controller.Once
import Rampage.Controller.Replayed
import Rampage.Controller.Marked
import Rampage.Controller.Devices
import Rampage.Controller.Refinement
import Rampage.Controller.Placement
import Rampage.Controller.Gate
import Rampage.Controller.Barrier
import Rampage.Storage.Basic
import Rampage.Storage.Store
import Rampage.Storage.Session
import Rampage.Storage.Scenario
import Rampage.Storage.Authority
import Rampage.Storage.Run
import Rampage.Storage.Rebuild
import Rampage.Storage.Layout
import Rampage.Storage.Effects
import Rampage.Storage.Sound
import Rampage.Storage.Contents
import Rampage.Storage.Upload
import Rampage.Storage.Uploaded
import Rampage.Storage.Interrupted
import Rampage.Storage.Fence
import Rampage.Agent.Gateway
import Rampage.Agent.Execute
import Rampage.Agent.Outbox
import Rampage.Edge.Worker
import Rampage.Agent.Pinned
import Rampage.Controller.Binding
import Rampage.Governor.Remote
import Rampage.Lib.Thread
import Rampage.Controller.Locks
import Rampage.Controller.Effects.Locks
import Rampage.Controller.Assist
import Rampage.Controller.Closing
import Rampage.Controller.Forgotten
import Rampage.Controller.OnRecord
import Rampage.Controller.Restored
import Rampage.Controller.Crash
import Rampage.Controller.Fencing
import Rampage.Controller.Uninterrupted
import Rampage.Agent.RemoteAssist
import Rampage.Intelligence.Promotion
import Rampage.Intelligence.Eligible
import Rampage.Ledger.Chain
import Rampage.Ledger.Verified
import Rampage.Ledger.Tamper
import Rampage.Ledger.Checkpoint
import Rampage.Ledger.Epochs
import Rampage.Lib.Base64
import Rampage.Pairing.Owner
import Rampage.Pairing.Fragments
import Rampage.Pairing.Forward
import Rampage.Pairing.Worker
import Rampage.Pairing.Delivery
import Rampage.Lib.Disk
import Rampage.Planner.Capacity
import Rampage.Planner.Ordering
import Rampage.Controller.AllOrNothing
import Rampage.Controller.Failed
import Rampage.Controller.Outputs
import Rampage.Controller.Index
import Rampage.Controller.Usable
import Rampage.Controller.Refused
import Rampage.Edge.Fabric
import Rampage.Desktop.Crash
import Rampage.Lib.Sizes
import Rampage.Storage.Quota
import Rampage.Protocol.Model
import Rampage.Governor.Granted
import Rampage.Governor.Model
import Rampage.Planner.Monotone
import Rampage.Governor.Killed
import Rampage.Lib.Ranking
import Rampage.Planner.Session
import Rampage.Planner.Choice
import Rampage.Planner.Covered
import Rampage.Planner.Qualified
import Rampage.Planner.Blocked
import Rampage.Planner.Totals
import Rampage.Governor.Spelling
import Rampage.Controller.Mesh
import Rampage.Controller.Chat
import Rampage.Controller.Transcript
import Rampage.Controller.Visible
import Rampage.Controller.Repair
import Rampage.Agent.Cuttings
import Rampage.Agent.Adapters
import Rampage.Controller.Idle
import Rampage.Controller.Health
import Rampage.Storage.Progress
import Rampage.Storage.RoundTrip
import Rampage.Agent.Sessions
import Rampage.Pairing.Reassembly
import Rampage.Desktop.Attempts
import Rampage.Pairing.Admission
import Rampage.Relay.Connections
import Rampage.Storage.Splitting
import Rampage.Storage.Manifests
import Rampage.Governor.Relay
import Rampage.Controller.Identities
import Rampage.Relay.Access
import Rampage.Storage.Durable
import Rampage.Agent.Custody
import Rampage.Replication.Evidence
import Rampage.Replication.Retrieval
import Rampage.Replication.Possession
import Rampage.Controller.Messages
import Rampage.Controller.Streaming
import Rampage.Agent.Authority
