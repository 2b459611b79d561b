import Rosbridge.Access
import Rosbridge.Backend
import Rosbridge.Bridge.Actions
import Rosbridge.Bridge.Common
import Rosbridge.Bridge.Dispatch
import Rosbridge.Bridge.Preview
import Rosbridge.Bridge.Services
import Rosbridge.Bridge.State
import Rosbridge.Bridge.Topics
import Rosbridge.Data.Base64
import Rosbridge.Data.Double
import Rosbridge.Data.Json
import Rosbridge.Data.Text
import Rosbridge.Data.Time
import Rosbridge.Data.Utf16
import Rosbridge.Data.Utf8
import Rosbridge.Foundation.Closure
import Rosbridge.Foundation.Directory
import Rosbridge.Foundation.Feed
import Rosbridge.Foundation.Frame
import Rosbridge.Foundation.Ledger
import Rosbridge.Foundation.Pool
import Rosbridge.Foundation.Program
import Rosbridge.Foundation.Sweep
import Rosbridge.Foundation.Table
import Rosbridge.Foundation.Trail
import Rosbridge.Foundation.Traverse
import Rosbridge.Foundation.Weave
import Rosbridge.Incoming.Channel
import Rosbridge.Incoming.History
import Rosbridge.Incoming.Scheduling
import Rosbridge.Logging.File
import Rosbridge.Logging.Invariant
import Rosbridge.Logging.Names
import Rosbridge.Outgoing.Conservation
import Rosbridge.Outgoing.Effects
import Rosbridge.Outgoing.Eviction
import Rosbridge.Outgoing.Invariant
import Rosbridge.Outgoing.Queue
import Rosbridge.Outgoing.Workers
import Rosbridge.Properties.Acquisition
import Rosbridge.Properties.Admission
import Rosbridge.Properties.Advertisements
import Rosbridge.Properties.Allowlists
import Rosbridge.Properties.Authority
import Rosbridge.Properties.Cancelling
import Rosbridge.Properties.Cleanup
import Rosbridge.Properties.ClientGoals
import Rosbridge.Properties.Correlation
import Rosbridge.Properties.Decoder
import Rosbridge.Properties.Definitions
import Rosbridge.Properties.Delivery
import Rosbridge.Properties.Discovery
import Rosbridge.Properties.Frames
import Rosbridge.Properties.GoalReplies
import Rosbridge.Properties.Handles
import Rosbridge.Properties.Home
import Rosbridge.Properties.Hosting
import Rosbridge.Properties.Incoming
import Rosbridge.Properties.Isolation
import Rosbridge.Properties.Lifecycle
import Rosbridge.Properties.Logging
import Rosbridge.Properties.Messages
import Rosbridge.Properties.Outgoing
import Rosbridge.Properties.Panics
import Rosbridge.Properties.Parameters
import Rosbridge.Properties.Polling
import Rosbridge.Properties.Preview
import Rosbridge.Properties.Replies
import Rosbridge.Properties.Requests
import Rosbridge.Properties.Results
import Rosbridge.Properties.Server
import Rosbridge.Properties.ServerGoals
import Rosbridge.Properties.Session
import Rosbridge.Properties.Settings
import Rosbridge.Properties.Views
import Rosbridge.Properties.Wakeup
import Rosbridge.Properties.Workers
import Rosbridge.Protocol.Entities
import Rosbridge.Protocol.Goals
import Rosbridge.Protocol.Move
import Rosbridge.Protocol.Ownership
import Rosbridge.Protocol.Provenance
import Rosbridge.Protocol.Requests
import Rosbridge.Protocol.Shape
import Rosbridge.Refine.Actions
import Rosbridge.Refine.Answers
import Rosbridge.Refine.Bystanders
import Rosbridge.Refine.Causes
import Rosbridge.Refine.Commands
import Rosbridge.Refine.Deadlines
import Rosbridge.Refine.Events
import Rosbridge.Refine.Failures
import Rosbridge.Refine.Messages
import Rosbridge.Refine.Readers
import Rosbridge.Refine.Release
import Rosbridge.Refine.Requests
import Rosbridge.Refine.Results
import Rosbridge.Refine.Retention
import Rosbridge.Refine.Rules
import Rosbridge.Refine.Run
import Rosbridge.Refine.Samples
import Rosbridge.Refine.Services
import Rosbridge.Refine.Tick
import Rosbridge.Refine.Topics
import Rosbridge.Ros.Accounts
import Rosbridge.Ros.Api
import Rosbridge.Ros.Backend
import Rosbridge.Ros.Changes
import Rosbridge.Ros.Coherence
import Rosbridge.Ros.Definitions
import Rosbridge.Ros.Handling
import Rosbridge.Ros.Message
import Rosbridge.Ros.Node
import Rosbridge.Ros.Numbering
import Rosbridge.Ros.Parameters
import Rosbridge.Ros.Polling
import Rosbridge.Ros.Rounds
import Rosbridge.Ros.Rules
import Rosbridge.Ros.Schema
import Rosbridge.Ros.Sparing
import Rosbridge.Server.Runs
import Rosbridge.Server.Tasks
import Rosbridge.Server.Worker
import Rosbridge.Server.World
import Rosbridge.Session.Heartbeat
import Rosbridge.Session.Socket
import Rosbridge.Session.Traffic
import Rosbridge.Startup.Arguments
import Rosbridge.Startup.Config
import Rosbridge.Startup.Server
import Rosbridge.Startup.Toml
import Rosbridge.Wire.Assembling
import Rosbridge.Wire.Codec
import Rosbridge.Wire.Fragments
import Rosbridge.Wire.Frames
import Rosbridge.Wire.Options
import Rosbridge.Wire.Roundtrip
import Rosbridge.Wire.TypedArrays
