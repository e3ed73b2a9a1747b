import SsmBridge.Framework.BigEndian
import SsmBridge.Framework.SignedCounter
import SsmBridge.Framework.Machine
import SsmBridge.Framework.NumberedStream
import SsmBridge.Framework.Relay
import SsmBridge.Framework.Utf8
import SsmBridge.Construction.Errors
import SsmBridge.Construction.Message
import SsmBridge.Construction.Ack
import SsmBridge.Construction.Inbound
import SsmBridge.Construction.Crypto
import SsmBridge.Construction.Handshake
import SsmBridge.Construction.Fanout
import SsmBridge.Construction.Session
import SsmBridge.Construction.Deliver
import SsmBridge.Construction.ReaderRun
import SsmBridge.Construction.Channel
import SsmBridge.Construction.Tasks
import SsmBridge.Construction.System
import SsmBridge.Properties.WireFormat
import SsmBridge.Properties.InOrder
import SsmBridge.Properties.DroppedAck
import SsmBridge.Properties.ResumeTransparency
import SsmBridge.Properties.Footprint
import SsmBridge.Properties.Numbering
import SsmBridge.Properties.WireContents
import SsmBridge.Properties.NoPlaintext
import SsmBridge.Properties.InboundPath
import SsmBridge.Properties.AckSurvives
import SsmBridge.Properties.NoHole
import SsmBridge.Construction.Reconnect
import SsmBridge.Properties.DurableOutput
import SsmBridge.Construction.Retry
import SsmBridge.Construction.Smux
import SsmBridge.Construction.Wakeups
import SsmBridge.Properties.CloseVisible
import SsmBridge.Properties.NoLostWakeup
import SsmBridge.Properties.Outage
import SsmBridge.Properties.Reassembly
import SsmBridge.Properties.SendParked
import SsmBridge.Construction.Router
import SsmBridge.Properties.Lanes
import SsmBridge.Properties.Isolation
import SsmBridge.Construction.MuxTasks
import SsmBridge.Properties.TasksStop
import SsmBridge.Construction.Supervisor
import SsmBridge.Properties.Inert
import SsmBridge.Properties.LaneEnd
import SsmBridge.Properties.OutputFlow
import SsmBridge.Properties.CleanComplete
import SsmBridge.Properties.Retransmission
import SsmBridge.Properties.Timeout
import SsmBridge.Properties.HandshakeRuns
import SsmBridge.Framework.Chunks
import SsmBridge.Construction.StreamData
import SsmBridge.Properties.KeyAgreement
import SsmBridge.Properties.StreamData
import SsmBridge.Properties.CommandOrder
import SsmBridge.Properties.Pause
import SsmBridge.Properties.Authentic
import SsmBridge.Construction.FanoutCalls
import SsmBridge.Properties.Lossless
import SsmBridge.Construction.Pool
import SsmBridge.Construction.PoolMoves
import SsmBridge.Properties.PoolLimits
import SsmBridge.Properties.PoolShutdown
import SsmBridge.Construction.Supervision
import SsmBridge.Properties.Backoff
import SsmBridge.Properties.ResumeFirst
import SsmBridge.Properties.Events
import SsmBridge.Properties.ReconnectRuns
import SsmBridge.Construction.RouterMoves
import SsmBridge.Properties.ZeroRead
import SsmBridge.Properties.StreamProtocol
import SsmBridge.Construction.Endpoint
import SsmBridge.Properties.EndpointShapes
import SsmBridge.Properties.LoggedUrls
import SsmBridge.Construction.Handles
import SsmBridge.Properties.LastHandle
import SsmBridge.Construction.Preconditions
import SsmBridge.Properties.Validated
import SsmBridge.Construction.Ending
import SsmBridge.Properties.Release
import SsmBridge.Construction.RttSamples
import SsmBridge.Properties.RttBounds
import SsmBridge.Properties.StreamIds
import SsmBridge.Framework.CopyLoop
import SsmBridge.Construction.Documents
import SsmBridge.Construction.Forward
import SsmBridge.Construction.ForwardMoves
import SsmBridge.Properties.ForwardLimits
import SsmBridge.Properties.Traffic
import SsmBridge.Properties.ForwardBytes
import SsmBridge.Properties.ForwardEnds
import SsmBridge.Properties.ForwardStops
import SsmBridge.Construction.Terminal
import SsmBridge.Construction.Interactive
import SsmBridge.Construction.InteractiveMoves
import SsmBridge.Properties.Shell
import SsmBridge.Properties.Typed
import SsmBridge.Construction.Opening
import SsmBridge.Construction.OpeningMoves
import SsmBridge.Properties.Opening
import SsmBridge.Construction.Heartbeat
import SsmBridge.Properties.Heartbeat
import SsmBridge.Properties.Supervisors
import SsmBridge.Construction.Attached
import SsmBridge.Properties.ShellSession
