import Zwaved.CcTranslator.Cascade
import Zwaved.CcTranslator.Bursts
import Zwaved.CcTranslator.Nesting
import Zwaved.Config.Meaning
import Zwaved.NodeValues.Recorder
import Zwaved.S2.DskPin
import Zwaved.Protocol.Announcements
import Zwaved.Protocol.SilentDrops
import Zwaved.Protocol.SendFrames
import Zwaved.Protocol.SendAnswers
import Zwaved.Protocol.NodeInfoBlock
import Zwaved.Protocol.InitData
import Zwaved.Protocol.CheckedDecoders
import Zwaved.Protocol.ScaledValues
import Zwaved.Protocol.Connection.Shutdown
import Zwaved.Storage.Registry
import Zwaved.Storage.SharedVersion
import Zwaved.Storage.Interrupted
import Zwaved.Storage.QueueFaults
import Zwaved.FailedNodeRemoval
import Zwaved.NodeReuse
import Zwaved.Serial.Delivery
import Zwaved.TransportService.Reassembly
import Zwaved.TransportService.Mixing
import Zwaved.S2.Lockstep
import Zwaved.S2.Handshake.Completion
import Zwaved.S2.SpanOrigins
import Zwaved.S2.FrameBounds
import Zwaved.S2.Transport
import Zwaved.S2.Traffic
import Zwaved.S2.AuthenticatedFrame
import Zwaved.S2.Multicast
import Zwaved.S2.ExtensionChains
import Zwaved.S0.MacInput
import Zwaved.S0.NonceHistory
import Zwaved.Policy.Terminal
import Zwaved.Inclusion.Setup
import Zwaved.Policy.Edit
import Zwaved.Policy.Effective
import Zwaved.InterviewReports
import Zwaved.Scene.Replay
import Zwaved.Thermostat.Mirror
import Zwaved.Inclusion.Supported
import Zwaved.S2.Interference
import Zwaved.S2.DskPrompt
import Zwaved.MessageBus.ExactlyOnce
import Zwaved.KeyFile
import Zwaved.Logger.Shutdown
import Zwaved.S2.Resync
import Zwaved.S2.KeyVerified
import Zwaved.Inclusion.Provenance
import Zwaved.Inclusion.Downgrade
import Zwaved.Inclusion.SecureInterview
import Zwaved.Inclusion.Status
import Zwaved.NodeMetadata
import Zwaved.NodeValues.Store
import Zwaved.Codec.Slices
import Zwaved.Serial.Genuine
import Zwaved.Dongle.Follows
