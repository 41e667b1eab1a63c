import Pherry.Channel.ByteQueueRuns
import Pherry.Channel.SendCap
import Pherry.Cli.AuditLog
import Pherry.Cli.Boarding
import Pherry.Cli.DaemonLock
import Pherry.Cli.DeviceRevocation
import Pherry.Cli.EndedReports
import Pherry.Cli.IdentityRuns
import Pherry.Cli.LaunchMap
import Pherry.Cli.OpenLaw
import Pherry.Cli.RelayUplink
import Pherry.Cli.RemotePin
import Pherry.Cli.ServiceCarriage
import Pherry.Cli.ShellRc
import Pherry.Cli.Shim
import Pherry.ControlPlane.ApnsTokens
import Pherry.ControlPlane.AttentionCursor
import Pherry.ControlPlane.AttentionWindows
import Pherry.ControlPlane.AuditCompleteness
import Pherry.ControlPlane.CliAuthBudget
import Pherry.ControlPlane.PairingAgreement
import Pherry.ControlPlane.PushFanout
import Pherry.ControlPlane.RateLimit
import Pherry.ControlPlane.RedeemFailure
import Pherry.ControlPlane.WebhookSignatures
import Pherry.Host.ByteRing
import Pherry.Host.ServeContract
import Pherry.Host.SocketTeardown
import Pherry.Host.StreamLaw
import Pherry.Host.SubscriptionsLaw
import Pherry.Ios.InboxConsistency
import Pherry.Ios.Presence
import Pherry.Ios.PushRegistration
import Pherry.Ios.StreamAgreement
import Pherry.Ios.TerminalSession
import Pherry.Ios.TrustAnchor
import Pherry.Ios.TypingOrder
import Pherry.Link.CapabilityAgreement
import Pherry.Link.SnapshotCrossing
import Pherry.PherryKit.CellURL
import Pherry.PherryKit.PairLink
import Pherry.PherryKit.PtyCodec
import Pherry.Relay.AuthorizerAgreement
import Pherry.Relay.ClosePropagation
import Pherry.RelayCore.BridgedBytes
import Pherry.RelayCore.CellDrain
import Pherry.RelayCore.HostRegistration
import Pherry.Sdk.Delivery
import Pherry.Sdk.SnapshotMemory
