import UngulaNet.Foundation.Runs
import UngulaNet.Foundation.WrapClock
import UngulaNet.Foundation.Slots
import UngulaNet.Preferences
import UngulaNet.Comm.TransportTypes
import UngulaNet.Comm.EspNowTransport
import UngulaNet.Pairing.PairingBeacon
import UngulaNet.Connection.ReconnectMessages
import UngulaNet.Pairing.PairingClient
import UngulaNet.Pairing.ClientSteps
import UngulaNet.Pairing.ClientChannel
import UngulaNet.Pairing.PairingCoordinator
import UngulaNet.Pairing.CoordinatorSteps
import UngulaNet.Pairing.PairingGate
import UngulaNet.Pairing.ClientTable
import UngulaNet.Pairing.PairingAgreement
import UngulaNet.Connection.SessionProvider
import UngulaNet.Connection.ConnectionManager
import UngulaNet.Connection.ManagerSteps
import UngulaNet.Connection.EspNowSessionProvider
import UngulaNet.Connection.ManagerClock
import UngulaNet.Connection.ProbePacing
import UngulaNet.Connection.HeartbeatTimeout
import UngulaNet.Connection.BootGrace
import UngulaNet.Connection.NodeConsistency
import UngulaNet.Connection.ReacquireChannel
import UngulaNet.Connection.PairingDurability
import UngulaNet.Connection.ConnectsPaired
import UngulaNet.Connection.VerifiedExit
import UngulaNet.Connection.EscalationBudget
import UngulaNet.Pairing.AnsweredBeacon
import UngulaNet.Connection.ClockSkew
import UngulaNet.Pairing.StopScanning
import UngulaNet.Pairing.MacsUnique
import UngulaNet.Comm.PeerSet
import UngulaNet.Pairing.PeerMirror
import UngulaNet.Wifi.EspWifi
import UngulaNet.Wifi.WifiSta
import UngulaNet.Wifi.StaReconnect
import UngulaNet.Foundation.SampledTimer
import UngulaNet.Pairing.Rendezvous
import UngulaNet.Pairing.LoadPairing
import UngulaNet.Pairing.CrashAtomic
import UngulaNet.Pairing.StoreClient
import UngulaNet.Connection.AckApplied
import UngulaNet.Connection.ScanFairness
import UngulaNet.Foundation.CArray
import UngulaNet.Foundation.CString
import UngulaNet.Http.HttpRequest
import UngulaNet.Http.HttpServer
import UngulaNet.Foundation.Registry
import UngulaNet.Http.WsBroadcast
import UngulaNet.Http.WsRegistry
import UngulaNet.Http.RouteReach
import UngulaNet.Wifi.WifiAp
import UngulaNet.Wifi.NetifOnce
import UngulaNet.Http.QueryParams
import UngulaNet.Http.RouteDispatch
import UngulaNet.Http.BodyRead
import UngulaNet.Http.HttpClient
import UngulaNet.Wifi.StaScan
import UngulaNet.Foundation.LittleEndian
import UngulaNet.Wifi.WifiConfig
import UngulaNet.Comm.Frames
import UngulaNet.Foundation.Outputs
import UngulaNet.Pairing.CoordinatorOutput
import UngulaNet.Connection.Reacquisition
import UngulaNet.Pairing.Discovery
import UngulaNet.Comm.MessageHeader
import UngulaNet.Connection.ApplicationMessages
import UngulaNet.Comm.PeerTable
import UngulaNet.Foundation.Blocks
import UngulaNet.Foundation.Calendar
import UngulaNet.Foundation.Decimal
import UngulaNet.Ntp.NtpClient
import UngulaNet.Ntp.LocalTime
import UngulaNet.Ntp.NtpService
import UngulaNet.Connection.AckCausality
import UngulaNet.Http.QueryRoundTrip
import UngulaNet.Wifi.StaDns
import UngulaNet.Http.ServerService
import UngulaNet.Wifi.ApRadio
import UngulaNet.Pairing.ClientOrigin
import UngulaNet.Wifi.StaConnect
import UngulaNet.Connection.SilenceDeadline
import UngulaNet.Connection.RecoveryDeadline
import UngulaNet.Connection.FirstConnection
import UngulaNet.Connection.RestartRecovery
import UngulaNet.Connection.ClearedNode
import UngulaNet.Connection.ForgottenNode
