import LanShield.Library.Runs
import LanShield.Library.Programs
import LanShield.Library.ProgramResults
import LanShield.Library.ProgramViews
import LanShield.Library.SerialNumber
import LanShield.Library.BigEndian
import LanShield.Library.OnesComplement
import LanShield.Library.Texts
import LanShield.Library.SequencedPipe
import LanShield.Java.ByteBuffer
import LanShield.Java.Strings
import LanShield.Transport.IPHeader
import LanShield.Transport.PacketUtil
import LanShield.Transport.TCPHeader
import LanShield.Transport.TCPPacketFactory
import LanShield.Transport.UDPPacketFactory
import LanShield.Transport.ParsedHeaders
import LanShield.Transport.Checksums
import LanShield.Transport.InternetChecksum
import LanShield.Transport.WrittenHeaders
import LanShield.Transport.PacketLayout
import LanShield.Transport.PacketReparse
import LanShield.Transport.TcpOptions
import LanShield.Transport.IPv4RoundTrip
import LanShield.Transport.IPv6RoundTrip
import LanShield.Transport.ResponsePackets
import LanShield.Transport.UDPReplies
import LanShield.Transport.ReplyLengths
import LanShield.Transport.BuiltPackets
import LanShield.Transport.PacketFields
import LanShield.Transport.OptionWalk
import LanShield.VpnService.IPHeader
import LanShield.Database.Converters
import LanShield.VpnService.ParserAgreement
import LanShield.VpnService.PacketLengths
import LanShield.Vpn.Session
import LanShield.Vpn.TcpConnection
import LanShield.Vpn.SocketChannelReader
import LanShield.Vpn.SocketChannelWriter
import LanShield.Vpn.SocketNIODataService
import LanShield.Vpn.SessionHandler
import LanShield.Vpn.Engine
import LanShield.Vpn.UploadConservation
import LanShield.Vpn.ReadEffects
import LanShield.Vpn.DownloadEffects
import LanShield.Vpn.DownloadIntegrity
import LanShield.Vpn.DownloadFlowControl
import LanShield.Vpn.StagingBound
import LanShield.Vpn.DownloadProgress
import LanShield.Vpn.WindowDrain
import LanShield.Vpn.UploadProgress
import LanShield.Vpn.WindowNegotiation
import LanShield.Vpn.ClientEffects
import LanShield.Vpn.UploadOrder
import LanShield.Vpn.AckSoundness
import LanShield.Vpn.UploadCompleteness
import LanShield.Vpn.UpstreamFailures
import LanShield.Vpn.PacketDirection
import LanShield.Vpn.FailureCleanup
import LanShield.Vpn.EndOfStream
import LanShield.Vpn.QuietAfterEof
import LanShield.Vpn.ConnectionReuse
import LanShield.Vpn.ClientFin
import LanShield.Vpn.ClientClose
import LanShield.Vpn.SessionManager
import LanShield.Vpn.SessionKeys
import LanShield.Vpn.NioThread
import LanShield.Vpn.PacketHandling
import LanShield.Vpn.InsertedFlows
import LanShield.Vpn.ResetPackets
import LanShield.Vpn.SteadyPrograms
import LanShield.Vpn.TrafficLedger
import LanShield.Vpn.CountedTraffic
import LanShield.Vpn.SessionTable
import LanShield.Vpn.NioPrograms
import LanShield.Vpn.SessionOpening
import LanShield.Vpn.SessionCreation
import LanShield.Vpn.PacketPrograms
import LanShield.Vpn.ClosedSessions
import LanShield.Vpn.StoredHeaders
import LanShield.Vpn.FlowCounters
import LanShield.Transport.ICMPPacketFactory
import LanShield.Vpn.EchoReplies
import LanShield.Vpn.AckWindow
import LanShield.Library.BitPrefix
import LanShield.VpnService.InterfaceRoutes
import LanShield.VpnService.RouteCoverage
import LanShield.VpnService.CanonicalRoutes
import LanShield.Library.KeyedTable
import LanShield.Library.LaunchedTasks
import LanShield.Library.SortedMaps
import LanShield.Library.OffsetPaging
import LanShield.Library.Monitor
import LanShield.Library.Schedules
import LanShield.BackendSync.SyncACL
import LanShield.Ui.AccessPolicies
import LanShield.BackendSync.PolicyUploads
import LanShield.BackendSync.PolicyRequests
import LanShield.BackendSync.FlowDao
import LanShield.BackendSync.SyncFlows
import LanShield.BackendSync.FlowPaging
import LanShield.BackendSync.LiveFlows
import LanShield.BackendSync.FlowUploads
import LanShield.BackendSync.ExportFlows
import LanShield.BackendSync.FlowExport
import LanShield.BackendSync.OpenPortsFinder
import LanShield.BackendSync.OpenPortScan
import LanShield.BackendSync.SyncOpenPorts
import LanShield.BackendSync.OpenPortUploads
import LanShield.VpnService.VPNService
import LanShield.VpnService.VPNRunnable
import LanShield.VpnService.StopCalls
import LanShield.VpnService.StoppedHelpers
import LanShield.VpnService.ServiceHoldings
import LanShield.VpnService.ServiceLifecycle
import LanShield.Library.ReentrantLock
import LanShield.Vpn.SelectorLocks
import LanShield.Vpn.SelectorRegistration
import LanShield.Library.Throwing
import LanShield.VpnService.HeaderConstruction
import LanShield.Library.PutBackQueue
import LanShield.Vpn.DatagramQueue
import LanShield.Vpn.ClientPacketWriter
import LanShield.Vpn.SegmentRules
import LanShield.Vpn.SegmentSizes
import LanShield.Vpn.DeliveredDownload
import LanShield.Transport.ControlFields
import LanShield.Library.Purging
import LanShield.Library.Since
import LanShield.Library.Json
import LanShield.Library.OrderedReplies
import LanShield.Library.Passing
import LanShield.VpnService.PolicyEngine
import LanShield.VpnService.PackageNames
import LanShield.VpnService.PolicyIntents
import LanShield.VpnService.LANShieldNotificationManager
import LanShield.VpnService.PolicyButtons
import LanShield.VpnService.PacketFirewall
import LanShield.VpnService.BlockedApps
import LanShield.Vpn.SessionOrigins
import LanShield.Vpn.PacketOrigins
import LanShield.Vpn.DatagramReplies
import LanShield.Vpn.DatagramService
import LanShield.Vpn.AddressedSessions
import LanShield.Vpn.AnsweredDatagrams
import LanShield.Vpn.RelayedDatagrams
import LanShield.VpnService.AuthorisedSessions
import LanShield.VpnService.StoredPolicies
import LanShield.BackendSync.SyncLanShieldSessions
import LanShield.BackendSync.SessionUploads
import LanShield.BackendSync.SendToServerWorker
import LanShield.Database.FlowDocuments
