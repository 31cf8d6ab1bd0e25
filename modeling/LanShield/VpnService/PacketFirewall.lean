import LanShield.Vpn.PacketHandling
import LanShield.VpnService.IPHeader
import LanShield.VpnService.LANShieldNotificationManager
import LanShield.VpnService.PolicyEngine

/-!
# The packets of `VPNRunnable`

What the loop of `VPNRunnable` does with a packet: it finds the app the packet
belongs to, asks `PolicyEngine`, and hands the packet to the engine or records
it as blocked.  The settings it asks with are what its observers were last
given.
-/

namespace LanShield.VpnService

open LanShield.Library LanShield.Java
open LanShield.BackendSync (Policy LanAccessPolicy packageNameUnknown
  getPackageNameFromUid)
open LanShield.Vpn (Engine EngineEvent engineStep Answers)

namespace IPHeader

def protocolNumberAsString (header : IPHeader) : String :=
  match header.protocol with
  | 0 => "Hop-by-Hop Options Header"
  | 1 => "ICMPv4"
  | 6 => "TCP"
  | 17 => "UDP"
  | 41 => "IPv6 encapsulation"
  | 47 => "GRE"
  | 50 => "ESP"
  | 51 => "AH"
  | 58 => "ICMPv6"
  | 59 => "No Next Header for IPv6"
  | 60 => "Destination Options for IPv6"
  | 88 => "EIGRP"
  | 89 => "OSPF"
  | 115 => "L2TP"
  | 413 => "Segment Routing over IPv6"
  | protocol => "Unknown: " ++ toString protocol

/-- `protocolNumberAsOSConstant`, with the constants of the system. -/
def protocolNumberAsOSConstant (header : IPHeader) : Nat :=
  match header.protocol with
  | 1 => 1
  | 6 => 6
  | 17 => 17
  | 58 => 58
  | _ => 0

/-- `isTcpOrUdp` of `shouldForwardPacket`. -/
def isTcpOrUdp (header : IPHeader) : Bool :=
  header.protocolNumberAsOSConstant == 6 ||
    header.protocolNumberAsOSConstant == 17

end IPHeader

/-- The fields the observers of a `VPNRunnable` set. -/
structure ForwardSettings where
  accessPoliciesCache : String → Option Policy
  defaultForwardPolicy : Policy
  systemAppsForwardPolicy : Policy
  allowMulticast : Bool
  allowDns : Bool
  hideMulticastNotifications : Bool
  hideDnsNotifications : Bool

/-- What an observer is called with. -/
inductive Observed where
  | accessPolicies (policies : List LanAccessPolicy)
  | defaultForwardPolicy (policy : Policy)
  | systemAppsForwardPolicy (policy : Policy)
  | allowMulticast (allowed : Bool)
  | allowDns (allowed : Bool)
  | hideMulticastNotifications (hidden : Bool)
  | hideDnsNotifications (hidden : Bool)
  deriving DecidableEq, Repr

namespace ForwardSettings

/-- The fields of a new `VPNRunnable`. -/
def initial : ForwardSettings where
  accessPoliciesCache := fun _ => none
  defaultForwardPolicy := .allow
  systemAppsForwardPolicy := .allow
  allowMulticast := false
  allowDns := false
  hideMulticastNotifications := false
  hideDnsNotifications := false

/-- The new cache of `accessPoliesObserver`. -/
def cacheOf (policies : List LanAccessPolicy) : String → Option Policy :=
  policies.foldl
    (fun newCache policy =>
      Function.update newCache policy.packageName
        (some policy.accessPolicy))
    fun _ => none

/-- The observers. -/
def observe (settings : ForwardSettings) : Observed → ForwardSettings
  | .accessPolicies policies =>
      { settings with accessPoliciesCache := cacheOf policies }
  | .defaultForwardPolicy policy =>
      { settings with defaultForwardPolicy := policy }
  | .systemAppsForwardPolicy policy =>
      { settings with systemAppsForwardPolicy := policy }
  | .allowMulticast allowed => { settings with allowMulticast := allowed }
  | .allowDns allowed => { settings with allowDns := allowed }
  | .hideMulticastNotifications hidden =>
      { settings with hideMulticastNotifications := hidden }
  | .hideDnsNotifications hidden =>
      { settings with hideDnsNotifications := hidden }

end ForwardSettings

structure DpiResult where
  jsonBuffer : Option String
  protocolName : Option String
  deriving DecidableEq, Repr

/-- What the platform answers while a packet is handled. -/
structure PacketAnswers where
  owner : List OwnerAnswer
  packageManager : InstalledPackages
  doDpi : Option DpiResult
  opening : Answers

/-- The name of this app's package, and `toString` of socket addresses. -/
structure Platform where
  packageName : String
  toString : InetSocketAddress → String

/-- The app `shouldForwardPacket` looks up. -/
structure PacketApp where
  appPackageName : String
  hasValidUid : Bool
  deriving DecidableEq, Repr

/-- The lookup; nothing for an exception that leaves it. -/
def packetApp (packetHeader : IPHeader) (answers : PacketAnswers) :
    Option PacketApp :=
  if packetHeader.isTcpOrUdp then
    match getPacketOwnerUid answers.owner with
    | none => none
    | some appUid =>
        if hasValidUid appUid then
          some
            ⟨getPackageNameFromUid appUid
                answers.packageManager.toPackageManager,
              true⟩
        else
          some ⟨packageNameUnknown, false⟩
  else
    some ⟨packageNameUnknown, false⟩

/-- What is read for a decision besides the packet and its app. -/
structure DecisionReads where
  perAppPolicy : Policy
  isSystemApp : Bool
  defaultForwardPolicy : Policy
  systemAppsForwardPolicy : Policy
  allowMulticast : Bool
  allowDns : Bool
  hideDnsNotifications : Bool
  hideMulticastNotifications : Bool
  deriving DecidableEq, Repr

/-- The argument of `PolicyEngine.decide`. -/
def decisionInput (packetHeader : IPHeader) (app : PacketApp)
    (reads : DecisionReads) : PacketDecisionInput where
  isTcpOrUdp := packetHeader.isTcpOrUdp
  hasValidUid := app.hasValidUid
  destAddress := packetHeader.destination.address
  destPort := packetHeader.destination.port
  perAppPolicy := reads.perAppPolicy
  isSystemApp := reads.isSystemApp
  defaultForwardPolicy := reads.defaultForwardPolicy
  systemAppsForwardPolicy := reads.systemAppsForwardPolicy
  allowMulticast := reads.allowMulticast
  allowDns := reads.allowDns
  hideDnsNotifications := reads.hideDnsNotifications
  hideMulticastNotifications := reads.hideMulticastNotifications

/-- `isSystemApp` of an app that was found, with the metadata that are kept
then. -/
def isSystemApp (app : PacketApp) (packageManager : InstalledPackages)
    (cache : PackageMetadataCache) : Bool × PackageMetadataCache :=
  if app.hasValidUid then
    let (packageMetadata, cache) :=
      getPackageMetadata app.appPackageName packageManager cache
    (packageMetadata.isSystem, cache)
  else
    (false, cache)

/-- What would be read at one moment. -/
def readsAt (app : PacketApp) (isSystem : Bool)
    (settings : ForwardSettings) : DecisionReads where
  perAppPolicy :=
    if app.hasValidUid then
      (settings.accessPoliciesCache app.appPackageName).getD .default
    else
      .default
  isSystemApp := isSystem
  defaultForwardPolicy := settings.defaultForwardPolicy
  systemAppsForwardPolicy := settings.systemAppsForwardPolicy
  allowMulticast := settings.allowMulticast
  allowDns := settings.allowDns
  hideDnsNotifications := settings.hideDnsNotifications
  hideMulticastNotifications := settings.hideMulticastNotifications

/-- The fields of `DecisionReads`. -/
inductive DecisionField where
  | perAppPolicy
  | isSystemApp
  | defaultForwardPolicy
  | systemAppsForwardPolicy
  | allowMulticast
  | allowDns
  | hideDnsNotifications
  | hideMulticastNotifications
  deriving DecidableEq, Repr

namespace DecisionField

/-- In the order `shouldForwardPacket` reads them. -/
def inOrder : List DecisionField :=
  [.perAppPolicy, .isSystemApp, .defaultForwardPolicy,
    .systemAppsForwardPolicy, .allowMulticast, .allowDns,
    .hideDnsNotifications, .hideMulticastNotifications]

/-- Take the field as it is now. -/
def read (now reads : DecisionReads) : DecisionField → DecisionReads
  | .perAppPolicy => { reads with perAppPolicy := now.perAppPolicy }
  | .isSystemApp => { reads with isSystemApp := now.isSystemApp }
  | .defaultForwardPolicy =>
      { reads with defaultForwardPolicy := now.defaultForwardPolicy }
  | .systemAppsForwardPolicy =>
      { reads with
        systemAppsForwardPolicy := now.systemAppsForwardPolicy }
  | .allowMulticast => { reads with allowMulticast := now.allowMulticast }
  | .allowDns => { reads with allowDns := now.allowDns }
  | .hideDnsNotifications =>
      { reads with hideDnsNotifications := now.hideDnsNotifications }
  | .hideMulticastNotifications =>
      { reads with
        hideMulticastNotifications := now.hideMulticastNotifications }

/-- The field has the same value in both. -/
def Agrees (left right : DecisionReads) : DecisionField → Prop
  | .perAppPolicy => left.perAppPolicy = right.perAppPolicy
  | .isSystemApp => left.isSystemApp = right.isSystemApp
  | .defaultForwardPolicy =>
      left.defaultForwardPolicy = right.defaultForwardPolicy
  | .systemAppsForwardPolicy =>
      left.systemAppsForwardPolicy = right.systemAppsForwardPolicy
  | .allowMulticast => left.allowMulticast = right.allowMulticast
  | .allowDns => left.allowDns = right.allowDns
  | .hideDnsNotifications =>
      left.hideDnsNotifications = right.hideDnsNotifications
  | .hideMulticastNotifications =>
      left.hideMulticastNotifications = right.hideMulticastNotifications

theorem mem_inOrder (field : DecisionField) : field ∈ inOrder := by
  cases field <;> decide

theorem Agrees.trans {first second third : DecisionReads}
    {field : DecisionField} (left : field.Agrees first second)
    (right : field.Agrees second third) : field.Agrees first third := by
  cases field <;> exact Eq.trans left right

/-- What a field is read as. -/
theorem agrees_read (now reads : DecisionReads) (field : DecisionField) :
    Agrees (read now reads field) now field := by
  cases field with
  | perAppPolicy | isSystemApp | defaultForwardPolicy
  | systemAppsForwardPolicy | allowMulticast | allowDns
  | hideDnsNotifications | hideMulticastNotifications => rfl

/-- The other fields stay as they are. -/
theorem agrees_read_other {field other : DecisionField}
    (different : other ≠ field) (now reads : DecisionReads) :
    Agrees (read now reads field) reads other := by
  cases field <;> cases other <;> first | rfl | exact absurd rfl different

end DecisionField

/-- The notification for a decision. -/
def notifyDecision (platform : Platform) (packetHeader : IPHeader)
    (answers : PacketAnswers) (app : PacketApp) (decision : PacketDecision)
    (notifications : Notifications) : Notifications :=
  if decision.shouldNotify then
    notifications.step platform.packageName
      (.postNotification answers.packageManager app.appPackageName
        decision.appliedPolicy
        (platform.toString packetHeader.destination))
  else
    notifications

/-- The row `logBlockedPacket` inserts, besides its identifier and times. -/
structure BlockedFlow where
  appId : String
  remoteEndpoint : InetSocketAddress
  localEndpoint : InetSocketAddress
  transportLayerProtocol : String
  appliedPolicy : Policy
  dataEgress : Int
  packetCountEgress : Int
  dpiReport : Option String
  dpiProtocol : Option String
  deriving DecidableEq, Repr

/-- `getDpiResult`. -/
def getDpiResult (packetHeader : IPHeader) (answers : PacketAnswers) :
    Option DpiResult :=
  if packetHeader.protocolNumberAsOSConstant = 17 ∨
      packetHeader.protocolNumberAsOSConstant = 6 ∧
        packetHeader.hasPayloadForDpi = true then
    answers.doDpi
  else
    none

/-- The flow of `logBlockedPacket`. -/
def blockedFlow (packetHeader : IPHeader) (answers : PacketAnswers)
    (packageName : String) : BlockedFlow :=
  let dpiResult := getDpiResult packetHeader answers
  { appId := packageName
    remoteEndpoint := packetHeader.destination
    localEndpoint := packetHeader.source
    transportLayerProtocol := packetHeader.protocolNumberAsString
    appliedPolicy := .block
    dataEgress := packetHeader.size
    packetCountEgress := 1
    dpiReport := dpiResult.bind DpiResult.jsonBuffer
    dpiProtocol := dpiResult.bind DpiResult.protocolName }

/-- A packet on its way to a decision.  `reads` are the fields read so far,
`unread` those to come. -/
structure Judging where
  packetHeader : IPHeader
  packetBuffer : ByteBuffer
  answers : PacketAnswers
  app : PacketApp
  reads : DecisionReads
  unread : List DecisionField

/-- The packet loop with what it shares: the settings, the notifications and
the engine.  `blocked` are the flows it has launched insertions for. -/
structure Firewall where
  settings : ForwardSettings
  notifications : Notifications
  engine : Engine
  blocked : List BlockedFlow
  judging : Option Judging

/-- A packet is read when the one before it is handled.  The steps of the
engine's threads, of the observers and of the notifications come in any
order between them and between the fields that are read for a decision. -/
inductive FirewallEvent where
  | packet (packetBuffer : ByteBuffer) (answers : PacketAnswers)
  | shouldForwardPacket
  | observe (observed : Observed)
  | notification (event : NotificationEvent)
  | proceed (answers : Answers)
  | select (ready : Vpn.SocketNIODataService.Readiness) (id : Nat)

namespace Firewall

def start (notifications : Notifications) (packetIds : Nat → Int) :
    Firewall where
  settings := .initial
  notifications := notifications
  engine := Engine.start packetIds
  blocked := []
  judging := none

/-- What would be read for the app now. -/
def readsNow (app : PacketApp) (packageManager : InstalledPackages)
    (firewall : Firewall) : DecisionReads :=
  readsAt app
    (isSystemApp app packageManager
      firewall.notifications.packageMetadataCache).1
    firewall.settings

/-- The metadata are kept once they are looked up. -/
def keepMetadata (judging : Judging) (field : DecisionField)
    (firewall : Firewall) : Notifications :=
  if field = .isSystemApp then
    { firewall.notifications with
      packageMetadataCache :=
        (isSystemApp judging.app judging.answers.packageManager
          firewall.notifications.packageMetadataCache).2 }
  else
    firewall.notifications

/-- Read the next field. -/
def readField (judging : Judging) (field : DecisionField)
    (later : List DecisionField) (firewall : Firewall) : Firewall :=
  { firewall with
    notifications := firewall.keepMetadata judging field
    judging :=
      some
        { judging with
          reads :=
            field.read
              (firewall.readsNow judging.app judging.answers.packageManager)
              judging.reads
          unread := later } }

/-- The rest of the loop's body, from `PolicyEngine.decide` on.  The
notification and the engine share nothing, so it makes no difference what
other threads do between them. -/
def handleDecision (platform : Platform) (judging : Judging)
    (firewall : Firewall) : Firewall :=
  let decision :=
    PolicyEngine.decide
      (decisionInput judging.packetHeader judging.app judging.reads)
  let notifications :=
    notifyDecision platform judging.packetHeader judging.answers
      judging.app decision firewall.notifications
  if decision.shouldForward then
    { firewall with
      notifications
      engine :=
        engineStep firewall.engine
          (.handlePacket judging.packetBuffer.rewind
            judging.answers.opening)
      judging := none }
  else
    { firewall with
      notifications
      blocked :=
        firewall.blocked ++
          [blockedFlow judging.packetHeader judging.answers
            judging.app.appPackageName]
      judging := none }

/-- The next step of `shouldForwardPacket`. -/
def judge (platform : Platform) (firewall : Firewall) : Firewall :=
  match firewall.judging with
  | none => firewall
  | some judging =>
      match judging.unread with
      | [] => firewall.handleDecision platform judging
      | field :: later => firewall.readField judging field later

/-- The body of the loop of `run` up to the lookup of the app.  What is
thrown on the way is swallowed. -/
def handlePacket (packetBuffer : ByteBuffer) (answers : PacketAnswers)
    (firewall : Firewall) : Firewall :=
  match IPHeader.ofPacket packetBuffer with
  | .error _ => firewall
  | .ok (packetHeader, packetBuffer) =>
      match packetApp packetHeader answers with
      | none => firewall
      | some app =>
          { firewall with
            judging :=
              some
                { packetHeader
                  packetBuffer
                  answers
                  app
                  reads := readsAt app false .initial
                  unread := DecisionField.inOrder } }

/-- The loop is at its `read`. -/
def Reads (firewall : Firewall) : Prop :=
  firewall.engine.packetThread = .idle ∧ firewall.judging.isNone = true

instance : DecidablePred Reads :=
  fun _ => inferInstanceAs (Decidable (_ ∧ _))

def step (platform : Platform) (firewall : Firewall) :
    FirewallEvent → Firewall
  | .packet packetBuffer answers =>
      if firewall.Reads then
        firewall.handlePacket packetBuffer answers
      else
        firewall
  | .shouldForwardPacket => firewall.judge platform
  | .observe observed =>
      { firewall with settings := firewall.settings.observe observed }
  | .notification event =>
      { firewall with
        notifications :=
          firewall.notifications.step platform.packageName event }
  | .proceed answers =>
      { firewall with
        engine := engineStep firewall.engine (.proceed answers) }
  | .select ready id =>
      { firewall with
        engine := engineStep firewall.engine (.select ready id) }

end Firewall

/-- A UDP packet from port 4000 of `10.0.0.2` to port 53 of `10.0.0.1`. -/
def udpQuery : ByteBuffer :=
  .wrap
    [0x45, 0, 0, 28, 0, 0, 0, 0, 64, 17, 0, 0, 10, 0, 0, 2, 10, 0, 0, 1,
      0x0f, 0xa0, 0, 53, 0, 8, 0, 0]

/-- The packet belongs to the package. -/
def ownedBy (packageName : String) : PacketAnswers where
  owner := [.uid 10001]
  packageManager :=
    { getPackagesForUid := fun _ => some [packageName]
      getNameForUid := fun _ => none
      getApplicationLabel := fun _ => none
      getApplicationInfo := fun packageName => ⟨some packageName, 0⟩ }
  doDpi := none
  opening := Vpn.quickAnswers

/-- Nothing of an earlier process is left. -/
def sampleNotifications : Notifications :=
  .start (fun _ => none) fun _ => none

def samplePlatform : Platform where
  packageName := "l"
  toString := fun _ => "/10.0.0.1:53"

end LanShield.VpnService
