import LanShield.Library.Programs
import LanShield.Library.Runs
import LanShield.VpnService.InterfaceRoutes

/-!
# `VPNService`

The fields of the service, what the process and the platform hold on its
behalf, and its main-thread callbacks.  What the platform answers comes with
the callback; a route refresh may come at any time.
-/

namespace LanShield.VpnService

open LanShield.Library

/-- `VPNRunnable`, named by the TUN descriptor it reads from. -/
structure VPNRunnable where
  vpnInterface : Nat
  deriving DecidableEq, Repr

/-- The `LiveData` fields a packet loop observes. -/
inductive LiveSetting where
  | accessPolicies
  | defaultForwardPolicyLive
  | systemAppsForwardPolicyLive
  | allowMulticastLive
  | allowDnsLive
  | hideMulticastNotificationsLive
  | hideDnsNotificationsLive
  deriving DecidableEq, Repr

structure LANShieldSession where
  uuid : Nat
  timeStart : Int
  timeEnd : Int
  timeEndAtLastSync : Int
  deriving DecidableEq, Repr

/-- `VPN_SERVICE_STATUS`. -/
inductive VpnServiceStatus where
  | enabled
  | disabled
  deriving DecidableEq, Repr

/-- The fields of the service, and below `lanShieldSession` what exists
outside it: packet loops that were started and not told to stop, open TUN
descriptors, registered network callbacks, and the sessions given to
`LANShieldSessionDao`.  A `lateinit` field that was not set is `none`, else
it has its observers.  New handles and identifiers are counted. -/
structure VPNService where
  liveData : LiveSetting → Option (Finset VPNRunnable)
  vpnRunnable : Option VPNRunnable
  vpnInterface : Option Nat
  vpnThread : Option VPNRunnable
  installedInterfaceRoutes : Finset RoutePrefix
  networkCallback : Option Nat
  isVPNRunning : Bool
  vpnServiceStatus : VpnServiceStatus
  lanShieldSession : Option LANShieldSession
  packetLoops : Finset VPNRunnable
  descriptors : Finset Nat
  networkCallbacks : Finset Nat
  inserted : List LANShieldSession
  updated : List LANShieldSession
  foreground : Bool
  stopRequested : Bool
  nextHandle : Nat

/-- The service as it is created. -/
def VPNService.created : VPNService where
  liveData := fun _ => none
  vpnRunnable := none
  vpnInterface := none
  vpnThread := none
  installedInterfaceRoutes := ∅
  networkCallback := none
  isVPNRunning := false
  vpnServiceStatus := .disabled
  lanShieldSession := none
  packetLoops := ∅
  descriptors := ∅
  networkCallbacks := ∅
  inserted := []
  updated := []
  foreground := false
  stopRequested := false
  nextHandle := 0

/-- What accessing a `lateinit` field can throw. -/
inductive LateinitException where
  | uninitializedPropertyAccess
  deriving DecidableEq, Repr

abbrev ServiceCall := Program VPNService LateinitException

namespace VPNService

/-- `stopLanShieldSession`; `LANShieldSessionDao.update` writes `timeEnd`. -/
def stopLanShieldSession (currentTimeMillis : Int) (service : VPNService) :
    VPNService :=
  match service.lanShieldSession with
  | none => service
  | some session =>
      { service with
        updated :=
          service.updated ++ [{ session with timeEnd := currentTimeMillis }]
        lanShieldSession := none }

/-- `LANShieldSession.createLANShieldSession`. -/
def createLANShieldSession (uuid : Nat) (currentTimeMillis : Int) :
    LANShieldSession where
  uuid := uuid
  timeStart := currentTimeMillis
  timeEnd := 0
  timeEndAtLastSync := -1

/-- A new session is made and given to `LANShieldSessionDao.insert`. -/
def insertSession (currentTimeMillis : Int) (service : VPNService) :
    VPNService :=
  let session :=
    createLANShieldSession service.nextHandle currentTimeMillis
  { service with
    lanShieldSession := some session
    inserted := service.inserted ++ [session]
    nextHandle := service.nextHandle + 1 }

def setVPNRunning (isRunning : Bool) (service : VPNService) : VPNService :=
  { service with
    vpnServiceStatus := if isRunning then .enabled else .disabled
    isVPNRunning := isRunning }

def startForeground (service : VPNService) : VPNService :=
  { service with foreground := true }

def stopForeground (service : VPNService) : VPNService :=
  { service with foreground := false }

def stopSelf (service : VPNService) : VPNService :=
  { service with stopRequested := true }

/-- `registerNetworkCallback`; the platform may throw. -/
def registerNetworkCallback (registered : Bool) (service : VPNService) :
    VPNService :=
  match service.networkCallback with
  | some _ => service
  | none =>
      if registered then
        { service with
          networkCallback := some service.nextHandle
          networkCallbacks :=
            insert service.nextHandle service.networkCallbacks
          nextHandle := service.nextHandle + 1 }
      else
        service

def unregisterNetworkCallback (service : VPNService) : VPNService :=
  match service.networkCallback with
  | none => service
  | some callback =>
      { service with
        networkCallback := none
        networkCallbacks := service.networkCallbacks.erase callback }

/-- `vpnInterface?.close()` and the assignment after it. -/
def closeVpnInterface (service : VPNService) : VPNService :=
  match service.vpnInterface with
  | none => service
  | some vpnInterface =>
      { service with
        vpnInterface := none
        descriptors := service.descriptors.erase vpnInterface }

/-- The first access of `onStartCommand` sets the `LiveData` fields. -/
def initializeLiveData (service : VPNService) : VPNService :=
  match service.liveData .defaultForwardPolicyLive with
  | some _ => service
  | none => { service with liveData := fun _ => some ∅ }

end VPNService

open VPNService

/-- `removeObserver` on a `LiveData` field. -/
def removeObserver (setting : LiveSetting) (runnable : VPNRunnable) :
    ServiceCall Unit := do
  let service ← get
  match service.liveData setting with
  | none => throw .uninitializedPropertyAccess
  | some observers =>
      modify fun service =>
        { service with
          liveData :=
            Function.update service.liveData setting
              (some (observers.erase runnable)) }

/-- `observeForever` on a `LiveData` field. -/
def observeForever (setting : LiveSetting) (runnable : VPNRunnable) :
    ServiceCall Unit := do
  let service ← get
  match service.liveData setting with
  | none => throw .uninitializedPropertyAccess
  | some observers =>
      modify fun service =>
        { service with
          liveData :=
            Function.update service.liveData setting
              (some (insert runnable observers)) }

/-- `VPNRunnable.stop`. -/
def VPNRunnable.stop (runnable : VPNRunnable) (service : VPNService) :
    VPNService :=
  { service with packetLoops := service.packetLoops.erase runnable }

/-- The block of `stopVPNThread` for the packet loop, if there is one. -/
def stopRunnable : ServiceCall Unit := do
  let service ← get
  match service.vpnRunnable with
  | none => pure ()
  | some runnable => do
      removeObserver .accessPolicies runnable
      removeObserver .defaultForwardPolicyLive runnable
      removeObserver .systemAppsForwardPolicyLive runnable
      removeObserver .allowMulticastLive runnable
      removeObserver .allowDnsLive runnable
      removeObserver .hideMulticastNotificationsLive runnable
      removeObserver .hideDnsNotificationsLive runnable
      modify runnable.stop

def stopVPNThread (currentTimeMillis : Int) (keepSession : Bool) :
    ServiceCall Unit := do
  modify unregisterNetworkCallback
  modify fun service =>
    if keepSession then
      service
    else
      service.stopLanShieldSession currentTimeMillis
  stopRunnable
  modify fun service =>
    { service with
      vpnRunnable := none
      vpnThread := none }
  modify closeVpnInterface
  modify (setVPNRunning false)

/-- What `Builder.establish` does. -/
inductive EstablishAnswer where
  | descriptor
  | null
  | illegalStateException
  | securityException
  deriving DecidableEq, Repr

/-- `Builder.establish`, with what the service catches. -/
def establish : EstablishAnswer → ServiceCall (Option Nat)
  | .descriptor => do
      let service ← get
      modify fun service =>
        { service with
          descriptors := insert service.nextHandle service.descriptors
          nextHandle := service.nextHandle + 1 }
      pure (some service.nextHandle)
  | .null => pure none
  | .illegalStateException => pure none
  | .securityException => pure none

/-- What the platform answers while the tunnel is started. -/
structure StartAnswers where
  currentTimeMillis : Int
  currentInterfaceRoutePrefixes : Finset RoutePrefix
  establish : EstablishAnswer
  callbackRegistered : Bool

/-- `startVPNThread` after `establish` has returned `null`. -/
def keepOrStop (keepSession : Bool) (answers : StartAnswers) :
    ServiceCall Unit := do
  let service ← get
  if keepSession && service.isVPNRunning then
    pure ()
  else do
    stopVPNThread answers.currentTimeMillis false
    modify stopForeground
    modify (setVPNRunning false)

/-- The new packet loop observes its settings. -/
def observeSettings (runnable : VPNRunnable) : ServiceCall Unit := do
  observeForever .accessPolicies runnable
  observeForever .defaultForwardPolicyLive runnable
  observeForever .systemAppsForwardPolicyLive runnable
  observeForever .allowMulticastLive runnable
  observeForever .allowDnsLive runnable
  observeForever .hideMulticastNotificationsLive runnable
  observeForever .hideDnsNotificationsLive runnable

/-- `startVPNThread` opens a session unless it keeps one. -/
def openSession (currentTimeMillis : Int) (keepSession : Bool)
    (service : VPNService) : VPNService :=
  if !keepSession || service.lanShieldSession.isNone then
    (service.stopLanShieldSession currentTimeMillis).insertSession
      currentTimeMillis
  else
    service

/-- `startVPNThread` after `establish` has returned a descriptor. -/
def replacePacketLoop (keepSession : Bool) (answers : StartAnswers)
    (vpnInterface : Nat) : ServiceCall Unit := do
  stopVPNThread answers.currentTimeMillis keepSession
  let runnable : VPNRunnable := ⟨vpnInterface⟩
  modify fun service =>
    { service with
      vpnInterface := some vpnInterface
      installedInterfaceRoutes := answers.currentInterfaceRoutePrefixes
      vpnRunnable := some runnable }
  observeSettings runnable
  modify fun service => { service with vpnThread := some runnable }
  modify (openSession answers.currentTimeMillis keepSession)
  modify fun service =>
    { service with packetLoops := insert runnable service.packetLoops }
  modify (setVPNRunning true)
  modify (registerNetworkCallback answers.callbackRegistered)

def startVPNThread (keepSession : Bool) (answers : StartAnswers) :
    ServiceCall Unit := do
  let vpnInterface ← establish answers.establish
  match vpnInterface with
  | none => keepOrStop keepSession answers
  | some vpnInterface => replacePacketLoop keepSession answers vpnInterface

/-- `refreshInterfaceRoutes`; `current` is what it reads itself. -/
def refreshInterfaceRoutes (current : Finset RoutePrefix)
    (answers : StartAnswers) : ServiceCall Unit := do
  let service ← get
  if service.isVPNRunning = false then
    pure ()
  else if current = service.installedInterfaceRoutes then
    pure ()
  else
    startVPNThread true answers

/-- The foreground types of `refuseStart`; the last is the one without a
type. -/
inductive ForegroundType where
  | systemExempted
  | shortService
  | untyped
  deriving DecidableEq, Repr

/-- The types `refuseStart` tries in turn. -/
def refusalTypes (upsideDownCake : Bool) : List ForegroundType :=
  if upsideDownCake then [.systemExempted, .shortService] else [.untyped]

/-- What `onStartCommand` returns. -/
inductive StartResult where
  | startSticky
  | startNotSticky
  deriving DecidableEq, Repr

/-- What the platform answers during `onStartCommand`: the version, the
local network permission, the consent `prepare` asks for, whether
`startForeground` is permitted, and which types are when it refuses. -/
structure CommandAnswers where
  upsideDownCake : Bool
  localNetworkGranted : Bool
  consented : Bool
  foregroundPermitted : Bool
  refusalPermitted : ForegroundType → Bool
  start : StartAnswers

def refuseStart (answers : CommandAnswers) : ServiceCall StartResult := do
  let promoted :=
    (refusalTypes answers.upsideDownCake).any answers.refusalPermitted
  modify fun service =>
    if promoted then service.startForeground.stopForeground else service
  modify stopSelf
  pure .startNotSticky

/-- `onStartCommand` without the intent that stops the service. -/
def startCommand (answers : CommandAnswers) : ServiceCall StartResult := do
  let service ← get
  if service.isVPNRunning then
    pure .startSticky
  else if answers.localNetworkGranted = false then
    refuseStart answers
  else if answers.consented = false then
    refuseStart answers
  else if answers.foregroundPermitted = false then
    refuseStart answers
  else do
    modify startForeground
    startVPNThread false answers.start
    pure .startSticky

/-- `onStartCommand` with the intent `STOP_VPN_SERVICE`. -/
def stopCommand (currentTimeMillis : Int) : ServiceCall StartResult := do
  let service ← get
  if service.isVPNRunning then do
    stopVPNThread currentTimeMillis false
    modify stopForeground
    modify stopSelf
    pure .startSticky
  else do
    modify stopSelf
    pure .startSticky

def onStartCommand (stopVpnService : Bool) (answers : CommandAnswers) :
    ServiceCall StartResult := do
  modify initializeLiveData
  if stopVpnService then
    stopCommand answers.start.currentTimeMillis
  else
    startCommand answers

def onRevoke (currentTimeMillis : Int) : ServiceCall Unit := do
  stopVPNThread currentTimeMillis false
  modify stopForeground
  modify stopSelf

def onDestroy (currentTimeMillis : Int) : ServiceCall Unit := do
  modify unregisterNetworkCallback
  modify (setVPNRunning false)
  modify (stopLanShieldSession currentTimeMillis)

/-- The main-thread callbacks of the service. -/
inductive Callback where
  | onStartCommand (stopVpnService : Bool) (answers : CommandAnswers)
  | refreshInterfaceRoutes (current : Finset RoutePrefix)
      (answers : StartAnswers)
  | onRevoke (currentTimeMillis : Int)
  | onDestroy (currentTimeMillis : Int)

/-- The service after a callback. -/
def serviceStep (service : VPNService) : Callback → VPNService
  | .onStartCommand stopVpnService answers =>
      (onStartCommand stopVpnService answers).final service
  | .refreshInterfaceRoutes current answers =>
      (refreshInterfaceRoutes current answers).final service
  | .onRevoke currentTimeMillis => (onRevoke currentTimeMillis).final service
  | .onDestroy currentTimeMillis =>
      (onDestroy currentTimeMillis).final service

end LanShield.VpnService
