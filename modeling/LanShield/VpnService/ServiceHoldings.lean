import LanShield.VpnService.VPNService
import Mathlib.Data.Finset.SDiff
import Mathlib.Data.Finset.Option

/-!
# What the service holds

`Holdings` is the service reduced to the resources it has taken: observers, a
packet loop, descriptors, a network callback and a session.  Each method of
`VPNService` changes the holdings in a simple way, and none throws.
-/

namespace LanShield.VpnService

open LanShield.Library Program

/-- `observed` are the observers of every `LiveData` field, or none if the
fields were not set. -/
structure Holdings where
  observed : Option (Finset VPNRunnable)
  runnable : Option VPNRunnable
  vpnInterface : Option Nat
  loops : Finset VPNRunnable
  descriptors : Finset Nat
  callback : Option Nat
  session : Option LANShieldSession
  running : Bool
  foreground : Bool

/-- The service holds these resources and no others; every inserted session
but the present one has been closed, once. -/
structure Holds (service : VPNService) (holdings : Holdings) : Prop where
  liveData : ∀ setting, service.liveData setting = holdings.observed
  vpnRunnable : service.vpnRunnable = holdings.runnable
  vpnInterface : service.vpnInterface = holdings.vpnInterface
  packetLoops : service.packetLoops = holdings.loops
  descriptors : service.descriptors = holdings.descriptors
  networkCallback : service.networkCallback = holdings.callback
  networkCallbacks :
    service.networkCallbacks = holdings.callback.toFinset
  lanShieldSession : service.lanShieldSession = holdings.session
  isVPNRunning : service.isVPNRunning = holdings.running
  foreground : service.foreground = holdings.foreground
  bounded : ∀ handle ∈ service.descriptors, handle < service.nextHandle
  sessions :
    service.inserted.map LANShieldSession.uuid =
      service.updated.map LANShieldSession.uuid ++
        holdings.session.toList.map LANShieldSession.uuid
  distinct : (service.inserted.map LANShieldSession.uuid).Nodup
  numbered :
    ∀ uuid ∈ service.inserted.map LANShieldSession.uuid,
      uuid < service.nextHandle

namespace Holdings

/-- Nothing is held; the `LiveData` fields may have been set. -/
def idle (initialized : Bool) : Holdings where
  observed := if initialized then some ∅ else none
  runnable := none
  vpnInterface := none
  loops := ∅
  descriptors := ∅
  callback := none
  session := none
  running := false
  foreground := false

/-- All that belongs to one packet loop is held. -/
def looping (runnable : VPNRunnable) (session : LANShieldSession)
    (callback : Option Nat) : Holdings where
  observed := some {runnable}
  runnable := some runnable
  vpnInterface := some runnable.vpnInterface
  loops := {runnable}
  descriptors := {runnable.vpnInterface}
  callback := callback
  session := some session
  running := true
  foreground := true

/-- The holdings after `stopVPNThread`. -/
def stopped (holdings : Holdings) (keepSession : Bool) : Holdings where
  observed :=
    holdings.observed.map fun observers =>
      observers \ holdings.runnable.toFinset
  runnable := none
  vpnInterface := none
  loops := holdings.loops \ holdings.runnable.toFinset
  descriptors := holdings.descriptors \ holdings.vpnInterface.toFinset
  callback := none
  session := if keepSession then holdings.session else none
  running := false
  foreground := holdings.foreground

end Holdings

section Fields

variable {service : VPNService} {holdings : Holdings}

theorem Holds.unregisterNetworkCallback (holds : Holds service holdings) :
    Holds service.unregisterNetworkCallback
      { holdings with callback := none } := by
  have registered := holds.networkCallback
  have callbacks := holds.networkCallbacks
  rw [VPNService.unregisterNetworkCallback]
  cases known : service.networkCallback with
  | none =>
      rw [known] at registered
      rw [← registered] at callbacks
      exact { holds with
        networkCallback := known
        networkCallbacks := callbacks }
  | some callback =>
      rw [known] at registered
      rw [← registered] at callbacks
      refine { holds with
        networkCallback := rfl
        networkCallbacks := ?_ }
      show service.networkCallbacks.erase callback = ∅
      rw [callbacks, Option.toFinset_some, Finset.erase_singleton]

theorem Holds.registerNetworkCallback (holds : Holds service holdings)
    (registered : Bool) :
    ∃ callback,
      Holds (service.registerNetworkCallback registered)
        { holdings with callback := callback } := by
  rw [VPNService.registerNetworkCallback]
  have known := holds.networkCallback
  have callbacks := holds.networkCallbacks
  cases found : service.networkCallback with
  | some callback =>
      exact ⟨holdings.callback, holds⟩
  | none =>
      rw [found] at known
      rw [← known] at callbacks
      cases registered with
      | false =>
          exact ⟨holdings.callback, holds⟩
      | true =>
          refine ⟨some service.nextHandle, ?_⟩
          refine { holds with
            networkCallback := rfl
            networkCallbacks := ?_
            bounded := ?_
            numbered := ?_ }
          · show insert service.nextHandle service.networkCallbacks = _
            rw [callbacks]
            rfl
          · intro handle member
            exact Nat.lt_succ_of_lt (holds.bounded handle member)
          · intro uuid member
            exact Nat.lt_succ_of_lt (holds.numbered uuid member)

theorem Holds.stopLanShieldSession (holds : Holds service holdings)
    (currentTimeMillis : Int) :
    Holds (service.stopLanShieldSession currentTimeMillis)
      { holdings with session := none } := by
  have present := holds.lanShieldSession
  have sessions := holds.sessions
  rw [VPNService.stopLanShieldSession]
  cases known : service.lanShieldSession with
  | none =>
      rw [known] at present
      rw [← present] at sessions
      exact { holds with
        lanShieldSession := known
        sessions := sessions }
  | some session =>
      rw [known] at present
      rw [← present] at sessions
      refine { holds with
        lanShieldSession := rfl
        sessions := ?_ }
      simpa using sessions

theorem Holds.insertSession (holds : Holds service holdings)
    (closed : holdings.session = none) (currentTimeMillis : Int) :
    ∃ session,
      Holds (service.insertSession currentTimeMillis)
        { holdings with session := some session } := by
  have sessions := holds.sessions
  rw [closed] at sessions
  refine ⟨VPNService.createLANShieldSession service.nextHandle
    currentTimeMillis, ?_⟩
  have fresh :
      service.nextHandle ∉ service.inserted.map LANShieldSession.uuid :=
    fun member => Nat.lt_irrefl _ (holds.numbered _ member)
  refine { holds with
    lanShieldSession := rfl
    bounded := ?_
    sessions := ?_
    distinct := ?_
    numbered := ?_ }
  · intro handle member
    exact Nat.lt_succ_of_lt (holds.bounded handle member)
  · show List.map _ (service.inserted ++ [_]) =
      List.map _ service.updated ++ _
    rw [List.map_append, sessions]
    simp
  · show (List.map _ (service.inserted ++ [_])).Nodup
    rw [List.map_append]
    exact List.Nodup.append holds.distinct (List.nodup_singleton _)
      (List.disjoint_singleton.mpr fresh)
  · intro uuid member
    have cases_of :
        uuid ∈ service.inserted.map LANShieldSession.uuid ∨
          uuid = service.nextHandle := by
      simpa [VPNService.insertSession, VPNService.createLANShieldSession,
        or_comm] using member
    rcases cases_of with old | new
    · exact Nat.lt_succ_of_lt (holds.numbered uuid old)
    · rw [new]
      exact Nat.lt_succ_self service.nextHandle

theorem Holds.setVPNRunning (holds : Holds service holdings)
    (isRunning : Bool) :
    Holds (service.setVPNRunning isRunning)
      { holdings with running := isRunning } :=
  { holds with isVPNRunning := rfl }

theorem Holds.startForeground (holds : Holds service holdings) :
    Holds service.startForeground { holdings with foreground := true } :=
  { holds with foreground := rfl }

theorem Holds.stopForeground (holds : Holds service holdings) :
    Holds service.stopForeground { holdings with foreground := false } :=
  { holds with foreground := rfl }

theorem Holds.stopSelf (holds : Holds service holdings) :
    Holds service.stopSelf holdings :=
  { holds with }

private theorem Holds.forgetRunnable (holds : Holds service holdings) :
    Holds { service with vpnRunnable := none, vpnThread := none }
      { holdings with runnable := none } :=
  { holds with vpnRunnable := rfl }

theorem Holds.closeVpnInterface (holds : Holds service holdings) :
    Holds service.closeVpnInterface
      { holdings with
        vpnInterface := none
        descriptors :=
          holdings.descriptors \ holdings.vpnInterface.toFinset } := by
  have known := holds.vpnInterface
  rw [VPNService.closeVpnInterface]
  cases found : service.vpnInterface with
  | none =>
      rw [found] at known
      refine { holds with
        vpnInterface := found
        descriptors := ?_ }
      rw [← known]
      simpa using holds.descriptors
  | some vpnInterface =>
      rw [found] at known
      refine { holds with
        vpnInterface := rfl
        descriptors := ?_
        bounded := ?_ }
      · show service.descriptors.erase vpnInterface = _
        rw [← known, holds.descriptors, Option.toFinset_some,
          Finset.sdiff_singleton_eq_erase]
      · intro handle member
        exact holds.bounded handle (Finset.mem_of_mem_erase member)

theorem Holds.initializeLiveData {initialized : Bool}
    (holds : Holds service (.idle initialized)) :
    Holds service.initializeLiveData (.idle true) := by
  have observed := holds.liveData
  rw [VPNService.initializeLiveData]
  cases initialized with
  | true =>
      rw [holds.liveData]
      exact holds
  | false =>
      rw [holds.liveData]
      exact { holds with liveData := fun _ => rfl }

end Fields

/-- The call returns, and leaves what satisfies `returns`. -/
abbrev Returns {Value : Type} (returns : Value → VPNService → Prop)
    (call : ServiceCall Value) (service : VPNService) : Prop :=
  Ends returns (fun _ => False) call service

/-- The service with other observers. -/
def VPNService.observedBy
    (liveData : LiveSetting → Option (Finset VPNRunnable))
    (service : VPNService) : VPNService :=
  { service with liveData := liveData }

section Calls

variable {service : VPNService} {holdings : Holdings}
  {liveData : LiveSetting → Option (Finset VPNRunnable)}
  {setting : LiveSetting} {runnable : VPNRunnable}
  {observers : Finset VPNRunnable}
  {returns : Unit → VPNService → Prop} {next : Unit → ServiceCall Unit}

private theorem returns_removeObserver
    (initialized : liveData setting = some observers)
    (right :
      Returns returns (next ())
        (service.observedBy
          (Function.update liveData setting
            (some (observers.erase runnable))))) :
    Returns returns (removeObserver setting runnable >>= next)
      (service.observedBy liveData) := by
  rw [removeObserver]
  rw [bind_assoc]
  apply ends_read
  have found :
      (service.observedBy liveData).liveData setting = some observers :=
    initialized
  rw [found]
  exact ends_modify_bind right

private theorem returns_observeForever
    (initialized : liveData setting = some observers)
    (right :
      Returns returns (next ())
        (service.observedBy
          (Function.update liveData setting
            (some (insert runnable observers))))) :
    Returns returns (observeForever setting runnable >>= next)
      (service.observedBy liveData) := by
  rw [observeForever]
  rw [bind_assoc]
  apply ends_read
  have found :
      (service.observedBy liveData).liveData setting = some observers :=
    initialized
  rw [found]
  exact ends_modify_bind right

/-- The settings in the order `VPNService` goes through them are all. -/
private theorem update_each (old new : Option (Finset VPNRunnable)) :
    Function.update (Function.update (Function.update (Function.update
      (Function.update (Function.update (Function.update
        (fun _ => old)
        LiveSetting.accessPolicies new)
        .defaultForwardPolicyLive new)
        .systemAppsForwardPolicyLive new)
        .allowMulticastLive new)
        .allowDnsLive new)
        .hideMulticastNotificationsLive new)
        .hideDnsNotificationsLive new = fun _ => new := by
  funext setting
  cases setting <;> rfl

private theorem Holds.observedBy (holds : Holds service holdings) :
    service.observedBy (fun _ => holdings.observed) = service := by
  have same : service.liveData = fun _ => holdings.observed :=
    funext holds.liveData
  rw [VPNService.observedBy]
  rw [← same]

theorem Holds.stopRunnable (holds : Holds service holdings)
    (initialized : holdings.runnable ≠ none → holdings.observed ≠ none) :
    Returns
      (fun _ after =>
        Holds after
          { holdings with
            observed :=
              holdings.observed.map fun observers =>
                observers \ holdings.runnable.toFinset
            loops := holdings.loops \ holdings.runnable.toFinset })
      VpnService.stopRunnable service := by
  have known := holds.vpnRunnable
  rw [VpnService.stopRunnable]
  apply ends_read
  cases found : service.vpnRunnable with
  | none =>
      rw [found] at known
      apply ends_pure
      refine { holds with
        vpnRunnable := found.trans known
        liveData := ?_
        packetLoops := ?_ }
      · intro setting
        simpa [← known] using holds.liveData setting
      · simpa [← known] using holds.packetLoops
  | some runnable =>
      rw [found] at known
      obtain ⟨observers, observed⟩ :
          ∃ observers, holdings.observed = some observers :=
        Option.ne_none_iff_exists'.mp (initialized (by simp [← known]))
      have start := holds.observedBy
      rw [observed] at start
      rw [← start]
      apply returns_removeObserver rfl
      apply returns_removeObserver rfl
      apply returns_removeObserver rfl
      apply returns_removeObserver rfl
      apply returns_removeObserver rfl
      apply returns_removeObserver rfl
      apply returns_removeObserver rfl
      apply ends_modify
      rw [update_each]
      refine { holds with
        vpnRunnable := found.trans known
        liveData := ?_
        packetLoops := ?_ }
      · intro setting
        rw [← known, observed]
        simp [VPNRunnable.stop, VPNService.observedBy,
          Finset.sdiff_singleton_eq_erase]
      · show service.packetLoops.erase runnable = _
        rw [← known, holds.packetLoops, Option.toFinset_some,
          Finset.sdiff_singleton_eq_erase]

theorem Holds.observeSettings (holds : Holds service holdings)
    (initialized : holdings.observed = some observers)
    (right :
      ∀ after,
        Holds after
          { holdings with observed := some (insert runnable observers) } →
          Returns returns (next ()) after) :
    Returns returns (observeSettings runnable >>= next) service := by
  have start := holds.observedBy
  rw [initialized] at start
  rw [← start]
  simp only [VpnService.observeSettings, bind_assoc]
  apply returns_observeForever rfl
  apply returns_observeForever rfl
  apply returns_observeForever rfl
  apply returns_observeForever rfl
  apply returns_observeForever rfl
  apply returns_observeForever rfl
  apply returns_observeForever rfl
  rw [update_each]
  exact right _ { holds with liveData := fun _ => rfl }

theorem Holds.stopVPNThread (holds : Holds service holdings)
    (initialized : holdings.runnable ≠ none → holdings.observed ≠ none)
    (currentTimeMillis : Int) (keepSession : Bool) :
    Returns (fun _ after => Holds after (holdings.stopped keepSession))
      (VpnService.stopVPNThread currentTimeMillis keepSession) service := by
  rw [VpnService.stopVPNThread]
  apply ends_modify_bind
  apply ends_modify_bind
  have closed :
      Holds
        (if keepSession then
          service.unregisterNetworkCallback
        else
          service.unregisterNetworkCallback.stopLanShieldSession
            currentTimeMillis)
        { holdings with
          callback := none
          session := if keepSession then holdings.session else none } := by
    cases keepSession with
    | false =>
        exact holds.unregisterNetworkCallback.stopLanShieldSession
          currentTimeMillis
    | true =>
        exact holds.unregisterNetworkCallback
  apply Ends.bind (closed.stopRunnable initialized)
  intro _ after held
  apply ends_modify_bind
  apply ends_modify_bind
  apply ends_modify
  exact held.forgetRunnable.closeVpnInterface.setVPNRunning false

theorem Holds.openSession (holds : Holds service holdings)
    (currentTimeMillis : Int) (keepSession : Bool) :
    ∃ session,
      (∀ kept, keepSession = true → holdings.session = some kept →
          session = kept) ∧
        Holds (VpnService.openSession currentTimeMillis keepSession service)
          { holdings with session := some session } := by
  have present := holds.lanShieldSession
  rw [VpnService.openSession]
  by_cases opens : (!keepSession || service.lanShieldSession.isNone) = true
  · rw [if_pos opens]
    obtain ⟨session, inserted⟩ :=
      (holds.stopLanShieldSession currentTimeMillis).insertSession rfl
        currentTimeMillis
    refine ⟨session, ?_, inserted⟩
    intro kept keeps known
    rw [keeps, present, known] at opens
    exact absurd opens (by simp)
  · rw [if_neg opens]
    obtain ⟨session, known⟩ :
        ∃ session, service.lanShieldSession = some session := by
      cases found : service.lanShieldSession with
      | none =>
          rw [found] at opens
          exact absurd (by simp) opens
      | some session =>
          exact ⟨session, rfl⟩
    rw [known] at present
    refine ⟨session, ?_, ?_⟩
    · intro kept _ same
      rw [← present] at same
      exact Option.some.inj same
    · rw [present]
      exact holds

/-- Once the old packet loop is stopped, with its session kept or closed,
the service holds the new one. -/
theorem Holds.replacePacketLoop {vpnInterface : Nat}
    {kept : Option LANShieldSession} {keepSession : Bool}
    (holds : Holds service holdings)
    (initialized : holdings.runnable ≠ none → holdings.observed ≠ none)
    (stopped :
      holdings.stopped keepSession =
        { Holdings.idle true with
          descriptors := {vpnInterface}
          session := kept
          foreground := true })
    (answers : StartAnswers) :
    Returns
      (fun _ after =>
        ∃ session callback,
          (∀ old, keepSession = true → kept = some old → session = old) ∧
            Holds after (.looping ⟨vpnInterface⟩ session callback))
      (VpnService.replacePacketLoop keepSession answers vpnInterface)
      service := by
  rw [VpnService.replacePacketLoop]
  apply Ends.bind
    (holds.stopVPNThread initialized answers.currentTimeMillis keepSession)
  intro _ after held
  rw [stopped] at held
  apply ends_modify_bind
  have assigned :
      Holds
        { after with
          vpnInterface := some vpnInterface
          installedInterfaceRoutes := answers.currentInterfaceRoutePrefixes
          vpnRunnable := some ⟨vpnInterface⟩ }
        { Holdings.idle true with
          runnable := some ⟨vpnInterface⟩
          vpnInterface := some vpnInterface
          descriptors := {vpnInterface}
          session := kept
          foreground := true } :=
    { held with
      vpnRunnable := rfl
      vpnInterface := rfl }
  apply assigned.observeSettings rfl
  intro observed heldObserved
  apply ends_modify_bind
  apply ends_modify_bind
  apply ends_modify_bind
  apply ends_modify_bind
  apply ends_modify
  have threaded :
      Holds { observed with vpnThread := some ⟨vpnInterface⟩ } _ :=
    { heldObserved with }
  obtain ⟨session, same, opened⟩ :=
    threaded.openSession answers.currentTimeMillis keepSession
  have started :
      Holds
        { VpnService.openSession answers.currentTimeMillis keepSession
            { observed with vpnThread := some ⟨vpnInterface⟩ } with
          packetLoops :=
            insert ⟨vpnInterface⟩
              (VpnService.openSession answers.currentTimeMillis keepSession
                { observed with
                  vpnThread := some ⟨vpnInterface⟩ }).packetLoops }
        { Holdings.looping ⟨vpnInterface⟩ session none with
          running := false } :=
    { opened with
      packetLoops := by
        rw [opened.packetLoops]
        rfl }
  obtain ⟨callback, registered⟩ :=
    (started.setVPNRunning true).registerNetworkCallback
      answers.callbackRegistered
  exact ⟨session, callback, same, registered⟩

end Calls

end LanShield.VpnService
