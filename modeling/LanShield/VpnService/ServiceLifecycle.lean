import LanShield.VpnService.ServiceHoldings

/-!
# The life of the service

Between two callbacks the service holds nothing, or exactly what belongs to
one packet loop with its session.  Only `onDestroy` can end this, as it does
not stop the packet loop.
-/

namespace LanShield.VpnService

open LanShield.Library Program

/-- The session was inserted and not closed. -/
def VPNService.SessionOpen (service : VPNService) (uuid : Nat) : Prop :=
  uuid ∈ service.inserted.map LANShieldSession.uuid ∧
    uuid ∉ service.updated.map LANShieldSession.uuid

/-- The bookkeeping of the service between two callbacks. -/
structure VPNService.Consistent (service : VPNService) : Prop where
  running_iff :
    service.isVPNRunning = true ↔
      ∃ runnable session,
        (service.vpnRunnable = some runnable ∧
            runnable ∈ service.packetLoops) ∧
          (service.vpnInterface = some runnable.vpnInterface ∧
            runnable.vpnInterface ∈ service.descriptors) ∧
          service.lanShieldSession = some session ∧
            service.SessionOpen session.uuid
  nothingLeft :
    service.isVPNRunning = false →
      (service.vpnRunnable = none ∧ service.packetLoops = ∅) ∧
        (service.vpnInterface = none ∧ service.descriptors = ∅) ∧
        (∀ setting observers,
          service.liveData setting = some observers → observers = ∅) ∧
        service.networkCallback = none ∧ service.networkCallbacks = ∅
  oneSession :
    ∀ first second,
      service.SessionOpen first → service.SessionOpen second →
        first = second
  refreshKeeps :
    ∀ current answers uuid,
      (serviceStep service
          (.refreshInterfaceRoutes current answers)).SessionOpen uuid ↔
        service.SessionOpen uuid
  closedOnce : (service.updated.map LANShieldSession.uuid).Nodup

/-- `onDestroy` does not come while the tunnel is up. -/
def StoppedBeforeDestroy (service : VPNService) : Callback → Prop
  | .onDestroy _ => service.isVPNRunning = false
  | .onStartCommand .. => True
  | .refreshInterfaceRoutes .. => True
  | .onRevoke _ => True

section Starting

variable {service : VPNService} {holdings : Holdings}

theorem Holds.establish {returns : Unit → VPNService → Prop}
    {next : Option Nat → ServiceCall Unit}
    (holds : Holds service holdings) (answer : EstablishAnswer)
    (failed : Returns returns (next none) service)
    (established :
      ∀ vpnInterface after,
        vpnInterface ∉ holdings.descriptors →
          Holds after
            { holdings with
              descriptors := insert vpnInterface holdings.descriptors } →
            Returns returns (next (some vpnInterface)) after) :
    Returns returns (VpnService.establish answer >>= next) service := by
  cases answer with
  | null =>
      exact failed
  | illegalStateException =>
      exact failed
  | securityException =>
      exact failed
  | descriptor =>
      apply established
      · intro member
        rw [← holds.descriptors] at member
        exact Nat.lt_irrefl _ (holds.bounded _ member)
      · refine { holds with
          descriptors := ?_
          bounded := ?_
          numbered := ?_ }
        · show insert service.nextHandle service.descriptors = _
          rw [holds.descriptors]
        · intro handle member
          rcases Finset.mem_insert.mp member with rfl | old
          · exact Nat.lt_succ_self _
          · exact Nat.lt_succ_of_lt (holds.bounded handle old)
        · intro uuid member
          exact Nat.lt_succ_of_lt (holds.numbered uuid member)

/-- A start ends with a packet loop or with nothing. -/
theorem Holds.startVPNThread
    (holds :
      Holds service { Holdings.idle true with foreground := true })
    (answers : StartAnswers) :
    Returns
      (fun _ after =>
        Holds after (.idle true) ∨
          ∃ runnable session callback,
            Holds after (.looping runnable session callback))
      (VpnService.startVPNThread false answers) service := by
  rw [VpnService.startVPNThread]
  apply holds.establish answers.establish
  · apply ends_read
    apply Ends.bind
      (holds.stopVPNThread (fun present => (present rfl).elim)
        answers.currentTimeMillis false)
    intro _ after stopped
    apply ends_modify_bind
    apply ends_modify
    exact Or.inl (stopped.stopForeground.setVPNRunning false)
  · intro vpnInterface after _ held
    apply Ends.mono
      (@Holds.replacePacketLoop after _ vpnInterface none false held
        (fun present => (present rfl).elim) rfl answers)
    rintro _ last ⟨session, callback, -, looping⟩
    exact Or.inr ⟨_, session, callback, looping⟩

/-- A refresh ends with a packet loop and the same session. -/
private theorem Holds.restartVPNThread {runnable : VPNRunnable}
    {session : LANShieldSession} {callback : Option Nat}
    (holds : Holds service (.looping runnable session callback))
    (answers : StartAnswers) :
    Returns
      (fun _ after =>
        ∃ runnable callback,
          Holds after (.looping runnable session callback))
      (VpnService.startVPNThread true answers) service := by
  rw [VpnService.startVPNThread]
  apply holds.establish answers.establish
  · apply ends_read
    rw [holds.isVPNRunning]
    exact ⟨runnable, callback, holds⟩
  · intro vpnInterface after fresh held
    have stopped :
        Holdings.stopped
            { Holdings.looping runnable session callback with
              descriptors :=
                insert vpnInterface
                  (Holdings.looping runnable session
                    callback).descriptors } true =
          { Holdings.idle true with
            descriptors := {vpnInterface}
            session := some session
            foreground := true } := by
      have different :
          vpnInterface ∉ ({runnable.vpnInterface} : Finset Nat) :=
        fresh
      have released :
          insert vpnInterface {runnable.vpnInterface} \
              {runnable.vpnInterface} = ({vpnInterface} : Finset Nat) := by
        rw [Finset.insert_sdiff_of_notMem _ different, Finset.sdiff_self,
          insert_empty_eq]
      simpa [Holdings.stopped, Holdings.looping, Holdings.idle] using released
    apply Ends.mono (held.replacePacketLoop nofun stopped answers)
    rintro _ last ⟨kept, callback, same, looping⟩
    have unchanged : kept = session := same session rfl rfl
    rw [unchanged] at looping
    exact ⟨_, callback, looping⟩

end Starting

/-- The service holds nothing, or what belongs to one packet loop. -/
def VPNService.Settled (service : VPNService) : Prop :=
  (∃ initialized, Holds service (.idle initialized)) ∨
    ∃ runnable session callback,
      Holds service (.looping runnable session callback)

section Callbacks

variable {service : VPNService}

/-- Stopping leaves nothing but the foreground notification. -/
theorem VPNService.Settled.stopVPNThread (settled : service.Settled)
    (currentTimeMillis : Int) :
    Returns
      (fun _ after =>
        ∃ initialized foreground,
          Holds after
            { Holdings.idle initialized with foreground := foreground })
      (VpnService.stopVPNThread currentTimeMillis false) service := by
  rcases settled with
    ⟨initialized, idle⟩ | ⟨runnable, session, callback, looping⟩
  · apply Ends.mono
      (idle.stopVPNThread (fun present => (present rfl).elim)
        currentTimeMillis false)
    intro _ after stopped
    refine ⟨initialized, false, ?_⟩
    cases initialized with
    | false => exact stopped
    | true => exact stopped
  · apply Ends.mono (looping.stopVPNThread nofun currentTimeMillis false)
    intro _ after stopped
    refine ⟨true, true, ?_⟩
    simpa [Holdings.stopped, Holdings.looping, Holdings.idle] using stopped

theorem VPNService.Settled.onRevoke (settled : service.Settled)
    (currentTimeMillis : Int) :
    Returns (fun _ after => after.Settled)
      (VpnService.onRevoke currentTimeMillis) service := by
  rw [VpnService.onRevoke]
  apply Ends.bind (settled.stopVPNThread currentTimeMillis)
  rintro _ after ⟨initialized, foreground, stopped⟩
  apply ends_modify_bind
  apply ends_modify
  exact Or.inl ⟨initialized, stopped.stopForeground.stopSelf⟩

theorem VPNService.Settled.stopCommand (settled : service.Settled)
    (currentTimeMillis : Int) :
    Returns (fun _ after => after.Settled)
      (VpnService.stopCommand currentTimeMillis) service := by
  rw [VpnService.stopCommand]
  apply ends_read
  by_cases running : service.isVPNRunning = true
  · rw [if_pos running]
    apply Ends.bind (settled.stopVPNThread currentTimeMillis)
    rintro _ after ⟨initialized, foreground, stopped⟩
    apply ends_modify_bind
    apply ends_modify_bind
    apply ends_pure
    exact Or.inl ⟨initialized, stopped.stopForeground.stopSelf⟩
  · rw [if_neg running]
    apply ends_modify_bind
    apply ends_pure
    rcases settled with
      ⟨initialized, idle⟩ | ⟨runnable, session, callback, looping⟩
    · exact Or.inl ⟨initialized, idle.stopSelf⟩
    · exact (running looping.isVPNRunning).elim

theorem Holds.refuseStart (holds : Holds service (.idle true))
    (answers : CommandAnswers) :
    Returns (fun _ after => after.Settled)
      (VpnService.refuseStart answers) service := by
  rw [VpnService.refuseStart]
  apply ends_modify_bind
  apply ends_modify_bind
  apply ends_pure
  by_cases promoted :
      (refusalTypes answers.upsideDownCake).any
        answers.refusalPermitted = true
  · rw [if_pos promoted]
    exact Or.inl ⟨true, holds.startForeground.stopForeground.stopSelf⟩
  · rw [if_neg promoted]
    exact Or.inl ⟨true, holds.stopSelf⟩

/-- A start command on a service that holds nothing. -/
theorem Holds.startCommand (holds : Holds service (.idle true))
    (answers : CommandAnswers) :
    Returns (fun _ after => after.Settled)
      (VpnService.startCommand answers) service := by
  rw [VpnService.startCommand]
  apply ends_read
  rw [holds.isVPNRunning]
  by_cases ungranted : answers.localNetworkGranted = false
  · rw [if_pos ungranted]
    exact holds.refuseStart answers
  rw [if_neg ungranted]
  by_cases unconsented : answers.consented = false
  · rw [if_pos unconsented]
    exact holds.refuseStart answers
  rw [if_neg unconsented]
  by_cases unpermitted : answers.foregroundPermitted = false
  · rw [if_pos unpermitted]
    exact holds.refuseStart answers
  rw [if_neg unpermitted]
  apply ends_modify_bind
  apply Ends.bind (holds.startForeground.startVPNThread answers.start)
  intro _ after started
  apply ends_pure
  rcases started with idle | looping
  · exact Or.inl ⟨true, idle⟩
  · exact Or.inr looping

theorem VPNService.Settled.onStartCommand (settled : service.Settled)
    (stopVpnService : Bool) (answers : CommandAnswers) :
    Returns (fun _ after => after.Settled)
      (VpnService.onStartCommand stopVpnService answers) service := by
  rw [VpnService.onStartCommand]
  apply ends_modify_bind
  rcases settled with
    ⟨initialized, idle⟩ | ⟨runnable, session, callback, looping⟩
  · have ready := idle.initializeLiveData
    cases stopVpnService with
    | true =>
        exact VPNService.Settled.stopCommand (Or.inl ⟨true, ready⟩) _
    | false =>
        exact ready.startCommand answers
  · have unchanged : service.initializeLiveData = service := by
      rw [VPNService.initializeLiveData]
      rw [looping.liveData]
      rfl
    rw [unchanged]
    have settled : service.Settled :=
      Or.inr ⟨runnable, session, callback, looping⟩
    cases stopVpnService with
    | true =>
        exact settled.stopCommand _
    | false =>
        apply ends_read
        rw [looping.isVPNRunning]
        exact settled

/-- A refresh finds nothing to do, or ends with the same session. -/
theorem VPNService.Settled.refreshInterfaceRoutes
    (settled : service.Settled) (current : Finset RoutePrefix)
    (answers : StartAnswers) :
    Returns
      (fun _ after =>
        after = service ∨
          ∃ session,
            (∃ runnable callback,
                Holds service (.looping runnable session callback)) ∧
              ∃ runnable callback,
                Holds after (.looping runnable session callback))
      (VpnService.refreshInterfaceRoutes current answers) service := by
  rw [VpnService.refreshInterfaceRoutes]
  apply ends_read
  by_cases stopped : service.isVPNRunning = false
  · rw [if_pos stopped]
    exact Or.inl rfl
  rw [if_neg stopped]
  by_cases unchanged : current = service.installedInterfaceRoutes
  · rw [if_pos unchanged]
    exact Or.inl rfl
  rw [if_neg unchanged]
  rcases settled with
    ⟨initialized, idle⟩ | ⟨runnable, session, callback, looping⟩
  · exact (stopped idle.isVPNRunning).elim
  · apply Ends.mono (looping.restartVPNThread answers)
    intro _ after restarted
    exact Or.inr ⟨session, ⟨runnable, callback, looping⟩, restarted⟩

end Callbacks

section Between

variable {service : VPNService} {holdings : Holdings}

/-- The only open session is the one the service holds. -/
private theorem Holds.sessionOpen_iff (holds : Holds service holdings)
    (uuid : Nat) :
    service.SessionOpen uuid ↔
      ∃ session,
        holdings.session = some session ∧ session.uuid = uuid := by
  have distinct := holds.distinct
  rw [VPNService.SessionOpen]
  rw [holds.sessions] at distinct ⊢
  cases present : holdings.session with
  | none =>
      simp
  | some session =>
      rw [present] at distinct
      have fresh :
          session.uuid ∉ service.updated.map LANShieldSession.uuid := by
        have apart := List.disjoint_of_nodup_append distinct
        exact fun closed => apart closed (by simp)
      constructor
      · rintro ⟨inserted, notClosed⟩
        rcases List.mem_append.mp inserted with closed | last
        · exact (notClosed closed).elim
        · exact ⟨session, rfl, (by simpa using last : uuid = _).symm⟩
      · rintro ⟨_, same, rfl⟩
        rw [← Option.some.inj same]
        exact ⟨List.mem_append_right _ (by simp), fresh⟩

private theorem Holds.closedOnce (holds : Holds service holdings) :
    (service.updated.map LANShieldSession.uuid).Nodup := by
  have distinct := holds.distinct
  rw [holds.sessions] at distinct
  exact distinct.of_append_left

private theorem VPNService.Settled.oneSession (settled : service.Settled)
    (first second : Nat) (firstOpen : service.SessionOpen first)
    (secondOpen : service.SessionOpen second) : first = second := by
  rcases settled with
    ⟨initialized, idle⟩ | ⟨runnable, session, callback, looping⟩
  · obtain ⟨session, absent, -⟩ :=
      (idle.sessionOpen_iff first).mp firstOpen
    exact absurd absent nofun
  · obtain ⟨one, isOne, rfl⟩ :=
      (looping.sessionOpen_iff first).mp firstOpen
    obtain ⟨other, isOther, rfl⟩ :=
      (looping.sessionOpen_iff second).mp secondOpen
    have same : one = other :=
      Option.some.inj (isOne.symm.trans isOther)
    rw [same]

private theorem VPNService.Settled.refreshKeeps (settled : service.Settled)
    (current : Finset RoutePrefix) (answers : StartAnswers) (uuid : Nat) :
    (serviceStep service
        (.refreshInterfaceRoutes current answers)).SessionOpen uuid ↔
      service.SessionOpen uuid := by
  obtain ⟨_, -, refreshed⟩ :=
    (settled.refreshInterfaceRoutes current answers).returned
  show
    ((VpnService.refreshInterfaceRoutes current answers).final
      service).SessionOpen uuid ↔ _
  rcases refreshed with
    same | ⟨session, ⟨_, _, looping⟩, ⟨_, _, restarted⟩⟩
  · rw [same]
  · rw [restarted.sessionOpen_iff, looping.sessionOpen_iff]
    rfl

theorem VPNService.Settled.consistent (settled : service.Settled) :
    service.Consistent := by
  have oneSession := settled.oneSession
  have refreshKeeps := settled.refreshKeeps
  rcases settled with
    ⟨initialized, idle⟩ | ⟨runnable, session, callback, looping⟩
  · refine
      { oneSession := oneSession
        refreshKeeps := refreshKeeps
        closedOnce := idle.closedOnce
        running_iff := ?_
        nothingLeft := ?_ }
    · constructor
      · intro running
        rw [idle.isVPNRunning] at running
        exact absurd running nofun
      · rintro ⟨runnable, session, ⟨present, -⟩, -, -⟩
        rw [idle.vpnRunnable] at present
        exact absurd present nofun
    · intro _
      refine
        ⟨⟨idle.vpnRunnable, idle.packetLoops⟩,
          ⟨idle.vpnInterface, idle.descriptors⟩, ?_,
          idle.networkCallback, idle.networkCallbacks⟩
      intro setting observers present
      rw [idle.liveData] at present
      cases initialized with
      | false => exact absurd present nofun
      | true => exact (Option.some.inj present).symm
  · refine
      { oneSession := oneSession
        refreshKeeps := refreshKeeps
        closedOnce := looping.closedOnce
        running_iff := ?_
        nothingLeft := ?_ }
    · constructor
      · intro _
        refine
          ⟨runnable, session, ⟨looping.vpnRunnable, ?_⟩,
            ⟨looping.vpnInterface, ?_⟩, looping.lanShieldSession, ?_⟩
        · rw [looping.packetLoops]
          exact Finset.mem_singleton_self runnable
        · rw [looping.descriptors]
          exact Finset.mem_singleton_self runnable.vpnInterface
        · exact (looping.sessionOpen_iff _).mpr ⟨session, rfl, rfl⟩
      · exact fun _ => looping.isVPNRunning
    · intro stopped
      rw [looping.isVPNRunning] at stopped
      exact absurd stopped nofun

/-- A callback that meets the condition ends with nothing or with one packet
loop. -/
theorem VPNService.Settled.step (settled : service.Settled)
    (callback : Callback) (meets : StoppedBeforeDestroy service callback) :
    (serviceStep service callback).Settled := by
  cases callback with
  | onStartCommand stopVpnService answers =>
      obtain ⟨_, -, after⟩ :=
        (settled.onStartCommand stopVpnService answers).returned
      exact after
  | refreshInterfaceRoutes current answers =>
      obtain ⟨_, -, after⟩ :=
        (settled.refreshInterfaceRoutes current answers).returned
      rcases after with same | ⟨session, -, ⟨_, _, restarted⟩⟩
      · show ((VpnService.refreshInterfaceRoutes current answers).final
          service).Settled
        rw [same]
        exact settled
      · exact Or.inr ⟨_, session, _, restarted⟩
  | onRevoke currentTimeMillis =>
      obtain ⟨_, -, after⟩ := (settled.onRevoke currentTimeMillis).returned
      exact after
  | onDestroy currentTimeMillis =>
      have stopped : service.isVPNRunning = false := meets
      rcases settled with
        ⟨initialized, idle⟩ | ⟨runnable, session, callback, looping⟩
      · refine Or.inl ⟨initialized, ?_⟩
        exact
          (idle.unregisterNetworkCallback.setVPNRunning
            false).stopLanShieldSession currentTimeMillis
      · rw [looping.isVPNRunning] at stopped
        exact absurd stopped nofun

/-- Destroyed while the tunnel is up, the service keeps its packet loop. -/
private theorem VPNService.Settled.destroyed (settled : service.Settled)
    {callback : Callback} (fails : ¬ StoppedBeforeDestroy service callback) :
    ¬ (serviceStep service callback).Consistent := by
  intro consistent
  cases callback with
  | onStartCommand stopVpnService answers => exact fails trivial
  | refreshInterfaceRoutes current answers => exact fails trivial
  | onRevoke currentTimeMillis => exact fails trivial
  | onDestroy currentTimeMillis =>
      rcases settled with
        ⟨initialized, idle⟩ | ⟨runnable, session, callback, looping⟩
      · exact fails idle.isVPNRunning
      · have destroyed :=
          (looping.unregisterNetworkCallback.setVPNRunning
            false).stopLanShieldSession currentTimeMillis
        have left :=
          (consistent.nothingLeft destroyed.isVPNRunning).1.1
        exact absurd (destroyed.vpnRunnable.symm.trans left) nofun

end Between

private theorem created_settled : VPNService.created.Settled := by
  refine Or.inl ⟨false, ?_⟩
  constructor <;> simp [VPNService.created, Holdings.idle]

/-- The bookkeeping is consistent between any two callbacks of a run if and
only if `onDestroy` comes only while the tunnel is down. -/
theorem serviceRun_consistent_iff (callbacks : List Callback) :
    (∀ visited, visited <+: callbacks →
      (run serviceStep .created visited).Consistent) ↔
      StepsMeet serviceStep StoppedBeforeDestroy .created callbacks := by
  have exact_run :=
    @forall_prefix_iff_stepsMeet VPNService Callback serviceStep
      StoppedBeforeDestroy (fun _ _ => True)
      (fun _ service => service.Settled)
      (fun _ service => service.Consistent)
  apply exact_run
  · intro _ service callback _ settled _
    constructor
    · intro consistent
      by_contra fails
      exact settled.destroyed fails consistent
    · exact fun meets => (settled.step callback meets).consistent
  · exact fun _ _ callback _ settled meets => settled.step callback meets
  · exact Along.of_forall (fun _ _ => trivial) callbacks []
  · exact created_settled
  · exact created_settled.consistent

/-- The tunnel is started and then the service is destroyed. -/
def startThenDestroy : List Callback :=
  [.onStartCommand false
      { upsideDownCake := true
        localNetworkGranted := true
        consented := true
        foregroundPermitted := true
        refusalPermitted := fun _ => true
        start :=
          { currentTimeMillis := 1000
            currentInterfaceRoutePrefixes := ∅
            establish := .descriptor
            callbackRegistered := true } },
    .onDestroy 2000]

theorem destroyed_keeps_packetLoop :
    (run serviceStep .created startThenDestroy).isVPNRunning = false ∧
      (run serviceStep .created startThenDestroy).packetLoops = {⟨0⟩} ∧
        (run serviceStep .created startThenDestroy).descriptors = {0} ∧
          ¬ (run serviceStep .created startThenDestroy).Consistent := by
  have stopped :
      (run serviceStep .created startThenDestroy).isVPNRunning = false := by
    rfl
  have loops :
      (run serviceStep .created startThenDestroy).packetLoops = {⟨0⟩} := by
    rfl
  refine ⟨stopped, loops, rfl, ?_⟩
  intro consistent
  have empty := (consistent.nothingLeft stopped).1.2
  rw [loops] at empty
  exact Finset.singleton_ne_empty _ empty

end LanShield.VpnService
