import LanShield.Library.Runs
import LanShield.Vpn.SessionOpening

/-!
# The packet thread keeps the engine in order

What one step of the packet thread leaves of the table and of the session
objects, and what then holds where the thread stands.  The step that puts a
session back into the table needs that the session is still there, and the
step that notes the headers of a packet needs that they have room.
-/

namespace LanShield.Vpn

open LanShield.Library LanShield.Java LanShield.Transport Program

/-- What the packet thread's next step relies on. -/
def Engine.Ready (kept guarded : Prop) (engine : Engine) :
    PacketThread → Prop
  | .keepUdp id | .keepFin id => kept → engine.InTable id
  | .enterUdp datagram _ _ => guarded → datagram.ipHeader.HasRoom
  | .enterTcp segment _ =>
      guarded → segment.ipHeader.HasRoom ∧ segment.tcpheader.HasRoom
  | .idle | .createUdp _ | .createTcp .. | .resendAck _ | .populate ..
  | .abort _ => True

namespace PacketHandling

section Blocks

variable {kept guarded : Prop} {id : Nat} {engine : Engine}

private theorem announced_noteDatagram {datagram : UdpDatagram}
    (unregistered : engine.Unregistered id .udp)
    (steady :
      Steady guarded engine
        (engine.updateObject id
          (SessionObject.updateSession (noteDatagram datagram)))) :
    Announced id
      (engine.updateObject id
        (SessionObject.updateSession (noteDatagram datagram))) := by
  have protocol_eq :=
    (steady.objects id).protocol_eq.trans unregistered.protocol_eq
  refine
    ⟨(Engine.inTable_steady steady).mpr unregistered.inTable, ?_, ?_, ?_⟩
  · rw [Engine.updateObject_self]
    rfl
  · intro tcp
    rw [protocol_eq] at tcp
    cases tcp
  · intro _
    rw [Engine.updateObject_self]
    rfl

private theorem ends_handleDatagram {datagram : UdpDatagram}
    {newSession : Bool}
    (working : Working kept guarded engine) (held : engine.Held id)
    (isNew : newSession = true → engine.Unregistered id .udp)
    (complete : guarded → datagram.ipHeader.Complete) (answers : Answers) :
    Ends (fun _ after => Working kept guarded after ∧ after.Held id)
      (Working kept guarded)
      (handleDatagram datagram newSession answers id) engine := by
  have noted :
      Steady guarded engine
        (engine.updateObject id
          (SessionObject.updateSession (noteDatagram datagram))) :=
    respects_noteDatagram complete engine
  have announced := fun holds =>
    announced_noteDatagram (isNew holds) noted
  replace working := working.steady noted
  replace held := held.steady noted
  apply ends_modify_bind
  generalize engine.updateObject id
    (SessionObject.updateSession (noteDatagram datagram)) = engine
      at working held announced ⊢
  apply ends_steady (respects_addClientData datagram.data)
  · exact fun _ steady => working.steady steady
  intro _ engine steady
  replace working := working.steady steady
  replace held := held.steady steady
  replace announced := fun holds => (announced holds).steady steady
  have ready :
      Steady guarded engine
        (engine.updateObject id
          (SessionObject.updateSession fun session =>
            { session with isDataForSendingReady := true })) := by
    apply Steady.update
    apply ObjectStep.ofSession
    exact .plain rfl rfl rfl rfl rfl rfl rfl rfl
  apply ends_modify_bind
  replace working := working.steady ready
  replace held := held.steady ready
  replace announced := fun holds => (announced holds).steady ready
  by_cases isNew : newSession = true
  · rw [if_pos isNew]
    apply (ends_registerSession working (announced isNew) answers).bind
    rintro _ engine ⟨working, announced⟩
    apply (respects_subscribeKey .write).ends.imp
    · intro _ after steady
      exact
        ⟨working.steady steady,
          (working.steady steady).placed.held
            (announced.steady steady).inTable⟩
    · exact fun _ steady => working.steady steady
  · rw [if_neg isNew]
    apply (respects_subscribeKey .write).ends.imp
    · intro _ after steady
      exact ⟨working.steady steady, held.steady steady⟩
    · exact fun _ steady => working.steady steady

private theorem populateSession_step {syn : TcpSegment} {packet : Packet}
    (ipComplete : syn.ipHeader.Complete)
    (tcpComplete : syn.tcpheader.Complete)
    (small : packet.transportHeader.maxSegmentSize < 2 ^ 15) :
    Steady guarded engine
      (engine.updateObject id
        (SessionObject.updateSession
          (populateSession syn packet.transportHeader))) := by
  apply Steady.update
  refine ObjectStep.ofHeaders ⟨rfl, rfl, rfl, rfl, rfl, ?_, ?_, ?_, ?_⟩
  · intro _ _
    refine ⟨?_, ?_⟩
    · intro header last
      cases last
      exact ipComplete
    · intro header last
      cases last
      exact tcpComplete
  · exact fun _ _ => small
  · exact fun _ => rfl
  · exact fun known => known

private theorem announced_populateSession {syn : TcpSegment} {packet : Packet}
    (unregistered : engine.Unregistered id .tcp)
    (steady :
      Steady guarded engine
        (engine.updateObject id
          (SessionObject.updateSession
            (populateSession syn packet.transportHeader)))) :
    Announced id
      (engine.updateObject id
        (SessionObject.updateSession
          (populateSession syn packet.transportHeader))) := by
  have protocol_eq :=
    (steady.objects id).protocol_eq.trans unregistered.protocol_eq
  refine
    ⟨(Engine.inTable_steady steady).mpr unregistered.inTable, ?_, ?_, ?_⟩
  · rw [Engine.updateObject_self]
    rfl
  · intro _
    rw [Engine.updateObject_self]
    rfl
  · intro udp
    rw [protocol_eq] at udp
    cases udp

private theorem ends_populate {syn : TcpSegment} {packet : Packet}
    (working : Working kept guarded engine)
    (unregistered : engine.Unregistered id .tcp)
    (ipComplete : syn.ipHeader.Complete)
    (tcpComplete : syn.tcpheader.Complete)
    (small : packet.transportHeader.maxSegmentSize < 2 ^ 15)
    (data : List UInt8) (answers : Answers) :
    Ends (fun _ => Working kept guarded) (Working kept guarded)
      (populate syn packet data answers id) engine := by
  have noted :
      Steady guarded engine
        (engine.updateObject id
          (SessionObject.updateSession
            (populateSession syn packet.transportHeader))) :=
    populateSession_step ipComplete tcpComplete small
  apply ends_modify_bind
  apply (ends_registerSession (working.steady noted)
    (announced_populateSession unregistered noted) answers).bind
  rintro _ engine ⟨working, _⟩
  apply (respects_write data).ends.imp
  · exact fun _ _ steady => working.steady steady
  · exact fun _ steady => working.steady steady

/-- Removing a session that is marked as aborting right afterwards. -/
private theorem removeEntry_setAborting :
    (engine.removeEntry id).updateObject id
        (SessionObject.updateSession fun session =>
          { session with abortingConnection := true }) =
      (engine.updateObject id
        (SessionObject.updateSession fun session =>
          { session with abortingConnection := true })).removeEntry id := by
  have key_eq :
      (engine.updateObject id
          (SessionObject.updateSession fun session =>
            { session with abortingConnection := true })).getSessionKey
          id =
        engine.getSessionKey id := by
    rw [Engine.getSessionKey]
    rw [Engine.updateObject_self]
    rfl
  unfold Engine.removeEntry
  rw [key_eq]
  rfl

private theorem ends_closeAborting (working : Working kept guarded engine)
    (held : engine.Held id) :
    Ends (fun _ after => Working kept guarded after ∧ after.Held id)
      (Working kept guarded)
      (do
        closeSessionOf id
        setAbortingConnection id) engine := by
  have aborted (before : Engine) :
      Steady guarded before
        (before.updateObject id
          (SessionObject.updateSession fun session =>
            { session with abortingConnection := true })) :=
    respects_setAbortingConnection before
  have ends_eq :
      Working kept guarded
          ((engine.closeSession (engine.getSessionKey id)).updateObject id
            (SessionObject.updateSession fun session =>
              { session with abortingConnection := true })) ∧
        ((engine.closeSession (engine.getSessionKey id)).updateObject id
            (SessionObject.updateSession fun session =>
              { session with abortingConnection := true })).Held id := by
    rcases Engine.closeSession_held held with same | ⟨inTable, removed⟩
    · rw [same]
      exact
        ⟨working.steady (aborted engine), held.steady (aborted engine)⟩
    · have closing :
          Steady guarded engine
            (engine.updateObject id SessionObject.closeChannel) :=
        Steady.update (ObjectStep.closeChannel _)
      have both := IsTrans.trans _ _ _ closing (aborted _)
      rw [removed, removeEntry_setAborting]
      refine ⟨?_, (held.steady both).removeEntry⟩
      apply (working.steady both).removeAborted
      · exact (Engine.inTable_steady both).mpr inTable
      · rw [Engine.updateObject_self, Engine.updateObject_self]
        rfl
      · rw [Engine.updateObject_self]
        rfl
  exact ends_eq

private theorem ends_ackFinAck (working : Working kept guarded engine)
    (held : engine.Held id) (segment : TcpSegment) (currentTime : Int) :
    Ends (fun _ after => Working kept guarded after ∧ after.Held id)
      (Working kept guarded) (ackFinAck segment currentTime id) engine := by
  apply ends_steady (respects_sendPacket _)
  · exact fun _ steady => working.steady steady
  intro _ engine sent
  replace working := working.steady sent
  replace held := held.steady sent
  apply ends_steady respects_cancelKey
  · exact fun _ steady => working.steady steady
  intro _ engine cancelled
  exact ends_closeAborting (working.steady cancelled) (held.steady cancelled)

private theorem ends_handleFlags (working : Working kept guarded engine)
    (held : engine.Held id) (segment : TcpSegment) (currentTime : Int) :
    Ends (fun _ after => Working kept guarded after ∧ after.Held id)
      (Working kept guarded) (handleFlags segment currentTime id)
      engine := by
  have steadily {program : Running Unit}
      (respected : Respects (Steady guarded) program) :
      Ends (fun _ after => Working kept guarded after ∧ after.Held id)
        (Working kept guarded) program engine :=
    respected.ends.imp
      (fun _ _ steady => ⟨working.steady steady, held.steady steady⟩)
      fun _ steady => working.steady steady
  rw [handleFlags]
  split
  · exact steadily (respects_pushDataToDestination _ currentTime)
  split
  · exact ends_ackFinAck working held segment currentTime
  split
  · exact steadily (respects_resetTCPConnection segment)
  · exact steadily (respects_pure _)

/-- A session that is not aborting has not been closed. -/
private theorem ends_finishSegment (working : Working kept guarded engine)
    (held : engine.Held id) :
    Ends (fun _ => Working kept guarded) (Working kept guarded)
      (finishSegment id) engine := by
  apply ends_readSession
  by_cases aborting :
      (engine.sessions id).session.abortingConnection = true
  · rw [if_pos aborting]
    exact ends_pure working
  · rw [if_neg aborting]
    have kept : Working kept guarded (engine.keepSessionAlive id) := by
      apply working.keepSessionAlive held
      intro holds member
      exact aborting (working.gone holds id member).1
    apply ends_modify_bind
    apply NioThread.respects_pumpToClient.ends.imp
    · exact fun _ _ steady => kept.steady steady
    · exact fun _ steady => kept.steady steady

private theorem ends_handleSessionSegment {segment : TcpSegment}
    (working : Working kept guarded engine) (held : engine.Held id)
    (complete :
      guarded → segment.ipHeader.Complete ∧ segment.tcpheader.Complete)
    (currentTime : Int) :
    Ends (fun _ => Working kept guarded) (Working kept guarded)
      (handleSessionSegment segment currentTime id) engine := by
  apply ends_steady (respects_handleBody complete currentTime)
  · exact fun _ steady => working.steady steady
  intro _ engine steady
  apply (ends_handleFlags (working.steady steady) (held.steady steady)
    segment currentTime).bind
  rintro _ engine ⟨working, held⟩
  exact ends_finishSegment working held

end Blocks

/-- A step of the packet thread leaves the engine in order, and what it
returns holds there. -/
abbrev Steps (kept guarded : Prop) (program : Running PacketThread)
    (engine : Engine) : Prop :=
  Ends
    (fun next after =>
      Working kept guarded after ∧ after.Standing next ∧ next.Stored)
    (Working kept guarded) program engine

section Positions

variable {kept guarded : Prop} {id : Nat} {engine : Engine}

private theorem steps_pure {next : PacketThread}
    (working : Working kept guarded engine)
    (standing : engine.Standing next) (stored : next.Stored) :
    Steps kept guarded (pure next) engine :=
  ends_pure ⟨working, standing, stored⟩

/-- A steady program after which the thread is idle. -/
private theorem steps_idle {Value : Type} {program : Running Value}
    (working : Working kept guarded engine)
    (respected : Respects (Steady guarded) program) :
    Steps kept guarded
      (do
        let _ ← program
        return .idle) engine := by
  apply ends_steady respected
  · exact fun _ steady => working.steady steady
  · intro _ after steady
    exact steps_pure (working.steady steady) trivial trivial

private theorem steps_buildPacket {packet : Packet}
    {next : List UInt8 → Running PacketThread}
    (working : Working kept guarded engine)
    (right :
      ∀ packetId data after, packet.getBuffer packetId = .ok data →
        Working kept guarded after →
          Steps kept guarded (next data) after) :
    Steps kept guarded (buildPacket packet >>= next) engine := by
  have numbered :
      Working kept guarded
        { engine with
          packetIds := fun index => engine.packetIds (index + 1) } :=
    working.steady (respects_getPacketId engine)
  have build_eq :
      Steps kept guarded
        (built (packet.getBuffer (engine.packetIds 0)) >>= next)
        { engine with
          packetIds := fun index => engine.packetIds (index + 1) } := by
    cases result : packet.getBuffer (engine.packetIds 0) with
    | error exception => exact numbered
    | ok data => exact right _ data _ result numbered
  exact build_eq

/-! ### A packet -/

private theorem steps_handleSyn {segment : TcpSegment}
    (working : Working kept guarded engine)
    (ipComplete : segment.ipHeader.HasRoom → segment.ipHeader.Complete)
    (tcpParsed : segment.tcpheader.Parsed) (random currentTime : Int) :
    Steps kept guarded
      (do
        let data ←
          buildPacket
            (TCPPacketFactory.createSynAckPacketData segment.ipHeader
              segment.tcpheader random currentTime)
        return .createTcp segment
          (TCPPacketFactory.createSynAckPacketData segment.ipHeader
            segment.tcpheader random currentTime) data) engine := by
  apply steps_buildPacket working
  intro packetId data after built working
  obtain ⟨ipRoom, tcpRoom⟩ :=
    TCPPacketFactory.hasRoom_of_createSynAckPacketData built
  exact
    steps_pure working trivial
      ⟨ipComplete ipRoom, tcpParsed.complete tcpRoom, tcpParsed.small⟩

private theorem steps_handleTCPPacket {segment : TcpSegment}
    (working : Working kept guarded engine)
    (ipComplete : segment.ipHeader.HasRoom → segment.ipHeader.Complete)
    (tcpParsed : segment.tcpheader.Parsed) (answers : Answers) :
    Steps kept guarded (handleTCPPacket segment answers) engine := by
  rw [handleTCPPacket]
  split
  · exact
      steps_handleSyn working ipComplete tcpParsed answers.random
        answers.currentTime
  split
  · apply ends_getSession
    cases found : engine.table segment.sessionKey with
    | some id =>
        exact
          steps_pure working (working.placed.held found)
            ⟨ipComplete, tcpParsed⟩
    | none =>
        exact
          steps_idle working
            (respects_handleUnknown segment answers.currentTime)
  split
  · apply ends_getSession
    cases found : engine.table segment.sessionKey with
    | some id =>
        exact steps_pure working (working.placed.held found) trivial
    | none => exact steps_idle working (respects_sendPacket _)
  split
  · apply ends_getSession
    cases found : engine.table segment.sessionKey with
    | some id =>
        exact steps_pure working (working.placed.held found) trivial
    | none => exact steps_pure working trivial trivial
  · exact steps_pure working trivial trivial

private theorem steps_handleUDPPacket {datagram : UdpDatagram}
    (working : Working kept guarded engine)
    (complete : datagram.ipHeader.HasRoom → datagram.ipHeader.Complete) :
    Steps kept guarded (handleUDPPacket datagram) engine := by
  apply ends_getSession
  cases found : engine.table datagram.sessionKey with
  | some id =>
      exact
        steps_pure working ⟨working.placed.held found, nofun⟩ complete
  | none => exact steps_pure working found complete

/-- A stream that does not parse ends the step with the engine as it was. -/
private theorem steps_parsed {Header : Type} {header : Reading Header}
    {stream : ByteBuffer}
    {next : Header × ByteBuffer → Running PacketThread}
    (working : Working kept guarded engine)
    (right :
      ∀ value behind, header stream = .ok (value, behind) →
        Steps kept guarded (next (value, behind)) engine) :
    Steps kept guarded (parsed header stream >>= next) engine := by
  rw [parsed]
  cases read : header stream with
  | error exception => exact working
  | ok result => exact right result.1 result.2 read

/-- Any buffer at all may be handed to the thread. -/
private theorem steps_handlePacket (working : Working kept guarded engine)
    (stream : ByteBuffer) (answers : Answers) :
    Steps kept guarded (handlePacket stream answers) engine := by
  rw [handlePacket]
  apply steps_parsed working
  intro ipHeader behind ipRead
  have ipComplete := createIPHeader_complete ipRead
  dsimp only
  split
  · apply steps_parsed working
    intro tcpheader data tcpRead
    exact
      steps_handleTCPPacket working ipComplete
        (TCPPacketFactory.createTCPHeader_parsed tcpRead) answers
  · apply steps_parsed working
    intro udpheader data udpRead
    exact steps_handleUDPPacket working ipComplete
  · exact steps_pure working trivial trivial
  · exact steps_pure working trivial trivial
  · exact steps_pure working trivial trivial

/-! ### A step -/

private theorem steps_createUdp {datagram : UdpDatagram}
    (working : Working kept guarded engine)
    (absent : engine.table datagram.sessionKey = none)
    (complete : datagram.ipHeader.HasRoom → datagram.ipHeader.Complete)
    (answers : Answers) :
    Steps kept guarded (proceed answers (.createUdp datagram)) engine := by
  have isFresh : True → engine.table datagram.sessionKey = none :=
    fun _ => absent
  apply (ends_createNewUDPSession working rfl isFresh _ answers).bind
  intro id after created
  have found := created.inTable
  refine
    steps_pure created.working
      ⟨created.working.placed.held found, fun _ => ?_⟩ complete
  exact
    ⟨found, created.unregistered trivial,
      congrArg SessionKey.protocol created.key_eq⟩

private theorem steps_enterUdp {datagram : UdpDatagram} {newSession : Bool}
    (working : Working kept guarded engine) (held : engine.Held id)
    (isNew : newSession = true → engine.Unregistered id .udp)
    (complete : guarded → datagram.ipHeader.Complete) (answers : Answers) :
    Steps kept guarded (proceed answers (.enterUdp datagram newSession id))
      engine := by
  apply (ends_handleDatagram working held isNew complete answers).bind
  rintro _ after ⟨working, held⟩
  exact steps_pure working held trivial

/-- The session is put back as it was, or must not have been closed. -/
private theorem steps_keepSessionAlive (working : Working kept guarded engine)
    (held : engine.Held id) (inTable : kept → engine.InTable id) :
    Steps kept guarded
      (do
        keepSessionAlive id
        return .idle) engine := by
  apply ends_modify_bind
  refine steps_pure ?_ trivial trivial
  apply working.keepSessionAlive held
  exact fun holds => working.live holds (inTable holds)

private theorem steps_createTcp {syn : TcpSegment} {packet : Packet}
    (working : Working kept guarded engine)
    (stored : (PacketThread.createTcp syn packet []).Stored)
    (data : List UInt8) (answers : Answers) :
    Steps kept guarded (createTcp syn packet data answers) engine := by
  have isFresh : False → engine.table syn.sessionKey = none := False.elim
  apply (ends_createNewTCPSession working rfl isFresh _ answers).bind
  intro id engine created
  apply ends_readSession
  by_cases announced :
      (engine.sessions id).session.lastIpHeader.isSome = true
  · rw [if_pos announced]
    exact steps_pure created.working trivial trivial
  · rw [if_neg announced]
    refine steps_pure created.working ?_ stored
    refine
      ⟨created.inTable, ?_, congrArg SessionKey.protocol created.key_eq⟩
    apply Bool.eq_false_of_not_eq_true
    intro registered
    exact announced (created.working.placed.announced id registered)

private theorem steps_proceed {thread : PacketThread}
    (working : Working kept guarded engine)
    (standing : engine.Standing thread) (stored : thread.Stored)
    (ready : engine.Ready kept guarded thread) (answers : Answers) :
    Steps kept guarded (proceed answers thread) engine := by
  cases thread with
  | idle => exact steps_pure working trivial trivial
  | createUdp datagram =>
      exact steps_createUdp working standing stored answers
  | enterUdp datagram newSession id =>
      exact
        steps_enterUdp working standing.1 standing.2
          (fun holds => stored (ready holds)) answers
  | keepUdp id => exact steps_keepSessionAlive working standing ready
  | createTcp syn packet data =>
      exact steps_createTcp working stored data answers
  | resendAck id =>
      exact steps_idle working (respects_resendAck answers.currentTime)
  | populate syn packet data id =>
      obtain ⟨ipComplete, tcpComplete, small⟩ := stored
      apply (ends_populate working standing ipComplete tcpComplete small
        data answers).bind
      intro _ after working
      exact steps_pure working trivial trivial
  | enterTcp segment id =>
      have complete (holds : guarded) :
          segment.ipHeader.Complete ∧ segment.tcpheader.Complete := by
        obtain ⟨ipRoom, tcpRoom⟩ := ready holds
        exact ⟨stored.1 ipRoom, stored.2.complete tcpRoom⟩
      apply (ends_handleSessionSegment working standing complete
        answers.currentTime).bind
      intro _ after working
      exact steps_pure working trivial trivial
  | keepFin id => exact steps_keepSessionAlive working standing ready
  | abort id => exact steps_idle working respects_setAbortingConnection

private theorem ordered_runPacketStep {program : Running PacketThread}
    (steps : Steps kept guarded program engine) :
    Ordered kept guarded (runPacketStep program engine) := by
  rw [Steps, Ends] at steps
  rw [runPacketStep]
  rcases ended : program.outcome engine with ⟨failure | next, after⟩
  · rw [ended] at steps
    have working : Working kept guarded after := steps
    exact
      ⟨working.placed.withThreads .idle _, working.gone, trivial, trivial,
        working.sound, working.running⟩
  · rw [ended] at steps
    obtain ⟨working, standing, stored⟩ :
        Working kept guarded after ∧ after.Standing next ∧ next.Stored :=
      steps
    exact
      ⟨working.placed.withThreads next _, working.gone,
        standing.withThreads next _, stored, working.sound,
        working.running⟩

end Positions

end PacketHandling

/-- What an event relies on. -/
def Engine.EventReady (kept guarded : Prop) (engine : Engine) :
    EngineEvent → Prop
  | .handlePacket .. | .select .. => True
  | .proceed _ => engine.Ready kept guarded engine.packetThread

section EngineRuns

variable {kept guarded : Prop} {engine : Engine}

theorem Ordered.working (ordered : Ordered kept guarded engine) :
    Working kept guarded engine :=
  ⟨ordered.placed, ordered.gone, ordered.sound, ordered.running⟩

theorem ordered_engineStep {event : EngineEvent}
    (ordered : Ordered kept guarded engine)
    (ready : engine.EventReady kept guarded event) :
    Ordered kept guarded (engineStep engine event) := by
  cases event with
  | handlePacket stream answers =>
      dsimp only [engineStep]
      split
      · apply PacketHandling.ordered_runPacketStep
        exact
          PacketHandling.steps_handlePacket ordered.working stream answers
      · exact ordered
  | proceed answers =>
      apply PacketHandling.ordered_runPacketStep
      exact
        PacketHandling.steps_proceed ordered.working ordered.standing
          ordered.stored ready answers
  | select selected id =>
      dsimp only [engineStep]
      split
      · next registered =>
        exact
          NioThread.ordered_runSelectedKey ordered registered.1
            registered.2 selected
      · exact ordered

theorem ordered_start (packetIds : Nat → Int) :
    Ordered kept guarded (Engine.start packetIds) where
  placed :=
    { wired := fun _ => ⟨rfl, fun valid => Bool.noConfusion valid⟩
      placed := nofun
      isValid := fun _ valid => Bool.noConfusion valid
      announced := fun _ registered => Bool.noConfusion registered
      attached := fun id known => by
        rcases known with inTable | registered
        · exact (Option.some_ne_none id inTable.symm).elim
        · exact Bool.noConfusion registered
      closed := nofun }
  gone _ := nofun
  standing := trivial
  stored := trivial
  sound _ _ :=
    ⟨newSession_headers, newSession_small,
      fun registered => Bool.noConfusion registered,
      fun registered => Bool.noConfusion registered,
      fun registered => Bool.noConfusion registered⟩
  running _ := rfl

theorem ordered_run {packetIds : Nat → Int} {events : List EngineEvent}
    (ready :
      StepsMeet engineStep (Engine.EventReady kept guarded)
        (Engine.start packetIds) events) :
    Ordered kept guarded
      (run engineStep (Engine.start packetIds) events) :=
  run_guarded_invariant
    (fun _ _ meets ordered => ordered_engineStep ordered meets) events
    (ordered_start packetIds) ready

end EngineRuns

end LanShield.Vpn
