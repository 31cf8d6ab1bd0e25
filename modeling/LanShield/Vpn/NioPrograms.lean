import LanShield.Vpn.SessionTable

/-!
# The NIO thread keeps the engine in order

While the NIO thread processes the key of a registered session, the table
stays in order and only that session can leave it.  With `guarded` the last
headers of the sessions are such that the builders succeed, and then nothing
but an `IOException` is thrown.
-/

namespace LanShield.Vpn

open LanShield.Library LanShield.Java LanShield.Transport Program

/-- The engine while the NIO thread processes the key of a session. -/
structure Selected (kept guarded : Prop) (protocol : SessionProtocol)
    (id : Nat) (engine : Engine) : Prop where
  placed : engine.Placed
  gone : kept → engine.Gone
  standing : engine.Standing engine.packetThread
  stored : engine.packetThread.Stored
  held : engine.Held id
  registered : (engine.sessions id).isRegistered = true
  sound : guarded → ∀ other, (engine.sessions other).Sound
  running : engine.nioThread = .running
  protocol_eq : (engine.sessions id).session.protocol = protocol

/-- The program keeps the engine in order, and with `guarded` it throws
nothing but an `IOException`. -/
abbrev Runs (kept guarded : Prop) (protocol : SessionProtocol) (id : Nat)
    {Value : Type} (program : Running Value) : Prop :=
  Keeps (Selected kept guarded protocol id)
    (fun failure => guarded → failure = .io) program

section Rules

variable {kept guarded : Prop} {protocol : SessionProtocol} {id : Nat}
  {Value : Type}

theorem Selected.steady {before after : Engine}
    (selected : Selected kept guarded protocol id before)
    (steady : Steady guarded before after) :
    Selected kept guarded protocol id after where
  placed := selected.placed.steady steady
  gone holds := (selected.gone holds).steady steady
  standing := by
    rw [steady.packetThread]
    exact Engine.Standing.steady selected.standing steady
  stored := by
    rw [steady.packetThread]
    exact selected.stored
  held := selected.held.steady steady
  registered :=
    (steady.objects id).isRegistered.trans selected.registered
  sound holds other :=
    (steady.objects other).sound holds (selected.sound holds other)
  running := steady.nioThread.trans selected.running
  protocol_eq := (steady.objects id).protocol_eq.trans selected.protocol_eq

/-- With `guarded` a packet can be built from the last headers. -/
theorem Selected.complete {engine : Engine}
    (selected : Selected kept guarded protocol id engine)
    {ipHeader : IPHeader} {tcpheader : TCPHeader}
    (lastIp : (engine.sessions id).session.lastIpHeader = some ipHeader)
    (lastTcp : (engine.sessions id).session.lastTcpHeader = some tcpheader)
    (holds : guarded) : ipHeader.Complete ∧ tcpheader.Complete :=
  ⟨(selected.sound holds id).headers.ip _ lastIp,
    (selected.sound holds id).headers.tcp _ lastTcp⟩

/-- A registered TCP session has last headers. -/
theorem Selected.known {engine : Engine}
    (selected : Selected kept guarded .tcp id engine) (holds : guarded) :
    ∃ ipHeader tcpheader,
      (engine.sessions id).session.lastIpHeader = some ipHeader ∧
        (engine.sessions id).session.lastTcpHeader = some tcpheader := by
  have sound := selected.sound holds id
  obtain ⟨ipHeader, lastIp⟩ :=
    Option.isSome_iff_exists.mp (sound.knownIp selected.registered)
  obtain ⟨tcpheader, lastTcp⟩ :=
    Option.isSome_iff_exists.mp
      (sound.knownTcp selected.registered selected.protocol_eq)
  exact ⟨ipHeader, tcpheader, lastIp, lastTcp⟩

/-- The kind of the channel is the session's protocol. -/
private theorem Selected.protocol_tcp {engine : Engine}
    {channel : SocketChannel}
    (selected : Selected kept guarded protocol id engine)
    (socket : (engine.sessions id).channel = .socket channel) :
    protocol = .tcp := by
  have kind := (selected.placed.wired id).kind
  rw [socket, selected.protocol_eq] at kind
  exact of_decide_eq_true kind.symm

private theorem Selected.protocol_udp {engine : Engine}
    {channel : DatagramChannel}
    (selected : Selected kept guarded protocol id engine)
    (datagram : (engine.sessions id).channel = .datagram channel) :
    protocol = .udp := by
  have kind := (selected.placed.wired id).kind
  rw [datagram, selected.protocol_eq] at kind
  have other : protocol ≠ .tcp := of_decide_eq_false kind.symm
  cases protocol with
  | tcp => exact (other rfl).elim
  | udp => rfl

/-- A steady program that throws nothing. -/
private theorem runs_steady {program : Running Value}
    (respected : Respects (Steady guarded) program)
    (calm :
      ∀ engine failure, Selected kept guarded protocol id engine →
        (program.outcome engine).1 = .error failure →
          guarded → failure = .io) :
    Runs kept guarded protocol id program :=
  respected.keeps (fun _ _ steady selected => selected.steady steady) calm

private theorem runs_modify {change : Engine → Engine}
    (steady : ∀ engine, Steady guarded engine (change engine)) :
    Runs kept guarded protocol id (modify change : Running PUnit) :=
  keeps_modify fun engine selected => selected.steady (steady engine)

private theorem runs_session {next : Session → Running Value}
    (right :
      ∀ engine, Selected kept guarded protocol id engine →
        Runs kept guarded protocol id (next (engine.sessions id).session)) :
    Runs kept guarded protocol id (readSession id >>= next) :=
  fun engine selected => right engine selected engine selected

/-- What is read may be used with the engine it was read in. -/
private theorem runs_session_at {next : Session → Running Value}
    (right :
      ∀ engine, Selected kept guarded protocol id engine →
        KeepsAt (Selected kept guarded protocol id)
          (fun failure => guarded → failure = .io)
          (next (engine.sessions id).session) engine) :
    Runs kept guarded protocol id (readSession id >>= next) :=
  right

private theorem runs_object {next : SessionObject → Running Value}
    (right :
      ∀ engine, Selected kept guarded protocol id engine →
        Runs kept guarded protocol id (next (engine.sessions id))) :
    Runs kept guarded protocol id (readObject id >>= next) :=
  fun engine selected => right engine selected engine selected

/-- The same at one engine. -/
private theorem keepsAt_readObject {engine : Engine}
    {next : SessionObject → Running Value}
    (right :
      KeepsAt (Selected kept guarded protocol id)
        (fun failure => guarded → failure = .io)
        (next (engine.sessions id)) engine) :
    KeepsAt (Selected kept guarded protocol id)
      (fun failure => guarded → failure = .io)
      (readObject id >>= next) engine :=
  right

private theorem runs_updateSession {update : Session → Session}
    (step : ∀ session, SessionStep session (update session)) :
    Runs kept guarded protocol id (updateSession id update) :=
  runs_modify (respects_updateSession step)

/-- A registered session has a key. -/
private theorem runs_updateKey {update : Session → Session}
    (step : ∀ session, SessionStep session (update session)) :
    Runs kept guarded protocol id (updateKey id update) := by
  apply runs_object
  intro engine selected
  rw [if_pos selected.registered]
  exact runs_updateSession step

private theorem runs_cancelKey : Runs kept guarded protocol id
    (cancelKey id) :=
  runs_updateKey SessionStep.cancelKey

private theorem runs_subscribeKey (op : SelectionOp) :
    Runs kept guarded protocol id (subscribeKey op id) :=
  runs_updateKey (SessionStep.subscribeKey op)

private theorem runs_unsubscribeKey (op : SelectionOp) :
    Runs kept guarded protocol id (unsubscribeKey op id) :=
  runs_updateKey (SessionStep.unsubscribeKey op)

private theorem runs_setAbortingConnection :
    Runs kept guarded protocol id (setAbortingConnection id) :=
  runs_modify respects_setAbortingConnection

private theorem runs_updateDatagram
    {update : DatagramChannel → DatagramChannel}
    (isOpen : ∀ channel, (update channel).isOpen = channel.isOpen) :
    Runs kept guarded protocol id (updateDatagram id update) :=
  runs_modify (respects_updateDatagram isOpen)

private theorem runs_getPacketId :
    Runs kept guarded protocol id getPacketId := by
  intro engine selected
  refine ⟨selected.steady (respects_getPacketId engine), ?_⟩
  intro failure thrown
  cases thrown

private theorem runs_write (data : List UInt8) :
    Runs kept guarded protocol id (write data) :=
  runs_modify (respects_write data)

private theorem runs_built {bytes : Except JavaException (List UInt8)}
    (built : guarded → ∃ data, bytes = .ok data) :
    Runs kept guarded protocol id (LanShield.Vpn.built bytes) := by
  apply runs_steady (respects_built bytes)
  intro engine failure _ thrown holds
  obtain ⟨data, rfl⟩ := built holds
  cases thrown

private theorem runs_sendPacket {packet : Packet}
    (built :
      guarded → ∀ packetId, ∃ data, packet.getBuffer packetId = .ok data) :
    Runs kept guarded protocol id (sendPacket packet) := by
  apply Keeps.bind
  · apply runs_getPacketId.bind
    intro packetId
    exact runs_built fun holds => built holds packetId
  · intro data
    exact runs_write data

end Rules

namespace NioThread

open SocketNIODataService

variable {kept guarded : Prop} {protocol : SessionProtocol} {id : Nat}

/-! ## `pumpToClient` -/

private theorem runs_sendSegment {ipHeader : IPHeader} {tcpheader : TCPHeader}
    {packetBody : List UInt8}
    (complete : guarded → ipHeader.Complete ∧ tcpheader.Complete)
    (short : guarded → packetBody.length < 2 ^ 15 - 60) :
    Runs kept guarded protocol id
      (sendSegment ipHeader tcpheader packetBody id) := by
  apply runs_session
  intro before _
  apply Keeps.bind
  · apply runs_updateSession
    intro session
    exact .plain rfl rfl rfl rfl rfl rfl rfl rfl
  · intro _
    apply runs_session
    intro engine _
    apply runs_sendPacket
    intro holds packetId
    obtain ⟨ipComplete, tcpComplete⟩ := complete holds
    exact
      TCPPacketFactory.createResponsePacketData_built ipComplete tcpComplete
        (short holds) _ _ _ _ _ packetId

private theorem runs_pumpStaged {ipHeader : IPHeader} {tcpheader : TCPHeader}
    {segMax : Int}
    (complete : guarded → ipHeader.Complete ∧ tcpheader.Complete)
    (small : guarded → segMax < 2 ^ 15 - 60) (rounds : Nat) :
    Runs kept guarded protocol id
      (pumpStaged ipHeader tcpheader segMax id rounds) := by
  induction rounds with
  | zero => exact keeps_pure _
  | succ rounds inductionHypothesis =>
      apply runs_session
      intro engine _
      dsimp only
      apply Keeps.ite
      · apply Keeps.ite
        · exact keeps_pure _
        · apply Keeps.bind
          · apply runs_updateSession
            intro session
            exact .plain rfl rfl rfl rfl rfl rfl rfl rfl
          · intro _
            apply Keeps.ite
            · exact keeps_pure _
            · apply Keeps.bind
              · apply runs_sendSegment complete
                intro holds
                have small := small holds
                rw [Session.getReceivedData]
                rw [List.length_take]
                omega
              · intro _
                exact inductionHypothesis
      · exact keeps_pure _

theorem finPacket_built {ipHeader : IPHeader} {tcpheader : TCPHeader}
    (ipComplete : ipHeader.Complete) (tcpComplete : tcpheader.Complete)
    (session : Session) (packetId : Int) :
    ∃ data,
      (finPacket ipHeader tcpheader session).getBuffer packetId =
        .ok data := by
  obtain ⟨ip, tcp⟩ := finPacket_complete ipComplete tcpComplete session
  apply TCPPacketFactory.createPacketData_built ip tcp
  have words := tcp.short
  rw [TCPHeader.getTCPHeaderLength]
  show _ * 4 + 0 < 2 ^ 15
  omega

private theorem runs_sendFin : Runs kept guarded .tcp id (sendFin id) := by
  apply runs_session
  intro engine selected
  split
  · next ipHeader tcpheader lastIp lastTcp =>
    have complete := selected.complete lastIp lastTcp
    apply Keeps.bind
    · apply runs_modify
      intro later
      apply Steady.update
      apply takeHeaders_step
      intro holds _
      exact finPacket_complete (complete holds).1 (complete holds).2 _
    · intro _
      apply runs_sendPacket
      intro holds packetId
      exact finPacket_built (complete holds).1 (complete holds).2 _ packetId
  · next unknown =>
    apply keeps_throw
    intro holds
    obtain ⟨ipHeader, tcpheader, lastIp, lastTcp⟩ := selected.known holds
    exact (unknown ipHeader tcpheader lastIp lastTcp).elim

private theorem runs_afterPump : Runs kept guarded .tcp id
    (afterPump id) := by
  apply runs_session
  intro engine _
  apply Keeps.ite
  · apply runs_sendFin.bind
    intro _
    exact runs_setAbortingConnection
  · apply Keeps.ite
    · exact runs_subscribeKey .read
    · exact keeps_pure _

theorem maxSegment_small {session : Session}
    (small : session.maxSegmentSize < 2 ^ 15) :
    SocketChannelReader.maxSegment session < 2 ^ 15 - 60 := by
  unfold SocketChannelReader.maxSegment
  dsimp only
  split
  · decide
  · omega

private theorem runs_pumpToClient :
    Runs kept guarded .tcp id (pumpToClient id) := by
  apply runs_session
  intro engine selected
  split
  · next ipHeader tcpheader lastIp lastTcp =>
    apply Keeps.bind
    · apply runs_pumpStaged (selected.complete lastIp lastTcp)
      intro holds
      exact maxSegment_small (selected.sound holds id).small
    · intro _
      exact runs_afterPump
  · exact keeps_pure _

/-! ## `SocketChannelReader` -/

private theorem runs_sendToRequester (chunk : Chunk) :
    Runs kept guarded .tcp id (sendToRequester chunk id) := by
  apply Keeps.bind
  · apply runs_updateSession
    intro session
    exact .plain rfl rfl rfl rfl rfl rfl rfl rfl
  · intro _
    exact runs_pumpToClient

private theorem runs_endUpstream : Runs kept guarded .tcp id
    (endUpstream id) := by
  apply Keeps.bind
  · apply runs_updateSession
    intro session
    exact .plain rfl rfl rfl rfl rfl rfl rfl rfl
  · intro _
    exact runs_pumpToClient

private theorem runs_readFailed (logged : SocketException → Bool)
    (exception : SocketException) :
    Runs kept guarded protocol id (readFailed logged exception id) := by
  apply Keeps.ite
  · exact keeps_pure _
  · exact runs_setAbortingConnection

private theorem runs_readTCPLoop (outcomes : List ReadOutcome)
    (channel : SocketChannel) :
    Runs kept guarded .tcp id (readTCPLoop id outcomes channel) := by
  induction outcomes generalizing channel with
  | nil =>
      apply runs_session
      intro engine _
      apply Keeps.ite
      · apply (runs_unsubscribeKey .read).bind
        intro _
        exact keeps_pure _
      · exact keeps_pure _
  | cons outcome later inductionHypothesis =>
      rw [readTCPLoop]
      apply runs_session
      intro engine _
      apply Keeps.ite
      · apply (runs_unsubscribeKey .read).bind
        intro _
        exact keeps_pure _
      · apply Keeps.bind
        · exact runs_modify (respects_readSocket outcome)
        · intro _
          split
          · next chunk result =>
            apply (runs_sendToRequester chunk).bind
            intro _
            apply (inductionHypothesis _).bind
            intro bytesRead
            exact keeps_pure _
          · exact keeps_pure _
          · apply runs_endUpstream.bind
            intro _
            exact keeps_pure _
          · apply (runs_readFailed _ _).bind
            intro _
            exact keeps_pure _

private theorem runs_readTCP (outcomes : List ReadOutcome)
    (channel : SocketChannel) :
    Runs kept guarded .tcp id (readTCP outcomes channel id) := by
  apply runs_session
  intro engine _
  apply Keeps.ite
  · exact keeps_pure _
  · exact runs_readTCPLoop outcomes channel

private theorem runs_buildUdpResponse (data : List UInt8) :
    Runs kept guarded .udp id (buildUdpResponse data id) := by
  apply runs_session
  intro engine selected
  split
  · next ip udp lastIp lastUdp =>
    apply runs_getPacketId.bind
    intro packetId
    apply runs_built
    intro holds
    exact
      UDPPacketFactory.createResponsePacket_built
        ((selected.sound holds id).headers.ip _ lastIp) data packetId
  · next unknown =>
    apply keeps_throw
    intro holds
    have sound := selected.sound holds id
    obtain ⟨ip, lastIp⟩ :=
      Option.isSome_iff_exists.mp (sound.knownIp selected.registered)
    obtain ⟨udp, lastUdp⟩ :=
      Option.isSome_iff_exists.mp
        (sound.knownUdp selected.registered selected.protocol_eq)
    exact (unknown ip udp lastIp lastUdp).elim

private theorem runs_sendUdpResponse (data : List UInt8) :
    Runs kept guarded .udp id (sendUdpResponse data id) := by
  apply (runs_buildUdpResponse data).bind
  intro packetData
  apply Keeps.ite
  · exact keeps_pure _
  · apply (runs_write packetData).bind
    intro _
    exact keeps_pure _

private theorem runs_readUDP (outcomes : List ReadOutcome) :
    Runs kept guarded .udp id (readUDP id outcomes) := by
  induction outcomes with
  | nil => exact keeps_pure _
  | cons outcome later inductionHypothesis =>
      unfold readUDP
      apply runs_session
      intro engine _
      apply Keeps.ite
      · exact keeps_pure _
      · cases outcome with
        | data chunk =>
            apply Keeps.bind
            · exact runs_updateDatagram fun _ => rfl
            · intro _
              apply (runs_sendUdpResponse chunk.bytes).bind
              intro counted
              apply inductionHypothesis.bind
              intro bytesRead
              exact keeps_pure _
        | nothing => exact keeps_pure _
        | endOfStream => exact keeps_pure _
        | failure exception =>
            apply (runs_readFailed _ _).bind
            intro _
            exact keeps_pure _

private theorem runs_readChannel (outcomes : List ReadOutcome) :
    Runs kept guarded protocol id (readChannel outcomes id) := by
  apply runs_object
  intro engine selected
  split
  · next channel socket =>
    rw [selected.protocol_tcp socket]
    exact runs_readTCP outcomes channel
  · next channel datagram =>
    rw [selected.protocol_udp datagram]
    exact runs_readUDP outcomes

private theorem runs_resubscribe :
    Runs kept guarded protocol id (resubscribe id) := by
  apply runs_object
  intro engine _
  apply Keeps.ite
  · exact runs_subscribeKey .read
  · exact keeps_pure _

/-! ## Removing an aborting session -/

/-- The engine while the NIO thread removes an aborting session. -/
structure Aborting (kept guarded : Prop) (protocol : SessionProtocol)
    (id : Nat) (engine : Engine) : Prop where
  selected : Selected kept guarded protocol id engine
  aborting : (engine.sessions id).session.abortingConnection = true

theorem Aborting.steady {before after : Engine}
    (aborting : Aborting kept guarded protocol id before)
    (steady : Steady guarded before after) :
    Aborting kept guarded protocol id after :=
  ⟨aborting.selected.steady steady,
    (steady.objects id).aborting aborting.aborting⟩

/-- Closing the session takes it out of the table. -/
theorem Aborting.closeSession {engine : Engine}
    (aborting : Aborting kept guarded protocol id engine) :
    Aborting kept guarded protocol id
      (engine.closeSession (engine.getSessionKey id)) := by
  rcases Engine.closeSession_held aborting.selected.held with
    same | ⟨inTable, removed⟩
  · rw [same]
    exact aborting
  · rw [removed]
    have closing :
        Steady guarded engine
          (engine.updateObject id SessionObject.closeChannel) :=
      Steady.update (ObjectStep.closeChannel _)
    obtain ⟨closed, still⟩ := aborting.steady closing
    have stillThere := (Engine.inTable_steady closing).mpr inTable
    have cancelled :
        ((engine.updateObject id SessionObject.closeChannel).sessions
          id).session.selectionkey.isValid = false := by
      rw [Engine.updateObject_self]
      rfl
    exact
      ⟨⟨closed.placed.removeEntry stillThere cancelled,
          fun holds => (closed.gone holds).removeEntry still,
          closed.standing.removeEntry stillThere closed.registered,
          closed.stored, closed.held.removeEntry, closed.registered,
          closed.sound, closed.running, closed.protocol_eq⟩,
        still⟩

/-- A steady program leaves an aborting session aborting. -/
private theorem runs_aborting {Value : Type} {program : Running Value}
    (runs : Runs kept guarded protocol id program)
    (respected : Respects (Steady guarded) program) :
    Keeps (Aborting kept guarded protocol id)
      (fun failure => guarded → failure = .io) program :=
  fun engine aborting =>
    ⟨aborting.steady (respected engine), (runs engine aborting.selected).2⟩

private theorem runs_closeIfConnected :
    Runs kept guarded protocol id (closeIfConnected id) := by
  apply runs_object
  intro engine _
  apply Keeps.ite
  · apply runs_modify
    intro later
    exact Steady.update (ObjectStep.closeChannel _)
  · exact keeps_pure _

private theorem keeps_closeSessionOf :
    Keeps (Aborting kept guarded protocol id)
      (fun failure => guarded → failure = .io) (closeSessionOf id) := by
  intro engine aborting
  refine ⟨aborting.closeSession, ?_⟩
  intro failure thrown
  cases thrown

private theorem runs_removeAborted :
    Runs kept guarded protocol id (removeAborted id) := by
  apply runs_session_at
  intro engine selected
  by_cases aborting :
      (engine.sessions id).session.abortingConnection = true
  · rw [if_pos aborting]
    have tail :
        Keeps (Aborting kept guarded protocol id)
          (fun failure => guarded → failure = .io)
          (do
            cancelKey id
            closeIfConnected id
            closeSessionOf id) := by
      apply (runs_aborting runs_cancelKey respects_cancelKey).bind
      intro _
      apply (runs_aborting runs_closeIfConnected
        respects_closeIfConnected).bind
      intro _
      exact keeps_closeSessionOf
    obtain ⟨removed, harmless⟩ := tail engine ⟨selected, aborting⟩
    exact ⟨removed.selected, harmless⟩
  · rw [if_neg aborting]
    exact keeps_pure _ engine selected

private theorem runs_read (outcomes : List ReadOutcome) :
    Runs kept guarded protocol id (read outcomes id) := by
  apply (runs_readChannel outcomes).bind
  intro bytesRead
  apply runs_resubscribe.bind
  intro _
  apply runs_removeAborted.bind
  intro _
  exact keeps_pure _

/-! ## `SocketChannelWriter` -/

private theorem runs_allWritten : Runs kept guarded protocol id
    (allWritten id) := by
  apply Keeps.bind
  · apply runs_updateSession
    intro session
    exact .plain rfl rfl rfl rfl rfl rfl rfl rfl
  · intro _
    exact runs_unsubscribeKey .write

private theorem runs_settleBuffer (buffer : ByteBuffer) :
    Runs kept guarded protocol id (settleBuffer buffer id) := by
  apply Keeps.ite
  · apply Keeps.bind
    · exact runs_updateSession (SessionStep.setSendingData _)
    · intro _
      exact runs_subscribeKey .write
  · exact runs_allWritten

private theorem runs_writePendingData (outcomes : List WriteOutcome)
    (channel : SocketChannel) :
    Runs kept guarded protocol id (writePendingData outcomes channel id) := by
  apply runs_session
  intro engine _
  apply Keeps.ite
  · apply Keeps.bind
    · apply runs_updateSession
      intro session
      exact .plain rfl rfl rfl rfl rfl rfl rfl rfl
    · intro _
      apply Keeps.bind
      · exact runs_modify (respects_writeSocket _ _)
      · intro _
        split
        · exact keeps_pure _
        · apply (runs_settleBuffer _).bind
          intro _
          exact keeps_pure _
  · exact keeps_pure _

private theorem runs_writeFailed : Runs kept guarded .tcp id
    (writeFailed id) := by
  apply runs_session
  intro engine selected
  split
  · next ipHeader tcpheader lastIp lastTcp =>
    apply Keeps.bind
    · apply runs_sendPacket
      intro holds packetId
      obtain ⟨ip, tcp⟩ := selected.complete lastIp lastTcp holds
      exact TCPPacketFactory.createRstData_built ip tcp 0 packetId
    · intro _
      exact runs_setAbortingConnection
  · next unknown =>
    apply keeps_throw
    intro holds
    obtain ⟨ipHeader, tcpheader, lastIp, lastTcp⟩ := selected.known holds
    exact (unknown ipHeader tcpheader lastIp lastTcp).elim

private theorem runs_writeTCP (outcomes : List WriteOutcome)
    (channel : SocketChannel) :
    Runs kept guarded .tcp id (writeTCP outcomes channel id) := by
  apply (runs_writePendingData outcomes channel).bind
  intro result
  split
  · exact keeps_pure _
  · exact keeps_pure _
  · apply runs_writeFailed.bind
    intro _
    exact keeps_pure _

private theorem runs_writeDatagram (outcomes : List WriteOutcome)
    (datagram : List UInt8) :
    Runs kept guarded protocol id (writeDatagram outcomes datagram id) := by
  unfold writeDatagram
  split
  · exact keeps_pure _
  · apply Keeps.bind
    · exact runs_updateDatagram fun _ => rfl
    · intro _
      exact keeps_pure _
  · exact keeps_pure _
  · exact keeps_pure _

private theorem runs_writePendingUDPData (outcomes : List WriteOutcome) :
    Runs kept guarded protocol id (writePendingUDPData outcomes id) := by
  apply runs_session
  intro engine _
  split
  · apply runs_allWritten.bind
    intro _
    exact keeps_pure _
  · apply Keeps.bind
    · apply runs_updateSession
      intro session
      exact .plain rfl rfl rfl rfl rfl rfl rfl rfl
    · intro _
      apply (runs_writeDatagram _ _).bind
      intro result
      split
      · exact keeps_pure _
      · apply Keeps.bind
        · apply runs_updateSession
          intro session
          exact .plain rfl rfl rfl rfl rfl rfl rfl rfl
        · intro _
          apply (runs_subscribeKey .write).bind
          intro _
          exact keeps_pure _
      · apply Keeps.ite
        · apply runs_allWritten.bind
          intro _
          exact keeps_pure _
        · apply (runs_subscribeKey .write).bind
          intro _
          exact keeps_pure _

private theorem runs_writeUDP (outcomes : List WriteOutcome) :
    Runs kept guarded protocol id (writeUDP outcomes id) := by
  apply (runs_writePendingUDPData outcomes).bind
  intro result
  split
  · exact keeps_pure _
  · apply runs_setAbortingConnection.bind
    intro _
    exact keeps_pure _

private theorem runs_writeUpstream (outcomes : List WriteOutcome) :
    Runs kept guarded protocol id (writeUpstream outcomes id) := by
  apply Keeps.bind
  · apply runs_object
    intro engine selected
    split
    · next channel socket =>
      rw [selected.protocol_tcp socket]
      exact runs_writeTCP outcomes channel
    · exact runs_writeUDP outcomes
  · intro bytesWritten
    apply runs_removeAborted.bind
    intro _
    exact keeps_pure _

/-! ## `SocketNIODataService` -/

private theorem runs_processSelectorRead (ready : Readiness) :
    Runs kept guarded protocol id (processSelectorRead ready id) := by
  apply runs_session
  intro engine _
  apply Keeps.ite
  · apply (runs_read ready.reads).bind
    intro bytesRead
    apply runs_updateSession
    intro session
    exact .plain rfl rfl rfl rfl rfl rfl rfl rfl
  · exact keeps_pure _

private theorem runs_processPendingWrite (ready : Readiness) :
    Runs kept guarded protocol id (processPendingWrite ready id) := by
  apply runs_session
  intro engine _
  apply Keeps.ite
  · exact runs_unsubscribeKey .write
  · apply Keeps.ite
    · apply (runs_unsubscribeKey .write).bind
      intro _
      apply (runs_writeUpstream ready.writes).bind
      intro bytesWritten
      apply runs_updateSession
      intro session
      exact .plain rfl rfl rfl rfl rfl rfl rfl rfl
    · exact keeps_pure _

private theorem runs_processConnectedSelection (ready : Readiness) :
    Runs kept guarded protocol id
      (processConnectedSelection ready id) := by
  apply (runs_unsubscribeKey .connect).bind
  intro _
  apply (runs_subscribeKey .read).bind
  intro _
  apply (runs_processSelectorRead ready).bind
  intro _
  exact runs_processPendingWrite ready

/-- A valid key is of an open channel, which is connected or about to be. -/
private theorem Selected_attached {engine : Engine}
    (selected : Selected kept guarded protocol id engine)
    (valid : (engine.sessions id).session.selectionkey.isValid = true)
    {channel : SocketChannel}
    (socket : (engine.sessions id).channel = .socket channel) :
    (engine.sessions id).session.isConnected = true ∨
      channel.isConnectionPending = true := by
  have isOpen := (selected.placed.wired id).isOpen valid
  rw [socket] at isOpen
  exact
    selected.placed.attached id (.inr selected.registered) channel socket
      isOpen

private theorem keepsAt_finishConnecting {engine : Engine}
    (selected : Selected kept guarded protocol id engine)
    {channel : SocketChannel}
    (socket : (engine.sessions id).channel = .socket channel)
    (pending : channel.isConnectionPending = true) (ready : Readiness) :
    KeepsAt (Selected kept guarded protocol id)
      (fun failure => guarded → failure = .io)
      (finishConnecting ready channel id) engine := by
  rw [finishConnecting]
  rw [if_pos pending]
  cases ready.connected with
  | none =>
      have closing :
          Runs kept guarded protocol id
            (do
              modify (Engine.updateObject id SessionObject.closeChannel)
              throw .io : Running Unit) := by
        apply Keeps.bind
        · apply runs_modify
          intro later
          exact Steady.update (ObjectStep.closeChannel _)
        · intro _
          exact keeps_throw fun _ => rfl
      exact closing engine selected
  | some connected =>
      apply keepsAt_modify
      apply selected.steady
      exact Steady.update (connectAnswered_step socket pending connected)

private theorem keepsAt_processConnectable {engine : Engine}
    (selected : Selected kept guarded protocol id engine)
    (valid : (engine.sessions id).session.selectionkey.isValid = true)
    (ready : Readiness) :
    KeepsAt (Selected kept guarded protocol id)
      (fun failure => guarded → failure = .io)
      (processConnectable ready id) engine := by
  rw [processConnectable]
  apply keepsAt_readObject
  split
  · next channel socket =>
    split
    · next connectable =>
      have unconnected :
          (engine.sessions id).session.isConnected = false := by
        rw [Bool.and_eq_true, Bool.not_eq_true'] at connectable
        exact connectable.1
      have pending : channel.isConnectionPending = true := by
        rcases Selected_attached selected valid socket with
          connected | pending
        · rw [unconnected] at connected
          cases connected
        · exact pending
      exact keepsAt_finishConnecting selected socket pending ready
    · exact keeps_pure _ engine selected
  · exact keeps_pure _ engine selected

private theorem runs_processSelectionKey (ready : Readiness) :
    Runs kept guarded protocol id (processSelectionKey ready id) := by
  apply runs_session_at
  intro engine selected
  split
  · next valid =>
    apply (keepsAt_processConnectable selected valid ready).bind
    intro _
    apply runs_object
    intro later _
    apply Keeps.ite
    · exact runs_processConnectedSelection ready
    · exact keeps_pure _
  · exact keeps_pure _ engine selected

end NioThread

/-! ## A step of the thread -/

/-- The engine between two steps. -/
structure Ordered (kept guarded : Prop) (engine : Engine) : Prop where
  placed : engine.Placed
  gone : kept → engine.Gone
  standing : engine.Standing engine.packetThread
  stored : engine.packetThread.Stored
  sound : guarded → ∀ id, (engine.sessions id).Sound
  running : guarded → engine.nioThread = .running

variable {kept guarded : Prop} {id : Nat} {engine : Engine}

/-- An exception that is not caught ends the thread. -/
private theorem Selected.died {protocol : SessionProtocol}
    (selected : Selected kept guarded protocol id engine)
    {exception : ThreadException} (harmless : ¬ guarded) :
    Ordered kept guarded
      (engine.withThreads engine.packetThread (.dead exception)) where
  placed := selected.placed.withThreads _ _
  gone := selected.gone
  standing := selected.standing.withThreads _ _
  stored := selected.stored
  sound := selected.sound
  running holds := (harmless holds).elim

namespace NioThread

open SocketNIODataService

/-- A key that is not valid is skipped. -/
private theorem runSelectedKey_invalid
    (invalid :
      ¬ (engine.sessions id).session.selectionkey.isValid = true)
    (ready : Readiness) : runSelectedKey ready id engine = engine := by
  have skipped :
      (processSelectionKey ready id).outcome engine =
        (if (engine.sessions id).session.selectionkey.isValid then do
          processConnectable ready id
          let object ← readObject id
          if object.channel.isConnected then
            processConnectedSelection ready id
          else
            return
        else
          return : Running Unit).outcome engine :=
    rfl
  rw [if_neg invalid] at skipped
  rw [runSelectedKey]
  rw [skipped]
  rfl

theorem ordered_runSelectedKey (ordered : Ordered kept guarded engine)
    (running : engine.nioThread = .running)
    (registered : (engine.sessions id).isRegistered = true)
    (ready : Readiness) :
    Ordered kept guarded (runSelectedKey ready id engine) := by
  by_cases valid :
      (engine.sessions id).session.selectionkey.isValid = true
  · have selected :
        Selected kept guarded (engine.sessions id).session.protocol id
          engine :=
      ⟨ordered.placed, ordered.gone, ordered.standing, ordered.stored,
        ordered.placed.held (ordered.placed.isValid id valid), registered,
        ordered.sound, running, rfl⟩
    obtain ⟨after, harmless⟩ :=
      runs_processSelectionKey ready engine selected
    rw [final] at after
    rw [runSelectedKey]
    rcases ended : (processSelectionKey ready id).outcome engine with
      ⟨failure | value, later⟩
    · rw [ended] at after harmless
      have calm := harmless failure rfl
      cases failure with
      | io =>
          have cancelled :=
            after.steady
              (Steady.update
                (ObjectStep.ofSession
                  (SessionStep.cancelKey (later.sessions id).session)))
          exact
            ⟨cancelled.placed, cancelled.gone, cancelled.standing,
              cancelled.stored, cancelled.sound, fun _ => cancelled.running⟩
      | nullPointer =>
          apply after.died
          intro holds
          cases calm holds
      | java exception =>
          apply after.died
          intro holds
          cases calm holds
    · rw [ended] at after
      exact
        ⟨after.placed, after.gone, after.standing, after.stored,
          after.sound, fun _ => after.running⟩
  · rw [runSelectedKey_invalid valid]
    exact ordered

end NioThread

end LanShield.Vpn
