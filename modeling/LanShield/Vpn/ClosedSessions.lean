import LanShield.Vpn.PacketPrograms

/-!
# What becomes of a closed session

The packet thread looks a session up, works on it in its monitor and then
puts it back into the table.  After a datagram, and after a FIN without ACK,
it does so without asking whether the NIO thread has closed the session in
the meantime.
-/

namespace LanShield.Vpn

open LanShield.Library LanShield.Java LanShield.Transport Program

/-- No closed session is in the table, and none is what a datagram or a SYN
gets from `createNewUDPSession` or `createNewTCPSession`. -/
structure ClosedForGood (engine : Engine) : Prop where
  absent : ∀ id ∈ engine.closed, ∀ key, engine.table key ≠ some id
  freshUdp :
    ∀ (datagram : UdpDatagram) (length : Int) (answers : Answers),
      Ends (fun id after => id ∉ after.closed) (fun _ => True)
        (createNewUDPSession datagram.sessionKey length answers) engine
  freshTcp :
    ∀ (syn : TcpSegment) (length : Int) (answers : Answers),
      Ends (fun id after => id ∉ after.closed) (fun _ => True)
        (createNewTCPSession syn.sessionKey length answers) engine

/-- The packet thread puts a session back outside the monitor only while
the table still has it. -/
def PutBackInTable (engine : Engine) : EngineEvent → Prop
  | .proceed _ =>
      match engine.packetThread with
      | .keepUdp id | .keepFin id =>
          engine.table (engine.getSessionKey id) = some id
      | _ => True
  | .handlePacket .. | .select .. => True

instance (engine : Engine) : DecidablePred (PutBackInTable engine)
  | .proceed _ => by
      rw [PutBackInTable]
      cases engine.packetThread <;> infer_instance
  | .handlePacket .. => inferInstanceAs (Decidable True)
  | .select .. => inferInstanceAs (Decidable True)

theorem PutBackInTable.ready {engine : Engine} {event : EngineEvent}
    (putBack : PutBackInTable engine event) :
    engine.EventReady True False event := by
  cases event with
  | handlePacket stream answers => trivial
  | select ready id => trivial
  | proceed answers =>
      rw [PutBackInTable] at putBack
      unfold Engine.EventReady Engine.Ready
      cases thread : engine.packetThread with
      | keepUdp id =>
          rw [thread] at putBack
          exact fun _ => putBack
      | keepFin id =>
          rw [thread] at putBack
          exact fun _ => putBack
      | enterUdp datagram newSession id => exact False.elim
      | enterTcp segment id => exact False.elim
      | idle => trivial
      | createUdp datagram => trivial
      | createTcp syn packet data => trivial
      | resendAck id => trivial
      | populate syn packet data id => trivial
      | abort id => trivial

private theorem Ordered.closedForGood {engine : Engine}
    (ordered : Ordered True False engine) : ClosedForGood engine where
  absent id member key found := by
    apply (ordered.gone trivial id member).2
    rw [Engine.InTable]
    rw [(ordered.placed.placed key id found).1]
    exact found
  freshUdp datagram length answers := by
    have isFresh : False → engine.table datagram.sessionKey = none :=
      False.elim
    apply (ends_createNewUDPSession ordered.working rfl isFresh length
      answers).imp
    · intro id after created
      exact created.working.live trivial created.inTable
    · exact fun _ _ => trivial
  freshTcp syn length answers := by
    have isFresh : False → engine.table syn.sessionKey = none :=
      False.elim
    apply (ends_createNewTCPSession ordered.working rfl isFresh length
      answers).imp
    · intro id after created
      exact created.working.live trivial created.inTable
    · exact fun _ _ => trivial

/-- In every state of a run in which no session is put back after it has
left the table, the closed sessions are closed for good. -/
theorem closed_sessions_stay_closed (packetIds : Nat → Int)
    (events visited : List EngineEvent)
    (putBack :
      StepsMeet engineStep PutBackInTable (Engine.start packetIds) events)
    (isPrefix : visited <+: events) :
    ClosedForGood (run engineStep (Engine.start packetIds) visited) := by
  have meets := putBack.of_isPrefix isPrefix
  apply Ordered.closedForGood
  apply ordered_run
  exact meets.imp fun _ _ => PutBackInTable.ready

/-- A datagram of one byte from port 1024 of 10.0.0.1 to port 53 of
10.0.0.2. -/
def sampleDatagram : ByteBuffer :=
  ByteBuffer.wrap
    [0x45, 0, 0, 29, 0, 1, 0, 0, 64, 17, 0, 0, 10, 0, 0, 1, 10, 0, 0, 2,
      4, 0, 0, 53, 0, 9, 0, 0, 65]

/-- A read that fails. -/
def failedRead : SocketNIODataService.Readiness where
  isConnectable := false
  isReadable := true
  isWritable := false
  connected := none
  reads := [.failure .other]
  writes := []

/-- The session of the first datagram is closed by a failed read before the
second one enters its monitor. -/
def datagramRun : List EngineEvent :=
  [.handlePacket sampleDatagram quickAnswers, .proceed quickAnswers,
    .proceed quickAnswers, .proceed quickAnswers,
    .handlePacket sampleDatagram quickAnswers, .select failedRead 0,
    .proceed quickAnswers, .proceed quickAnswers]

/-- The key of the datagram's session. -/
def sampleKey : SessionKey where
  protocol := .udp
  destIp := ⟨[10, 0, 0, 2]⟩
  destPort := 53
  sourceIp := ⟨[10, 0, 0, 1]⟩
  sourcePort := 1024

theorem closed_session_put_back :
    let reached := run engineStep (Engine.start fun _ => 0) datagramRun
    reached.closed = [0] ∧ reached.table sampleKey = some 0 ∧
      ¬ ClosedForGood reached := by
  have member :
      (run engineStep (Engine.start fun _ => 0) datagramRun).closed =
        [0] := by
    decide +kernel
  have found :
      (run engineStep (Engine.start fun _ => 0) datagramRun).table
          sampleKey =
        some 0 := by
    decide +kernel
  refine ⟨member, found, ?_⟩
  intro forGood
  apply forGood.absent 0 ?_ sampleKey found
  rw [member]
  exact List.mem_singleton_self 0

/-- When the second datagram comes after the failed read, a new session is
opened for it. -/
theorem closed_session_replaced :
    let events :=
      [.handlePacket sampleDatagram quickAnswers, .proceed quickAnswers,
        .proceed quickAnswers, .proceed quickAnswers,
        .select failedRead 0, .handlePacket sampleDatagram quickAnswers,
        .proceed quickAnswers, .proceed quickAnswers,
        .proceed quickAnswers]
    let reached := run engineStep (Engine.start fun _ => 0) events
    reached.closed = [0] ∧ reached.table sampleKey = some 1 ∧
      ClosedForGood reached := by
  intro events reached
  refine ⟨by decide +kernel, by decide +kernel, ?_⟩
  exact
    closed_sessions_stay_closed (fun _ => 0) events events
      (by decide +kernel) (List.prefix_refl _)

end LanShield.Vpn
