import LanShield.Vpn.PacketPrograms

/-!
# Building packets from stored headers

The headers of a client packet are kept in its session, and the NIO thread
builds its packets to the client from them.  The parsers accept a header
whose length field has no room for the header's own fields, and a builder
that meets one throws; `runTask` catches only `IOException`.
-/

namespace LanShield.Vpn

open LanShield.Library LanShield.Java LanShield.Transport Program

/-- Every packet the NIO thread may make from the last headers of a session
is built. -/
structure SessionObject.Buildable (object : SessionObject) : Prop where
  response :
    ∀ ipHeader tcpheader,
      object.session.lastIpHeader = some ipHeader →
        object.session.lastTcpHeader = some tcpheader →
          ∀ (packetBody : List UInt8) (isPsh : Bool)
            (ack unacked sender replyto packetId : Int),
            packetBody.length ≤
                (SocketChannelReader.maxSegment object.session).toNat →
              ∃ data,
                (TCPPacketFactory.createResponsePacketData ipHeader
                  tcpheader packetBody isPsh ack unacked sender
                  replyto).getBuffer packetId = .ok data
  fin :
    ∀ ipHeader tcpheader,
      object.session.lastIpHeader = some ipHeader →
        object.session.lastTcpHeader = some tcpheader →
          ∀ packetId,
            ∃ data,
              (NioThread.finPacket ipHeader tcpheader
                object.session).getBuffer packetId = .ok data
  reset :
    ∀ ipHeader tcpheader,
      object.session.lastIpHeader = some ipHeader →
        object.session.lastTcpHeader = some tcpheader →
          ∀ packetId,
            ∃ data,
              (TCPPacketFactory.createRstData ipHeader tcpheader
                0).getBuffer packetId = .ok data
  reply :
    ∀ ipHeader udpheader,
      object.session.lastIpHeader = some ipHeader →
        object.session.lastUdpHeader = some udpheader →
          ∀ (packetData : List UInt8) (packetId : Int),
            ∃ data,
              (UDPPacketFactory.createResponsePacket packetId packetData
                { ip := ipHeader
                  udp := udpheader
                  ipHeader := ipHeader }).map Prod.fst = .ok data

private theorem SessionObject.Sound.buildable {object : SessionObject}
    (sound : object.Sound) : object.Buildable where
  response ipHeader tcpheader lastIp lastTcp packetBody isPsh ack unacked
      sender replyto packetId short := by
    apply TCPPacketFactory.createResponsePacketData_built
    · exact sound.headers.ip _ lastIp
    · exact sound.headers.tcp _ lastTcp
    · have small := NioThread.maxSegment_small sound.small
      omega
  fin ipHeader tcpheader lastIp lastTcp :=
    NioThread.finPacket_built (sound.headers.ip _ lastIp)
      (sound.headers.tcp _ lastTcp) object.session
  reset ipHeader tcpheader lastIp lastTcp :=
    TCPPacketFactory.createRstData_built (sound.headers.ip _ lastIp)
      (sound.headers.tcp _ lastTcp) 0
  reply ipHeader udpheader lastIp _ packetData packetId :=
    UDPPacketFactory.createResponsePacket_built
      (sound.headers.ip _ lastIp) packetData packetId

/-- The headers of a packet that reaches a session have room for their own
fields. -/
def HeadersHaveRoom (engine : Engine) : EngineEvent → Prop
  | .proceed _ =>
      match engine.packetThread with
      | .enterUdp datagram _ _ => datagram.ipHeader.HasRoom
      | .enterTcp segment _ =>
          segment.ipHeader.HasRoom ∧ segment.tcpheader.HasRoom
      | _ => True
  | .handlePacket .. | .select .. => True

instance (engine : Engine) : DecidablePred (HeadersHaveRoom engine)
  | .proceed _ =>
      match thread : engine.packetThread with
      | .enterUdp datagram _ _ =>
          decidable_of_iff datagram.ipHeader.HasRoom
            (by simp only [HeadersHaveRoom, thread])
      | .enterTcp segment _ =>
          decidable_of_iff
            (segment.ipHeader.HasRoom ∧ segment.tcpheader.HasRoom)
            (by simp only [HeadersHaveRoom, thread])
      | .idle | .createUdp _ | .keepUdp _ | .createTcp .. | .resendAck _
      | .populate .. | .keepFin _ | .abort _ =>
          isTrue (by simp only [HeadersHaveRoom, thread])
  | .handlePacket .. => inferInstanceAs (Decidable True)
  | .select .. => inferInstanceAs (Decidable True)

theorem HeadersHaveRoom.ready {engine : Engine} {event : EngineEvent}
    (room : HeadersHaveRoom engine event) :
    engine.EventReady False True event := by
  cases event with
  | handlePacket stream answers => trivial
  | select ready id => trivial
  | proceed answers =>
      rw [HeadersHaveRoom] at room
      unfold Engine.EventReady Engine.Ready
      cases thread : engine.packetThread with
      | enterUdp datagram newSession id =>
          rw [thread] at room
          exact fun _ => room
      | enterTcp segment id =>
          rw [thread] at room
          exact fun _ => room
      | keepUdp id => exact False.elim
      | keepFin id => exact False.elim
      | idle => trivial
      | createUdp datagram => trivial
      | createTcp syn packet data => trivial
      | resendAck id => trivial
      | populate syn packet data id => trivial
      | abort id => trivial

/-- In every state of a run in which only headers with room reach a session,
whatever else the client's buffers hold, the NIO thread runs and can build
every packet it may have to send. -/
theorem nioThread_runs (packetIds : Nat → Int)
    (events visited : List EngineEvent)
    (room :
      StepsMeet engineStep HeadersHaveRoom (Engine.start packetIds) events)
    (isPrefix : visited <+: events) :
    (run engineStep (Engine.start packetIds) visited).nioThread =
        .running ∧
      ∀ id,
        ((run engineStep (Engine.start packetIds) visited).sessions
          id).Buildable := by
  have meets := room.of_isPrefix isPrefix
  have ordered :
      Ordered False True
        (run engineStep (Engine.start packetIds) visited) :=
    ordered_run (meets.imp fun _ _ => HeadersHaveRoom.ready)
  exact
    ⟨ordered.running trivial,
      fun id => (ordered.sound trivial id).buildable⟩

/-- A SYN from port 1024 of 10.0.0.1 to port 80 of 10.0.0.2. -/
def sampleSyn : ByteBuffer :=
  ByteBuffer.wrap
    [0x45, 0, 0, 40, 0, 1, 0, 0, 64, 6, 0, 0, 10, 0, 0, 1, 10, 0, 0, 2,
      4, 0, 0, 80, 0, 0, 0, 1, 0, 0, 0, 0, 0x50, 0x02, 255, 255, 0, 0,
      0, 0]

/-- The ACK behind it, with a data offset of `words` words. -/
def sampleAck (words : UInt8) : ByteBuffer :=
  ByteBuffer.wrap
    [0x45, 0, 0, 40, 0, 1, 0, 0, 64, 6, 0, 0, 10, 0, 0, 1, 10, 0, 0, 2,
      4, 0, 0, 80, 0, 0, 0, 2, 0, 0, 0, 2, words * 16, 0x10, 255, 255,
      0, 0, 0, 0]

/-- One byte comes from upstream. -/
def byteRead : SocketNIODataService.Readiness where
  isConnectable := false
  isReadable := true
  isWritable := false
  connected := none
  reads := [.data ⟨[65], by decide, by decide⟩]
  writes := []

/-- A SYN and its ACK are handled, then a byte is read. -/
def segmentRun (words : UInt8) : List EngineEvent :=
  [.handlePacket sampleSyn quickAnswers, .proceed quickAnswers,
    .proceed quickAnswers, .handlePacket (sampleAck words) quickAnswers,
    .proceed quickAnswers, .select byteRead 0]

theorem small_dataOffset_kills_nioThread :
    (run engineStep (Engine.start fun _ => 0) (segmentRun 4)).nioThread =
      .dead (.java .indexOutOfBounds) := by
  decide +kernel

theorem nioThread_runs_on_segmentRun :
    (run engineStep (Engine.start fun _ => 0) (segmentRun 5)).nioThread =
        .running ∧
      ∀ id,
        ((run engineStep (Engine.start fun _ => 0)
          (segmentRun 5)).sessions id).Buildable :=
  nioThread_runs (fun _ => 0) (segmentRun 5) (segmentRun 5)
    (by decide +kernel) (List.prefix_refl _)

end LanShield.Vpn
