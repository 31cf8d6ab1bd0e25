import LanShield.Vpn.ConnectionReuse

/-!
# The acknowledgment of a client's FIN

`handleTCPPacket` takes the data of a segment first and its flags then, in
one chain of alternatives: PSH hides a FIN behind it, and `ackFinAck`
acknowledges the byte behind the segment's sequence number, not behind its
data.  Where a header has no room for its own fields the first packet that is
built from it throws, and the FIN goes without an answer.
-/

namespace LanShield.Vpn

open LanShield.Library LanShield.Java LanShield.Transport

namespace SessionHandler

/-- The segment is what the parsers make of the packet. -/
structure ParsedFrom (packet stream : ByteBuffer)
    (segment : ClientSegment) : Prop where
  ip : createIPHeader packet = .ok (segment.ipHeader, stream)
  tcp :
    TCPPacketFactory.createTCPHeader stream =
      .ok (segment.tcpheader, segment.data)

/-- Both headers have room for their own fields. -/
def HeadersHaveRoom (segment : ClientSegment) : Prop :=
  segment.ipHeader.HasRoom ∧ segment.tcpheader.HasRoom

instance : DecidablePred HeadersHaveRoom :=
  fun _ => inferInstanceAs (Decidable (_ ∧ _))

/-- The last packet for the client is built and not dropped, and acknowledges
this position. -/
def AcknowledgesLast (connection : TcpConnection) (position : Int) : Prop :=
  ∃ entry ∈ connection.written.getLast?,
    entry.Serialised ∧ entry.packet.transportHeader.isACK = true ∧
      unsigned32 entry.packet.transportHeader.ackNumber =
        unsigned32 position

/-- The data and the FIN are acknowledged, and the session is gone. -/
structure FinAcknowledged (segment : ClientSegment)
    (after : TcpConnection) : Prop where
  acknowledged :
    AcknowledgesLast after
      (segment.tcpheader.sequenceNumber + segment.dataLength + 1)
  removed : after.tracked = false

section Fin

variable {connection : TcpConnection} {segment : ClientSegment}

/-- With FIN no branch on the data closes the session. -/
private theorem tracked_handleBody_fin (fin : segment.tcpheader.isFIN = true)
    (currentTime : Int) :
    (handleBody segment currentTime connection).tracked =
      connection.tracked := by
  rw [handleBody]
  split
  · rw [handleData]
    split
    · exact tracked_addClientData _ _ _
    · rfl
  · rw [handleAck, fin, Bool.not_true, Bool.and_false]
    split
    · rfl
    · rfl

private theorem tracked_fin_iff (reaches : Reaches connection segment)
    (fin : segment.tcpheader.isFIN = true) (currentTime : Int) :
    (handleTCPPacket segment currentTime connection).tracked = false ↔
      segment.tcpheader.isPSH = false := by
  have tracked :
      (handleBody segment currentTime connection).tracked = true :=
    (tracked_handleBody_fin fin currentTime).trans reaches.1
  rw [handleTCPPacket_reaches reaches, handleSessionSegment,
    tracked_handleFlags currentTime tracked]
  exact and_iff_left fin

/-- The packet `ackFinAck` writes is built and not dropped exactly when the
headers have room. -/
private theorem serialised_finAck_iff {packet stream : ByteBuffer}
    (parsed : ParsedFrom packet stream segment) (currentTime : Int)
    (session : Session) :
    WrittenPacket.Serialised
        ⟨.ackFinAck,
          TCPPacketFactory.createFinAckData segment.ipHeader
            segment.tcpheader (segment.tcpheader.sequenceNumber + 1)
            segment.tcpheader.ackNumber true true currentTime,
          session⟩ ↔
      HeadersHaveRoom segment := by
  constructor
  · intro serialised
    obtain ⟨data, built, -⟩ := serialised 0
    obtain ⟨ipRoom, tcpRoom⟩ :=
      TCPPacketFactory.hasRoom_of_createPacketData built
    refine ⟨?_, tcpRoom⟩
    cases header_eq : segment.ipHeader with
    | v4 header =>
        rw [header_eq] at ipRoom
        exact ipRoom
    | v6 header => trivial
  · rintro ⟨ipRoom, tcpRoom⟩
    have complete :=
      ClientSegment.complete_of_parsed parsed.ip parsed.tcp ipRoom tcpRoom
    apply WrittenPacket.serialised_of_complete
    · exact
        TCPPacketFactory.setPayloadLength_complete
          (TCPPacketFactory.flipIP_complete complete.ip) _
    · exact ⟨complete.tcp.long, complete.tcp.short, rfl⟩
    · rfl

/-- Without PSH the last packet is the one `ackFinAck` writes. -/
private theorem acknowledgesLast_fin_iff {packet stream : ByteBuffer}
    (parsed : ParsedFrom packet stream segment)
    (reaches : Reaches connection segment)
    (fin : segment.tcpheader.isFIN = true)
    (psh : segment.tcpheader.isPSH = false) (currentTime position : Int) :
    AcknowledgesLast (handleTCPPacket segment currentTime connection)
        position ↔
      HeadersHaveRoom segment ∧
        unsigned32 (segment.tcpheader.sequenceNumber + 1) =
          unsigned32 position := by
  rw [handleTCPPacket_reaches reaches, handleSessionSegment]
  generalize handleBody segment currentTime connection = body
  have finished :
      finishSegment (handleFlags segment currentTime body) =
        ackFinAck segment currentTime body := by
    rw [handleFlags, psh, fin]
    rfl
  have written :
      (ackFinAck segment currentTime body).written =
        (writeFinAck segment currentTime body).written :=
    TcpConnection.written_closeSession _
  rw [finished, AcknowledgesLast, written, writeFinAck,
    TcpConnection.write, List.getLast?_concat]
  have serialised :=
    serialised_finAck_iff parsed currentTime body.session
  constructor
  · rintro ⟨entry, last, built, -, acknowledges⟩
    cases last
    exact ⟨serialised.mp built, acknowledges⟩
  · rintro ⟨room, acknowledges⟩
    exact ⟨_, rfl, serialised.mpr room, rfl, acknowledges⟩

/-- A segment with SYN is taken for the start of a connection. -/
private theorem tracked_syn (tracked : connection.tracked = true)
    (syn : segment.tcpheader.isSYN = true) (currentTime : Int) :
    (handleTCPPacket segment currentTime connection).tracked = true := by
  rw [handleTCPPacket, if_pos syn, if_pos tracked, resendAck]
  split
  · exact tracked
  · exact tracked

/-- A FIN of a session in the table is acknowledged in full exactly when it
comes without SYN, without PSH and without data, in headers with room for
their own fields. -/
theorem fin_acknowledged_iff {packet stream : ByteBuffer}
    (parsed : ParsedFrom packet stream segment)
    (tracked : connection.tracked = true)
    (ack : segment.tcpheader.isACK = true)
    (fin : segment.tcpheader.isFIN = true) (currentTime : Int) :
    FinAcknowledged segment
        (handleTCPPacket segment currentTime connection) ↔
      segment.tcpheader.isSYN = false ∧ segment.tcpheader.isPSH = false ∧
        segment.dataLength % 2 ^ 32 = 0 ∧ HeadersHaveRoom segment := by
  by_cases syn : segment.tcpheader.isSYN = true
  · rw [syn]
    constructor
    · intro acknowledged
      have removed := acknowledged.removed
      rw [tracked_syn tracked syn] at removed
      cases removed
    · rintro ⟨impossible, -⟩
      cases impossible
  · have notSyn := Bool.eq_false_iff.mpr syn
    have reaches : Reaches connection segment := ⟨tracked, notSyn, ack⟩
    have residue :
        unsigned32 (segment.tcpheader.sequenceNumber + 1) =
            unsigned32
              (segment.tcpheader.sequenceNumber + segment.dataLength +
                1) ↔
          segment.dataLength % 2 ^ 32 = 0 := by
      rw [unsigned32, unsigned32]
      omega
    constructor
    · rintro ⟨acknowledged, removed⟩
      have psh := (tracked_fin_iff reaches fin currentTime).mp removed
      rw [acknowledgesLast_fin_iff parsed reaches fin psh, residue]
        at acknowledged
      exact ⟨notSyn, psh, acknowledged.2, acknowledged.1⟩
    · rintro ⟨-, psh, empty, room⟩
      refine ⟨?_, (tracked_fin_iff reaches fin currentTime).mpr psh⟩
      rw [acknowledgesLast_fin_iff parsed reaches fin psh, residue]
      exact ⟨room, empty⟩

end Fin

/-- The last packet of a client, in order behind its SYN. -/
def lastPacket (payload : List UInt8) : ByteBuffer :=
  ByteBuffer.wrap
    ([0x45, 0, 0, UInt8.ofNat (40 + payload.length), 0, 0, 0, 0, 64, 6, 0, 0,
        10, 0, 0, 1, 10, 0, 0, 2,
        4, 0, 0, 80, 0, 0, 0, 6, 0, 0, 0, 101, 0x50, 0x11, 3, 232, 0, 0, 0,
        0] ++
      payload)

def lastSegment (payload : List UInt8) : ClientSegment :=
  { ClientSegment.plain 0x11 6 101 1000 payload with
    ipHeader :=
      (ClientSegment.plain 0x11 6 101 1000
        payload).ipHeader.setPayloadLength (35 + payload.length)
    data := (lastPacket payload).advance 40 }

/-- The last packet acknowledges the byte, but not the FIN behind it. -/
theorem lastSegment_unacknowledged :
    ParsedFrom (lastPacket [65]) ((lastPacket [65]).advance 20)
        (lastSegment [65]) ∧
      (openedConnection 5).tracked = true ∧
      (lastSegment [65]).tcpheader.isACK = true ∧
      (lastSegment [65]).tcpheader.isFIN = true ∧
      (lastSegment [65]).tcpheader.isRST = false ∧
      (lastSegment [65]).tcpheader.sequenceNumber =
        (openedConnection 5).session.recSequence ∧
      ¬ FinAcknowledged (lastSegment [65])
        (handleTCPPacket (lastSegment [65]) 0 (openedConnection 5)) := by
  refine
    ⟨⟨by decide +kernel, by decide +kernel⟩, by decide, by decide,
      by decide, by decide, by decide, ?_⟩
  rintro ⟨⟨entry, last, -, -, acknowledges⟩, -⟩
  cases last
  exact absurd acknowledges (by decide)

theorem fin_acknowledged_of_empty :
    FinAcknowledged (lastSegment [])
        (handleTCPPacket (lastSegment []) 0 (openedConnection 5)) ↔
      (lastSegment []).tcpheader.isSYN = false ∧
        (lastSegment []).tcpheader.isPSH = false ∧
        (lastSegment []).dataLength % 2 ^ 32 = 0 ∧
        HeadersHaveRoom (lastSegment []) :=
  fin_acknowledged_iff
    (⟨by decide +kernel, by decide +kernel⟩ :
      ParsedFrom (lastPacket []) ((lastPacket []).advance 20)
        (lastSegment []))
    (by decide) (by decide) (by decide) 0

end SessionHandler

end LanShield.Vpn
