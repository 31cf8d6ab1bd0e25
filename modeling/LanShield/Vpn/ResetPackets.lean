import LanShield.Transport.PacketFields
import LanShield.Vpn.PacketHandling

/-!
# Resets for segments of unknown connections

A segment with ACK that belongs to no session is answered with a reset.  The
builder takes the sequence number from the segment's acknowledgment number
only where that number is positive as a signed one.
-/

namespace LanShield.Vpn

open LanShield.Library LanShield.Java LanShield.Transport

namespace PacketHandling

open Program

/-- The bytes are a reset of the connection whose segment starts at the
position of `stream`, and it continues at the segment's acknowledgment
number. -/
structure ResetFor (ipHeader : IPHeader) (stream : ByteBuffer)
    (bytes : List UInt8) : Prop where
  source :
    slice bytes ipHeader.addressOffset ipHeader.addressSize =
      ipHeader.getDestinationIP.address
  destination :
    slice bytes (ipHeader.addressOffset + ipHeader.addressSize)
        ipHeader.addressSize =
      ipHeader.getSourceIP.address
  sourcePort :
    bigEndian (slice bytes ipHeader.headerLength 2) =
      bigEndian (slice stream.array (stream.position + 2) 2)
  destinationPort :
    bigEndian (slice bytes (ipHeader.headerLength + 2) 2) =
      bigEndian (slice stream.array stream.position 2)
  reset :
    ∃ flags,
      slice bytes (ipHeader.headerLength + 13) 1 = [flags] ∧
        (flags &&& 0x04 != 0) = true
  sequenceNumber :
    bigEndian (slice bytes (ipHeader.headerLength + 4) 4) =
      bigEndian (slice stream.array (stream.position + 8) 4)

/-- The acknowledgment number of a segment, unsigned. -/
def ackOnWire (stream : ByteBuffer) : Nat :=
  bigEndian (slice stream.array (stream.position + 8) 4)

/-- The flags that are cleared after it leave the reset bit alone. -/
private theorem reset_flag (tcp : TCPHeader) (isAck isFin : Bool) :
    ((TCPPacketFactory.clearControl true isAck isFin tcp).tcpFlags &&&
        0x04 != 0) = true := by
  change
    (TCPHeader.assignFlag
          (TCPHeader.assignFlag
            (TCPHeader.assignFlag
              (TCPHeader.assignFlag
                (TCPHeader.assignFlag
                  (TCPHeader.assignFlag
                    (TCPHeader.assignFlag
                      (TCPHeader.assignFlag tcp.tcpFlags 0x04 true) 0x10
                      isAck)
                    0x02 false)
                  0x08 false)
                0x80 false)
              0x40 false)
            0x01 isFin)
          0x20 false &&&
        0x04 != 0) = true
  rw [TCPHeader.assignFlag_and_other (by decide),
    TCPHeader.assignFlag_and_other (by decide),
    TCPHeader.assignFlag_and_other (by decide),
    TCPHeader.assignFlag_and_other (by decide),
    TCPHeader.assignFlag_and_other (by decide),
    TCPHeader.assignFlag_and_other (by decide),
    TCPHeader.assignFlag_and_other (by decide),
    TCPHeader.assignFlag_and (by decide)]

/-- The sequence number of a reset, as the builder chooses it. -/
def resetSequence (ackNumber : Int) : Int :=
  if 0 < ackNumber then ackNumber else 0

/-- Half of all acknowledgment numbers are negative as signed ones. -/
private theorem resetSequence_iff {number : Nat} (bound : number < 2 ^ 32) :
    bigEndian (toBigEndian 4 (resetSequence (signed32 number))) = number ↔
      number < 2 ^ 31 := by
  have read :=
    bigEndian_toBigEndian 4 (resetSequence (signed32 number))
  rw [resetSequence] at read ⊢
  by_cases small : number < 2 ^ 31
  · have same : signed32 number = number := by
      rw [signed32]
      omega
    rw [same] at read ⊢
    by_cases positive : (0 : Int) < number
    · rw [if_pos positive] at read ⊢
      omega
    · rw [if_neg positive] at read ⊢
      omega
  · have negative : ¬ 0 < signed32 number := by
      rw [signed32]
      omega
    rw [if_neg negative] at read ⊢
    omega

section Builder

variable {ipHeader : IPHeader} {tcpheader : TCPHeader}
  {stream data : ByteBuffer} {datalength : Nat} {packetId : Int}
  {bytes : List UInt8}

/-- Every field but the sequence number is always the one of a reset. -/
private theorem createRstData_fields (ipComplete : ipHeader.Complete)
    (tcpComplete : tcpheader.Complete)
    (built :
      (TCPPacketFactory.createRstData ipHeader tcpheader
        datalength).getBuffer packetId = .ok bytes) :
    slice bytes ipHeader.addressOffset ipHeader.addressSize =
        ipHeader.getDestinationIP.address ∧
      slice bytes (ipHeader.addressOffset + ipHeader.addressSize)
          ipHeader.addressSize =
        ipHeader.getSourceIP.address ∧
      slice bytes ipHeader.headerLength 2 =
        toBigEndian 2 tcpheader.destinationPort ∧
      slice bytes (ipHeader.headerLength + 2) 2 =
        toBigEndian 2 tcpheader.sourcePort ∧
      slice bytes (ipHeader.headerLength + 4) 4 =
        toBigEndian 4 (resetSequence tcpheader.ackNumber) ∧
      ∃ flags,
        slice bytes (ipHeader.headerLength + 13) 1 = [flags] ∧
          (flags &&& 0x04 != 0) = true := by
  have short :
      (TCPPacketFactory.createRstData ipHeader tcpheader
            datalength).transportHeader.getTCPHeaderLength +
          (TCPPacketFactory.createRstData ipHeader tcpheader
            datalength).data.length <
        2 ^ 15 := by
    have words := tcpComplete.short
    change tcpheader.dataOffset * 4 + 0 < 2 ^ 15
    omega
  have ipRst :
      (TCPPacketFactory.createRstData ipHeader tcpheader
        datalength).ipHeader.Complete :=
    TCPPacketFactory.setPayloadLength_complete
      (TCPPacketFactory.flipIP_complete ipComplete) _
  have tcpRst :
      (TCPPacketFactory.createRstData ipHeader tcpheader
        datalength).transportHeader.Complete :=
    ⟨tcpComplete.long, tcpComplete.short, rfl⟩
  have laid :=
    TCPPacketFactory.createPacketData_laid ipRst tcpRst short built
  have same :
      (TCPPacketFactory.createRstData ipHeader tcpheader
              datalength).ipHeader.headerLength =
          ipHeader.headerLength ∧
        (TCPPacketFactory.createRstData ipHeader tcpheader
              datalength).ipHeader.addressOffset =
          ipHeader.addressOffset ∧
        (TCPPacketFactory.createRstData ipHeader tcpheader
              datalength).ipHeader.addressSize =
          ipHeader.addressSize ∧
        (TCPPacketFactory.createRstData ipHeader tcpheader
              datalength).ipHeader.getSourceIP =
          ipHeader.getDestinationIP ∧
        (TCPPacketFactory.createRstData ipHeader tcpheader
              datalength).ipHeader.getDestinationIP =
          ipHeader.getSourceIP := by
    cases ipHeader with
    | v4 header => exact ⟨rfl, rfl, rfl, rfl, rfl⟩
    | v6 header => exact ⟨rfl, rfl, rfl, rfl, rfl⟩
  obtain ⟨sameLength, sameOffset, sameSize, sameSource, sameDestination⟩ :=
    same
  obtain ⟨source, destination, fields⟩ := laid
  rw [sameLength] at fields
  rw [sameOffset, sameSize] at source destination
  rw [sameSource] at source
  rw [sameDestination] at destination
  refine
    ⟨source, destination, fields 0 2 (by decide), fields 2 2 (by decide),
      fields 4 4 (by decide), ?_⟩
  exact ⟨_, fields 13 1 (by decide), reset_flag _ false false⟩

/-- On the wire a reset continues at the acknowledgment number exactly when
that number is below `2 ^ 31`. -/
private theorem createRstData_reset_iff (ipComplete : ipHeader.Complete)
    (parsed :
      TCPPacketFactory.createTCPHeader stream = .ok (tcpheader, data))
    (tcpComplete : tcpheader.Complete)
    (built :
      (TCPPacketFactory.createRstData ipHeader tcpheader
        datalength).getBuffer packetId = .ok bytes) :
    ResetFor ipHeader stream bytes ↔ ackOnWire stream < 2 ^ 31 := by
  obtain ⟨-, fixed, -, -⟩ := TCPPacketFactory.createTCPHeader_fields parsed
  rw [TCPPacketFactory.SameFixedFields] at fixed
  have sourcePort_eq :
      tcpheader.sourcePort =
        bigEndian (slice stream.array stream.position 2) :=
    congrArg TCPHeader.sourcePort fixed
  have destinationPort_eq :
      tcpheader.destinationPort =
        bigEndian (slice stream.array (stream.position + 2) 2) :=
    congrArg TCPHeader.destinationPort fixed
  have ackNumber_eq := congrArg TCPHeader.ackNumber fixed
  dsimp only [TCPPacketFactory.fixedHeader, TCPHeader.create]
    at ackNumber_eq
  have sourceSmall := bigEndian_slice_lt stream.array stream.position 2
  have destinationSmall :=
    bigEndian_slice_lt stream.array (stream.position + 2) 2
  have ackSmall := bigEndian_slice_lt stream.array (stream.position + 8) 4
  obtain ⟨source, destination, sourcePort, destinationPort, sequenceNumber,
    reset⟩ := createRstData_fields ipComplete tcpComplete built
  rw [ackOnWire, ← resetSequence_iff ackSmall, ← ackNumber_eq,
    ← sequenceNumber]
  constructor
  · intro resets
    exact resets.sequenceNumber
  · intro continues
    refine ⟨source, destination, ?_, ?_, reset, continues⟩
    · rw [sourcePort, TCPPacketFactory.bigEndian_port, destinationPort_eq]
      exact Nat.mod_eq_of_lt destinationSmall
    · rw [destinationPort, TCPPacketFactory.bigEndian_port, sourcePort_eq]
      exact Nat.mod_eq_of_lt sourceSmall

end Builder

/-- The packet is a segment with ACK, without SYN, FIN and RST, and the table
has no session for it. -/
structure UnknownAck (engine : Engine) (packet stream : ByteBuffer)
    (segment : TcpSegment) : Prop where
  ip : createIPHeader packet.rewind = .ok (segment.ipHeader, stream)
  protocol : segment.ipHeader.getProtocol = some .tcp
  tcp :
    TCPPacketFactory.createTCPHeader stream =
      .ok (segment.tcpheader, segment.data)
  ack : segment.tcpheader.isACK = true
  syn : segment.tcpheader.isSYN = false
  fin : segment.tcpheader.isFIN = false
  rst : segment.tcpheader.isRST = false
  unknown : engine.table segment.sessionKey = none

/-- A packet is built with the next packet number, and then written. -/
private theorem final_sendPacket (packet : Packet) (thread : PacketThread)
    (engine : Engine) :
    ((do
          sendPacket packet
          return thread : Running PacketThread)).final
        engine =
      ((do
          write (← built (packet.getBuffer (engine.packetIds 0)))
          return thread : Running PacketThread)).final
        { engine with
          packetIds := fun index => engine.packetIds (index + 1) } := by
  rw [sendPacket, buildPacket, bind_assoc, bind_assoc]
  rfl

private theorem written_sendPacket {packet : Packet} {engine : Engine}
    {bytes : List UInt8}
    (built : packet.getBuffer (engine.packetIds 0) = .ok bytes)
    (thread : PacketThread) :
    (((do
          sendPacket packet
          return thread : Running PacketThread)).final
        engine).written =
      engine.written ++ [bytes] := by
  rw [final_sendPacket, built]
  rfl

private theorem written_sendPacket_failed {packet : Packet} {engine : Engine}
    {exception : JavaException}
    (failed : packet.getBuffer (engine.packetIds 0) = .error exception)
    (thread : PacketThread) :
    (((do
          sendPacket packet
          return thread : Running PacketThread)).final
        engine).written =
      engine.written := by
  rw [final_sendPacket, failed]
  rfl

private theorem outcome_getSession_bind {Result : Type} (key : SessionKey)
    (next : Option Nat → Running Result) (engine : Engine) :
    Program.outcome (getSession key >>= next) engine =
      (next (engine.table key)).outcome engine :=
  rfl

private theorem handlePacket_unknown {engine : Engine}
    {packet stream : ByteBuffer}
    {segment : TcpSegment}
    (unknown : UnknownAck engine packet stream segment)
    (answers : Answers) :
    (handlePacket packet answers).outcome engine =
      ((do
          sendRstPacket segment
          return .idle : Running PacketThread)).outcome engine := by
  have parsesIp :
      parsed createIPHeader packet.rewind =
        pure (segment.ipHeader, stream) := by
    rw [parsed, unknown.ip]
  have parsesTcp :
      parsed TCPPacketFactory.createTCPHeader stream =
        pure (segment.tcpheader, segment.data) := by
    rw [parsed, unknown.tcp]
  have notSyn : ¬ segment.tcpheader.isSYN = true := by
    rw [unknown.syn]
    exact Bool.false_ne_true
  have resets :
      handleUnknown segment answers.currentTime = sendRstPacket segment := by
    rw [handleUnknown, unknown.fin, unknown.rst]
    rfl
  rw [handlePacket, parsesIp, pure_bind]
  dsimp only
  rw [unknown.protocol]
  dsimp only
  rw [parsesTcp, pure_bind, handleTCPPacket, if_neg notSyn,
    if_pos unknown.ack]
  refine (outcome_getSession_bind _ _ engine).trans ?_
  rw [unknown.unknown]
  dsimp only
  rw [resets]

/-- Whatever the table lacks a session for is answered with one reset, if
the headers have room for their own fields. -/
theorem reset_written {engine : Engine} {packet stream : ByteBuffer}
    {segment : TcpSegment}
    (unknown : UnknownAck engine packet stream segment)
    (ipRoom : segment.ipHeader.HasRoom)
    (tcpRoom : segment.tcpheader.HasRoom) (answers : Answers) :
    ∃ bytes,
      ((handlePacket packet answers).final engine).written =
        engine.written ++ [bytes] := by
  have ipComplete := createIPHeader_complete unknown.ip ipRoom
  have tcpComplete :=
    (TCPPacketFactory.createTCPHeader_parsed unknown.tcp).complete tcpRoom
  obtain ⟨bytes, built⟩ :=
    TCPPacketFactory.createRstData_built ipComplete tcpComplete
      segment.data.remaining (engine.packetIds 0)
  refine ⟨bytes, ?_⟩
  rw [Program.final, handlePacket_unknown unknown, sendRstPacket]
  exact written_sendPacket built .idle

/-- A reset that is written for a segment of an unknown connection continues
at its acknowledgment number exactly when that is below `2 ^ 31`. -/
theorem reset_acceptable_iff {engine : Engine} {packet stream : ByteBuffer}
    {segment : TcpSegment} {answers : Answers} {bytes : List UInt8}
    (unknown : UnknownAck engine packet stream segment)
    (written :
      ((handlePacket packet answers).final engine).written =
        engine.written ++ [bytes]) :
    ResetFor segment.ipHeader stream bytes ↔ ackOnWire stream < 2 ^ 31 := by
  rw [Program.final, handlePacket_unknown unknown, sendRstPacket] at written
  cases built :
      (TCPPacketFactory.createRstData segment.ipHeader segment.tcpheader
        segment.data.remaining).getBuffer (engine.packetIds 0) with
  | error exception =>
      have sent := written_sendPacket_failed built .idle
      rw [Program.final, written] at sent
      have impossible := congrArg List.length sent
      simp at impossible
  | ok sentBytes =>
      have sent := written_sendPacket built .idle
      rw [Program.final, written] at sent
      have bytes_eq : bytes = sentBytes := by
        simpa using List.append_cancel_left sent
      rw [← bytes_eq] at built
      obtain ⟨ipRoom, tcpRoom⟩ :=
        TCPPacketFactory.hasRoom_of_createPacketData built
      have ipParsed : segment.ipHeader.HasRoom := by
        cases header_eq : segment.ipHeader with
        | v4 header =>
            rw [header_eq] at ipRoom
            exact ipRoom
        | v6 header => trivial
      exact
        createRstData_reset_iff
          (createIPHeader_complete unknown.ip ipParsed) unknown.tcp
          ((TCPPacketFactory.createTCPHeader_parsed unknown.tcp).complete
            tcpRoom)
          built

/-- An empty ACK of an unknown connection, by the first byte of its
acknowledgment number. -/
def strayAck (high : UInt8) : ByteBuffer :=
  ByteBuffer.wrap
    [0x45, 0, 0, 40, 0, 1, 0, 0, 64, 6, 0, 0, 10, 0, 0, 1, 10, 0, 0, 2,
      4, 0, 0, 80, 0, 0, 0, 1, high, 0, 0, 99, 0x50, 0x10, 1, 0, 0, 0, 0, 0]

/-- An engine without sessions. -/
def emptyEngine : Engine :=
  Engine.start fun _ => 0

theorem strayAck_reset_at_zero :
    ∃ stream segment bytes,
      UnknownAck emptyEngine (strayAck 0x80) stream segment ∧
        ((handlePacket (strayAck 0x80) quickAnswers).final
            emptyEngine).written =
          emptyEngine.written ++ [bytes] ∧
        ackOnWire stream = 0x80000063 ∧
        bigEndian (slice bytes (segment.ipHeader.headerLength + 4) 4) = 0 ∧
        ¬ ResetFor segment.ipHeader stream bytes := by
  refine
    ⟨_, ⟨_, _, _⟩, _, ⟨rfl, rfl, rfl, rfl, rfl, rfl, rfl, rfl⟩, rfl,
      by decide, by decide, ?_⟩
  intro reset
  exact absurd reset.sequenceNumber (by decide)

theorem reset_acceptable_iff_strayAck :
    ∃ stream segment bytes,
      UnknownAck emptyEngine (strayAck 0) stream segment ∧
        ((handlePacket (strayAck 0) quickAnswers).final
            emptyEngine).written =
          emptyEngine.written ++ [bytes] ∧
        (ResetFor segment.ipHeader stream bytes ↔
          ackOnWire stream < 2 ^ 31) ∧
        ackOnWire stream < 2 ^ 31 := by
  have unknown :
      ∃ stream segment,
        UnknownAck emptyEngine (strayAck 0) stream segment ∧
          ackOnWire stream < 2 ^ 31 ∧ segment.ipHeader.HasRoom ∧
          segment.tcpheader.HasRoom :=
    ⟨_, ⟨_, _, _⟩, ⟨rfl, rfl, rfl, rfl, rfl, rfl, rfl, rfl⟩, by decide,
      by decide, by decide⟩
  obtain ⟨stream, segment, unknown, below, ipRoom, tcpRoom⟩ := unknown
  obtain ⟨bytes, written⟩ :=
    reset_written unknown ipRoom tcpRoom quickAnswers
  exact
    ⟨stream, segment, bytes, unknown, written,
      reset_acceptable_iff unknown written, below⟩

end PacketHandling

end LanShield.Vpn
