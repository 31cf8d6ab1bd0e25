import LanShield.Transport.ParsedHeaders
import LanShield.Vpn.DownloadEffects

/-!
# The send window and its acknowledgments

The counters of a session are exact, the acknowledgment number on the wire
is a residue.  `acceptAck` finds the position the residue stands for; a
segment with data does not get there.
-/

namespace LanShield.Vpn

open LanShield.Library LanShield.Java LanShield.Transport

/-- A position of the sent stream that is not acknowledged yet, or its end.
-/
def Session.Acknowledgeable (session : Session) (position : Int) : Prop :=
  session.sendUnack < position ∧ position ≤ session.sendNext ∨
    position = session.sendNext

instance (session : Session) (position : Int) :
    Decidable (session.Acknowledgeable position) :=
  inferInstanceAs (Decidable (_ ∨ _))

theorem Session.Acknowledgeable.le {session : Session} {position : Int}
    (acknowledgeable : session.Acknowledgeable position) :
    position ≤ session.sendNext := by
  rcases acknowledgeable with ⟨_, sent⟩ | rfl
  · exact sent
  · exact le_refl _

theorem Session.Acknowledgeable.near {session : Session} {position : Int}
    (acknowledgeable : session.Acknowledgeable position)
    (window : session.sendNext - session.sendUnack ≤ 2 ^ 30) :
    session.sendNext < position + 2 ^ 32 := by
  rcases acknowledgeable with ⟨unacknowledged, _⟩ | rfl
  · have lower := unacknowledged
    omega
  · exact Int.lt_add_of_pos_right _ (by norm_num)

namespace SessionHandler

/-- The acknowledged position is the one the session moves to. -/
private theorem advances_iff_acknowledgeable
    (session : Session) (tcpHeader : TCPHeader) :
    Advances session tcpHeader ↔
      session.Acknowledgeable
        (reconstruct session.sendNext tcpHeader.ackNumber) := by
  constructor
  · rintro (unacknowledged | finished)
    · exact Or.inl ⟨unacknowledged, reconstruct_le _ _⟩
    · exact Or.inr finished
  · rintro (⟨unacknowledged, _⟩ | finished)
    · exact Or.inl unacknowledged
    · exact Or.inr finished

@[simp]
theorem sendNext_acceptAck
    (tcpHeader : TCPHeader) (currentTime : Int) (session : Session) :
    (acceptAck tcpHeader currentTime session).sendNext =
      session.sendNext := by
  by_cases advances : Advances session tcpHeader
  · rw [acceptAck_advances advances]
  · rw [acceptAck_stale advances]

/-- The parsed number is the wire field with its sign extended. -/
private theorem unsigned32_ackNumber {stream after : ByteBuffer}
    {tcpHeader : TCPHeader}
    (parsed :
      TCPPacketFactory.createTCPHeader stream = .ok (tcpHeader, after)) :
    unsigned32 tcpHeader.ackNumber =
      bigEndian (slice stream.array (stream.position + 8) 4) := by
  obtain ⟨_, fields, _⟩ := TCPPacketFactory.createTCPHeader_fields parsed
  have bound := bigEndian_slice_lt stream.array (stream.position + 8) 4
  have number :
      tcpHeader.ackNumber =
        signed32 (bigEndian (slice stream.array (stream.position + 8) 4)) := by
    rw [fields]
    rfl
  rw [number, unsigned32_signed32]
  apply unsigned32_eq_self
  · exact Int.natCast_nonneg _
  · exact_mod_cast bound

/-- Below `2 ^ 62` none of the subtractions leaves the 64 bits of a `long`.
-/
theorem reconstruct_in_long {sendNext : Int} (wire : Int)
    (lower : -2 ^ 62 ≤ sendNext) (upper : sendNext ≤ 2 ^ 62) :
    signed64
        (sendNext - unsigned32 (signed64 (sendNext - unsigned32 wire))) =
      reconstruct sendNext wire := by
  unfold reconstruct signed64 unsigned32
  omega

theorem acceptAck_serial {stream after : ByteBuffer}
    {tcpHeader : TCPHeader}
    (parsed :
      TCPPacketFactory.createTCPHeader stream = .ok (tcpHeader, after))
    {session : Session}
    (window : session.sendNext - session.sendUnack ≤ 2 ^ 30)
    (currentTime : Int) :
    let wire : Int :=
      bigEndian (slice stream.array (stream.position + 8) 4)
    let accepted := acceptAck tcpHeader currentTime session
    (∀ position, session.Acknowledgeable position →
      position % 2 ^ 32 = wire →
        accepted.sendUnack = position ∧ accepted.isacked = true) ∧
      ((∀ position, session.Acknowledgeable position →
        position % 2 ^ 32 ≠ wire) →
          accepted.sendUnack = session.sendUnack ∧
            accepted.isacked = false) ∧
      accepted.sendNext = session.sendNext := by
  intro wire accepted
  have number : unsigned32 tcpHeader.ackNumber = wire :=
    unsigned32_ackNumber parsed
  refine ⟨?_, ?_, sendNext_acceptAck _ _ _⟩
  · intro position acknowledgeable residue
    have found :
        reconstruct session.sendNext tcpHeader.ackNumber = position :=
      reconstruct_eq acknowledgeable.le (acknowledgeable.near window)
        (residue.trans number.symm)
    have advances : Advances session tcpHeader := by
      rw [advances_iff_acknowledgeable, found]
      exact acknowledgeable
    have taken := acceptAck_advances advances currentTime
    rw [found] at taken
    constructor
    · exact congrArg Session.sendUnack taken
    · exact congrArg Session.isacked taken
  · intro nowhere
    have stale : ¬ Advances session tcpHeader := by
      intro advances
      rw [advances_iff_acknowledgeable] at advances
      apply nowhere _ advances
      exact (unsigned32_reconstruct _ _).trans number
    have refused :
        accepted =
          { session with
            packetCorrupted := isPacketCorrupted tcpHeader
            isacked := false } :=
      acceptAck_stale stale currentTime
    rw [refused]
    exact ⟨rfl, rfl⟩

/-- A TCP header at port 80 whose acknowledgment number is `2 ^ 32 - 2`. -/
def wrappingAck : ByteBuffer :=
  ByteBuffer.wrap
    [4, 0, 0, 80, 0, 0, 0, 2, 255, 255, 255, 254, 0x50, 0x10, 255, 255,
      0, 0, 0, 0]

/-- A session that sent seven bytes across a multiple of `2 ^ 32`. -/
def wrappingSession : Session :=
  { (openedConnection 1).session with
    sendUnack := 2 ^ 33 - 5
    sendNext := 2 ^ 33 + 2 }

theorem wrappingAck_serial :
    ∃ tcpHeader after,
      TCPPacketFactory.createTCPHeader wrappingAck =
          .ok (tcpHeader, after) ∧
        (acceptAck tcpHeader 0 wrappingSession).sendUnack = 2 ^ 33 - 2 ∧
        (acceptAck tcpHeader 0 wrappingSession).isacked = true := by
  obtain ⟨⟨tcpHeader, after⟩, parsed⟩ :
      ∃ result, TCPPacketFactory.createTCPHeader wrappingAck = .ok result :=
    ⟨_, rfl⟩
  have serial :=
    @acceptAck_serial wrappingAck after tcpHeader parsed wrappingSession
      (by decide) 0
  have accepted := serial.1 (2 ^ 33 - 2) (by decide) (by decide)
  exact ⟨tcpHeader, after, parsed, accepted⟩

private theorem sendUnack_pumpToClient (connection : TcpConnection) :
    (SocketChannelReader.pumpToClient connection).session.sendUnack =
      connection.session.sendUnack := by
  refine
    @Effects.view_eq Int PumpEffect
      (fun connection => connection.session.sendUnack) ?_ _ _
      (pumpToClient_effects connection)
  intro before after effect
  cases effect with
  | segment => rfl
  | finish => rfl
  | interest => rfl

private theorem sendUnack_finishSegment (connection : TcpConnection) :
    (finishSegment connection).session.sendUnack =
      connection.session.sendUnack := by
  rw [finishSegment]
  split
  · rfl
  · exact sendUnack_pumpToClient connection.keepSessionAlive

private theorem sendUnack_handleFlags
    (segment : ClientSegment) (currentTime : Int)
    (connection : TcpConnection) :
    (handleFlags segment currentTime connection).session.sendUnack =
      connection.session.sendUnack := by
  rw [handleFlags]
  split
  · rfl
  · split
    · have halted := ackFinAck_halts segment currentTime connection
      exact congrArg Download.sendUnack halted
    · split
      · rcases resetTCPConnection_halts connection with same | halted
        · exact congrArg Download.sendUnack same
        · exact congrArg Download.sendUnack halted
      · rfl

private theorem sendUnack_handleData
    (segment : ClientSegment) (currentTime : Int)
    (connection : TcpConnection) :
    (handleData segment currentTime connection).session.sendUnack =
      connection.session.sendUnack := by
  have same := handleData_download segment currentTime connection
  exact congrArg Download.sendUnack same

private theorem sendUnack_handleAck
    (segment : ClientSegment) (currentTime : Int)
    (connection : TcpConnection) :
    (handleAck segment currentTime connection).session.sendUnack =
      (acceptAck segment.tcpheader currentTime
        connection.session).sendUnack := by
  unfold handleAck
  dsimp only
  split
  · rfl
  · split
    · have same :=
        download_closeSession
          (connection.updateSession
            (acceptAck segment.tcpheader currentTime))
      exact congrArg Download.sendUnack same
    · rfl

/-- The position an acknowledgment moves `sendUnack` to, whatever the other
flags of the segment. -/
private theorem sendUnack_handleSessionSegment
    (segment : ClientSegment) (currentTime : Int)
    (connection : TcpConnection) :
    (handleSessionSegment segment currentTime
        connection).session.sendUnack =
      if 0 < segment.dataLength then
        connection.session.sendUnack
      else
        (acceptAck segment.tcpheader currentTime
          (noteSegment segment connection.session)).sendUnack := by
  rw [handleSessionSegment]
  rw [sendUnack_finishSegment, sendUnack_handleFlags]
  unfold handleBody
  dsimp only
  split
  · rw [sendUnack_handleData]
    rfl
  · rw [sendUnack_handleAck]
    rfl

/-- The acknowledgment number of the segment stands for this position. -/
structure Acknowledges (session : Session) (segment : ClientSegment)
    (position : Int) : Prop where
  unacknowledged : session.sendUnack < position
  sent : position ≤ session.sendNext
  residue :
    unsigned32 position = unsigned32 segment.tcpheader.ackNumber

/-- Whatever its other flags, only the acknowledgment of a segment without
data is taken, and for the last of the positions it stands for. -/
theorem acknowledgment_taken_iff
    {connection : TcpConnection} {segment : ClientSegment}
    (reaches : Reaches connection segment) {position : Int}
    (acknowledges : Acknowledges connection.session segment position)
    (currentTime : Int) :
    (handleTCPPacket segment currentTime connection).session.sendUnack =
        position ↔
      segment.dataLength = 0 ∧
        connection.session.sendNext < position + 2 ^ 32 := by
  obtain ⟨unacknowledged, sent, residue⟩ := acknowledges
  rw [handleTCPPacket_reaches reaches, sendUnack_handleSessionSegment]
  split
  · next data =>
    constructor
    · intro moved
      exact absurd moved unacknowledged.ne
    · rintro ⟨empty, _⟩
      exact absurd empty data.ne'
  · next nothing =>
    have empty : segment.dataLength = 0 :=
      Nat.le_zero.mp (Nat.not_lt.mp nothing)
    have last :
        reconstruct connection.session.sendNext
              segment.tcpheader.ackNumber =
            position ↔
          connection.session.sendNext < position + 2 ^ 32 := by
      constructor
      · intro found
        have above :=
          lt_reconstruct connection.session.sendNext
            segment.tcpheader.ackNumber
        rw [found] at above
        exact Int.lt_add_of_sub_right_lt above
      · intro near
        exact reconstruct_eq sent near residue
    have advances :
        Advances (noteSegment segment connection.session)
          segment.tcpheader := by
      left
      by_cases near : connection.session.sendNext < position + 2 ^ 32
      · exact unacknowledged.trans_eq (last.mpr near).symm
      · have above :=
          lt_reconstruct connection.session.sendNext
            segment.tcpheader.ackNumber
        have later :
            position <
              reconstruct connection.session.sendNext
                segment.tcpheader.ackNumber := by
          omega
        exact unacknowledged.trans later
    rw [acceptAck_advances advances, and_iff_right empty]
    exact last

/-- The first segment of a client that acknowledges the SYN with its first
byte. -/
def piggybackedAck (payload : List UInt8) : ClientSegment :=
  ClientSegment.plain 0x18 6 101 1000 payload

private theorem piggybackedAck_acknowledges (payload : List UInt8) :
    Acknowledges (openedConnection 5).session (piggybackedAck payload) 101
    := by
  refine ⟨by decide, by decide, rfl⟩

theorem piggybackedAck_ignored :
    Reaches (openedConnection 5) (piggybackedAck [65]) ∧
      (piggybackedAck [65]).tcpheader.isRST = false ∧
      Acknowledges (openedConnection 5).session (piggybackedAck [65]) 101 ∧
      (handleTCPPacket (piggybackedAck [65]) 0
        (openedConnection 5)).session.sendUnack = 100 := by
  refine ⟨by decide, by decide, ?_, by decide⟩
  exact piggybackedAck_acknowledges [65]

theorem acknowledgment_taken_of_empty :
    (handleTCPPacket (piggybackedAck []) 0
        (openedConnection 5)).session.sendUnack = 101 ↔
      (piggybackedAck []).dataLength = 0 ∧
        (openedConnection 5).session.sendNext < 101 + 2 ^ 32 :=
  acknowledgment_taken_iff (by decide) (piggybackedAck_acknowledges []) 0

end SessionHandler

end LanShield.Vpn
