import LanShield.Vpn.DownloadEffects

/-!
# What a step takes from the client and acknowledges

A step may append a payload, move `recSequence` and write acknowledgments.
Most parts of a step do neither of the first two, and acknowledge at most
`recSequence` again: they repeat what the client knows.
-/

namespace LanShield.Vpn

open LanShield.Library LanShield.Transport

/-- The acknowledgment number of a packet with the ACK flag. -/
structure Acknowledgment where
  sender : Sender
  number : Int
  deriving DecidableEq, Repr

def WrittenPacket.acknowledgment (entry : WrittenPacket) :
    Option Acknowledgment :=
  if entry.packet.transportHeader.isACK then
    some ⟨entry.sender, entry.packet.transportHeader.ackNumber⟩
  else
    none

/-- The acknowledgments written to the client, in order. -/
def TcpConnection.acknowledgments (connection : TcpConnection) :
    List Acknowledgment :=
  connection.written.filterMap WrittenPacket.acknowledgment

private theorem acknowledgments_write
    {sender : Sender} {packet : Packet} {connection : TcpConnection}
    (ack : packet.transportHeader.isACK = true) :
    (connection.write sender packet).acknowledgments =
      connection.acknowledgments ++
        [⟨sender, packet.transportHeader.ackNumber⟩] := by
  have acknowledged :
      WrittenPacket.acknowledgment ⟨sender, packet, connection.session⟩ =
        some ⟨sender, packet.transportHeader.ackNumber⟩ :=
    if_pos ack
  unfold TcpConnection.acknowledgments TcpConnection.write
  rw [List.filterMap_append, List.filterMap_cons_some acknowledged,
    List.filterMap_nil]

private theorem acknowledgments_write_silent
    {sender : Sender} {packet : Packet} {connection : TcpConnection}
    (noAck : packet.transportHeader.isACK = false) :
    (connection.write sender packet).acknowledgments =
      connection.acknowledgments := by
  have silent :
      WrittenPacket.acknowledgment ⟨sender, packet, connection.session⟩ =
        none := by
    unfold WrittenPacket.acknowledgment
    rw [noAck]
    rfl
  unfold TcpConnection.acknowledgments TcpConnection.write
  rw [List.filterMap_append, List.filterMap_cons_none silent,
    List.filterMap_nil, List.append_nil]

/-- The payload bytes appended to the sending stream, in order. -/
def TcpConnection.appendedBytes (connection : TcpConnection) :
    List UInt8 :=
  connection.appended.flatMap Prod.snd

/-- Nothing is taken from the client, and at most `recSequence` is
acknowledged again. -/
structure Repeats (before after : TcpConnection) : Prop where
  appended : after.appended = before.appended
  recSequence :
    after.session.recSequence = before.session.recSequence
  acknowledged :
    ∃ more,
      after.acknowledgments = before.acknowledgments ++ more ∧
        ∀ ack ∈ more,
          ack.number = before.session.recSequence ∧
            ack.sender ≠ .sendAck ∧ ack.sender ≠ .sendAckForDisorder

namespace Repeats

theorem of_same {before after : TcpConnection}
    (appended : after.appended = before.appended)
    (recSequence :
      after.session.recSequence = before.session.recSequence)
    (written : after.written = before.written) : Repeats before after := by
  refine ⟨appended, recSequence, [], ?_, fun _ => nofun⟩
  unfold TcpConnection.acknowledgments
  rw [written, List.append_nil]

theorem refl (connection : TcpConnection) : Repeats connection connection :=
  of_same rfl rfl rfl

theorem trans {first second third : TcpConnection}
    (earlier : Repeats first second) (later : Repeats second third) :
    Repeats first third := by
  obtain ⟨more, more_eq, more_repeats⟩ := earlier.acknowledged
  obtain ⟨rest, rest_eq, rest_repeats⟩ := later.acknowledged
  refine
    ⟨later.appended.trans earlier.appended,
      later.recSequence.trans earlier.recSequence, more ++ rest, ?_, ?_⟩
  · rw [rest_eq, more_eq, List.append_assoc]
  · intro ack member
    rcases List.mem_append.mp member with inMore | inRest
    · exact more_repeats ack inMore
    · rw [← earlier.recSequence]
      exact rest_repeats ack inRest

/-- A packet that acknowledges `recSequence`, of another sender than the two
that acknowledge data. -/
theorem write {sender : Sender} {packet : Packet}
    {connection : TcpConnection}
    (ack : packet.transportHeader.isACK = true)
    (number :
      packet.transportHeader.ackNumber = connection.session.recSequence)
    (other : sender ≠ .sendAck ∧ sender ≠ .sendAckForDisorder) :
    Repeats connection (connection.write sender packet) := by
  refine ⟨rfl, rfl, _, acknowledgments_write ack, ?_⟩
  intro written member
  rw [List.mem_singleton.mp member]
  exact ⟨number, other⟩

private theorem write_silent {sender : Sender} {packet : Packet}
    {connection : TcpConnection}
    (noAck : packet.transportHeader.isACK = false) :
    Repeats connection (connection.write sender packet) := by
  refine ⟨rfl, rfl, [], ?_, fun _ => nofun⟩
  rw [acknowledgments_write_silent noAck, List.append_nil]

theorem effects {effect : TcpConnection → TcpConnection → Prop}
    (repeats : ∀ before after, effect before after → Repeats before after)
    {before after : TcpConnection}
    (effects : Relation.ReflTransGen effect before after) :
    Repeats before after := by
  induction effects with
  | refl => exact refl before
  | tail _ step inductionHypothesis =>
      exact inductionHypothesis.trans (repeats _ _ step)

end Repeats

private theorem repeats_pump {before after : TcpConnection}
    (effect : PumpEffect before after) : Repeats before after := by
  cases effect with
  | segment ipHeader tcpheader packetBody rest =>
      rw [SocketChannelReader.sendSegment]
      have taken :
          Repeats before
            { before with
              session :=
                { before.session with
                  receivingStream := rest
                  sendNext :=
                    before.session.sendNext + packetBody.length } } :=
        .of_same rfl rfl rfl
      exact taken.trans (.write rfl rfl ⟨nofun, nofun⟩)
  | finish ipHeader tcpheader =>
      have written :
          Repeats before
            (SocketChannelReader.sendFin ipHeader tcpheader before) := by
        rw [SocketChannelReader.sendFin]
        refine Repeats.trans ?_ (.write rfl rfl ⟨nofun, nofun⟩)
        exact .of_same rfl rfl rfl
      exact written.trans (.of_same rfl rfl rfl)
  | interest interested => exact .of_same rfl rfl rfl

private theorem repeats_read {before after : TcpConnection}
    (effect : ReadEffect before after) : Repeats before after := by
  cases effect with
  | pump effect => exact repeats_pump effect
  | stage chunk lastSegment => exact .of_same rfl rfl rfl
  | endUpstream => exact .of_same rfl rfl rfl
  | abort => exact .of_same rfl rfl rfl

private theorem repeats_closeSession (connection : TcpConnection) :
    Repeats connection connection.closeSession := by
  rw [TcpConnection.closeSession]
  split
  · exact .of_same rfl rfl rfl
  · exact .refl connection

private theorem repeats_removeAborted (connection : TcpConnection) :
    Repeats connection connection.removeAborted := by
  rw [TcpConnection.removeAborted]
  refine Repeats.trans ?_ (repeats_closeSession _)
  split
  · exact .of_same rfl rfl rfl
  · exact .of_same rfl rfl rfl

private theorem repeats_channelRead
    (outcomes : List ReadOutcome) {connection : TcpConnection}
    (noted : EndNoted connection) :
    Repeats connection
      (SocketChannelReader.read outcomes connection).1 := by
  have read :=
    Repeats.effects (fun _ _ => repeats_read)
      (readTCP_effects outcomes noted)
  obtain ⟨key, _, ended⟩ := read_ended outcomes connection
  have subscribed :
      Repeats connection
        ((SocketChannelReader.readTCP outcomes
          connection).1.updateSession fun session =>
            { session with selectionkey := key }) :=
    read.trans (.of_same rfl rfl rfl)
  rw [ended]
  dsimp only
  split
  · exact subscribed.trans (repeats_removeAborted _)
  · exact subscribed

private theorem repeats_writePendingData
    (outcomes : List WriteOutcome) (connection : TcpConnection) :
    Repeats connection
      (SocketChannelWriter.writePendingData outcomes connection).1 := by
  rw [SocketChannelWriter.writePendingData_connection]
  exact .of_same rfl rfl rfl

private theorem repeats_channelWrite
    (outcomes : List WriteOutcome) (connection : TcpConnection) :
    Repeats connection
      (SocketChannelWriter.write outcomes connection).1 := by
  have written :
      Repeats connection
        (SocketChannelWriter.writeTCP outcomes connection).1 := by
    have pending := repeats_writePendingData outcomes connection
    rcases SocketChannelWriter.writeTCP_ends outcomes connection with
      same | ⟨ipHeader, tcpheader, ended⟩
    · rw [same]
      exact pending
    · rw [ended]
      have reset :=
        pending.trans
          (@Repeats.write_silent .writeTCP
            (TCPPacketFactory.createRstData ipHeader tcpheader 0) _ rfl)
      exact reset.trans (.of_same rfl rfl rfl)
  rw [SocketChannelWriter.write]
  dsimp only
  split
  · exact written.trans (repeats_removeAborted _)
  · exact written

private theorem repeats_processSelectorRead
    (ready : SocketNIODataService.Readiness) {connection : TcpConnection}
    (noted : EndNoted connection) :
    Repeats connection
      (SocketNIODataService.processSelectorRead ready connection) := by
  rw [SocketNIODataService.processSelectorRead]
  split
  · refine (repeats_channelRead ready.reads noted).trans ?_
    exact .of_same rfl rfl rfl
  · exact .refl connection

private theorem repeats_processPendingWrite
    (ready : SocketNIODataService.Readiness) (connection : TcpConnection) :
    Repeats connection
      (SocketNIODataService.processPendingWrite ready connection) := by
  have unsubscribed :
      Repeats connection
        (connection.updateSession (Session.unsubscribeKey .write)) :=
    .of_same rfl rfl rfl
  rw [SocketNIODataService.processPendingWrite]
  split
  · exact unsubscribed
  · split
    · refine
        (unsubscribed.trans
          (repeats_channelWrite ready.writes _)).trans ?_
      exact .of_same rfl rfl rfl
    · exact .refl connection

private theorem repeats_processConnectedSelection
    (ready : SocketNIODataService.Readiness) {connection : TcpConnection}
    (noted : EndNoted connection) :
    Repeats connection
      (SocketNIODataService.processConnectedSelection ready
        connection) := by
  rw [SocketNIODataService.processConnectedSelection]
  refine Repeats.trans ?_ (repeats_processPendingWrite ready _)
  refine Repeats.trans ?_ (repeats_processSelectorRead ready ?_)
  · exact .of_same rfl rfl rfl
  · exact noted

theorem repeats_selected
    {ready : SocketNIODataService.Readiness}
    {before after : TcpConnection}
    (selected : SocketNIODataService.Selected ready before after)
    (noted : EndNoted before) : Repeats before after := by
  cases selected with
  | unchanged => exact .refl before
  | refused => exact .of_same rfl rfl rfl
  | waiting => exact .of_same rfl rfl rfl
  | selected => exact repeats_processConnectedSelection ready noted
  | answered connected =>
      have answered :
          Repeats before
            (SocketNIODataService.connectAnswered connected before) :=
        .of_same rfl rfl rfl
      refine
        answered.trans (repeats_processConnectedSelection ready ?_)
      cases connected with
      | false => exact noted
      | true => exact noted

theorem repeats_finishSegment (connection : TcpConnection) :
    Repeats connection (SessionHandler.finishSegment connection) := by
  rw [SessionHandler.finishSegment]
  split
  · exact .refl connection
  · have alive : Repeats connection connection.keepSessionAlive :=
      .of_same rfl rfl rfl
    exact
      alive.trans
        (Repeats.effects (fun _ _ => repeats_pump)
          (pumpToClient_effects _))

private theorem repeats_resendAck
    (currentTime : Int) (connection : TcpConnection) :
    Repeats connection
      (SessionHandler.resendAck currentTime connection) := by
  rw [SessionHandler.resendAck]
  split
  · exact .write rfl rfl ⟨by decide, by decide⟩
  · exact .refl connection

private theorem repeats_resetTCPConnection (connection : TcpConnection) :
    Repeats connection
      (SessionHandler.resetTCPConnection connection) := by
  rw [SessionHandler.resetTCPConnection]
  split
  · exact .of_same rfl rfl rfl
  · exact .refl connection

/-- The session appends the payload of this segment. -/
def Appends (connection : TcpConnection) (segment : ClientSegment) : Prop :=
  SessionHandler.Reaches connection segment ∧
    0 < segment.dataLength ∧
    SessionHandler.Accepts connection.session
      segment.tcpheader.sequenceNumber

instance (connection : TcpConnection) (segment : ClientSegment) :
    Decidable (Appends connection segment) :=
  inferInstanceAs (Decidable (_ ∧ _))

/-- Nothing is taken from the client; a FIN is acknowledged with the number
behind the segment's. -/
structure AcknowledgesFin (segment : ClientSegment)
    (before after : TcpConnection) : Prop where
  appended : after.appended = before.appended
  recSequence :
    after.session.recSequence = before.session.recSequence
  acknowledged :
    ∃ sender,
      after.acknowledgments =
        before.acknowledgments ++
          [⟨sender, segment.tcpheader.sequenceNumber + 1⟩]

private theorem acknowledgesFin_writeFinAck
    (segment : ClientSegment) (currentTime : Int)
    (connection : TcpConnection) :
    AcknowledgesFin segment connection
      (SessionHandler.writeFinAck segment currentTime connection) :=
  ⟨rfl, rfl, .ackFinAck, acknowledgments_write rfl⟩

theorem AcknowledgesFin.repeats
    {segment : ClientSegment} {first second third : TcpConnection}
    (earlier : AcknowledgesFin segment first second)
    (appended : third.appended = second.appended)
    (recSequence :
      third.session.recSequence = second.session.recSequence)
    (written : third.written = second.written) :
    AcknowledgesFin segment first third := by
  refine
    ⟨appended.trans earlier.appended,
      recSequence.trans earlier.recSequence, ?_⟩
  rw [TcpConnection.acknowledgments] at *
  rw [written]
  exact earlier.acknowledged

/-- A segment that does not reach the monitor block. -/
theorem handleTCPPacket_outside
    {segment : ClientSegment} (currentTime : Int)
    {connection : TcpConnection}
    (outside : ¬ SessionHandler.Reaches connection segment) :
    let handled :=
      SessionHandler.handleTCPPacket segment currentTime connection
    Repeats connection handled ∨
      (connection.tracked = false ∧
        segment.tcpheader.isSYN = false ∧
        segment.tcpheader.isFIN = true ∧
        AcknowledgesFin segment connection handled) := by
  rw [SessionHandler.handleTCPPacket]
  dsimp only
  split
  · split
    · exact Or.inl (repeats_resendAck currentTime connection)
    · exact Or.inl (.refl connection)
  · next syn =>
    have notSyn := Bool.eq_false_iff.mpr syn
    split
    · next ack =>
      split
      · next tracked => exact (outside ⟨tracked, notSyn, ack⟩).elim
      · next untracked =>
        rw [SessionHandler.handleUnknown]
        split
        · next fin =>
          right
          exact
            ⟨Bool.eq_false_iff.mpr untracked, notSyn, fin, rfl, rfl,
              .sendLastAck, acknowledgments_write rfl⟩
        · split
          · exact Or.inl (.refl connection)
          · exact Or.inl (.write_silent rfl)
    · split
      · next fin =>
        split
        · exact Or.inl (.of_same rfl rfl rfl)
        · next untracked =>
          right
          exact
            ⟨Bool.eq_false_iff.mpr untracked, notSyn, fin,
              acknowledgesFin_writeFinAck segment currentTime connection⟩
      · split
        · exact Or.inl (repeats_resetTCPConnection connection)
        · exact Or.inl (.refl connection)

private theorem addClientData_history
    (connection : TcpConnection) (sequenceNumber : Int)
    {buffer : Java.ByteBuffer} (hasData : 0 < buffer.remaining) :
    let result := connection.addClientData sequenceNumber buffer
    result.1 = buffer.remaining ∧
      result.2.appended =
        connection.appended ++ [(sequenceNumber, buffer.unread)] ∧
      result.2.session.recSequence = connection.session.recSequence ∧
      result.2.written = connection.written := by
  have nonempty : ¬ buffer.limit ≤ buffer.position := by
    rw [Java.ByteBuffer.remaining] at hasData
    omega
  rw [TcpConnection.addClientData, Session.setSendingData]
  rw [if_neg nonempty]
  cases connection.session.protocol with
  | tcp => exact ⟨rfl, rfl, rfl, rfl⟩
  | udp => exact ⟨rfl, rfl, rfl, rfl⟩

theorem handleData_accepted
    {segment : ClientSegment} (currentTime : Int)
    {connection : TcpConnection} (hasData : 0 < segment.dataLength)
    (accepts :
      SessionHandler.Accepts connection.session
        segment.tcpheader.sequenceNumber) :
    let handled :=
      SessionHandler.handleData segment currentTime connection
    let acknowledged :=
      connection.session.recSequence + segment.dataLength
    handled.appended =
        connection.appended ++
          [(segment.tcpheader.sequenceNumber, segment.payload)] ∧
      handled.session.recSequence = acknowledged ∧
      handled.acknowledgments =
        connection.acknowledgments ++ [⟨.sendAck, acknowledged⟩] := by
  obtain ⟨count, appended, recSequence, written⟩ :=
    addClientData_history connection segment.tcpheader.sequenceNumber
      hasData
  rw [SessionHandler.handleData]
  rw [if_pos accepts]
  unfold SessionHandler.sendAck
  refine ⟨appended, ?_, ?_⟩
  · dsimp only [TcpConnection.write, TcpConnection.updateSession]
    rw [count, recSequence]
    rfl
  · dsimp only
    rw [acknowledgments_write rfl, count, recSequence]
    rw [TcpConnection.acknowledgments, TcpConnection.updateSession]
    rw [written]
    rfl

theorem handleData_rejected
    {segment : ClientSegment} (currentTime : Int)
    {connection : TcpConnection}
    (rejects :
      ¬ SessionHandler.Accepts connection.session
          segment.tcpheader.sequenceNumber) :
    let handled :=
      SessionHandler.handleData segment currentTime connection
    handled.appended = connection.appended ∧
      handled.session.recSequence = connection.session.recSequence ∧
      handled.acknowledgments =
        connection.acknowledgments ++
          [⟨.sendAckForDisorder,
            segment.tcpheader.sequenceNumber + segment.dataLength⟩] := by
  rw [SessionHandler.handleData]
  rw [if_neg rejects]
  exact ⟨rfl, rfl, acknowledgments_write rfl⟩

/-- A segment without data moves `recSequence` to its own number when its
acknowledgment is accepted. -/
theorem handleAck_recSequence
    (segment : ClientSegment) (currentTime : Int)
    {connection : TcpConnection}
    (notClosing : connection.session.closingConnection = false) :
    let handled := SessionHandler.handleAck segment currentTime connection
    handled.appended = connection.appended ∧
      handled.written = connection.written ∧
      handled.session.recSequence =
        if SessionHandler.Advances connection.session segment.tcpheader
        then segment.tcpheader.sequenceNumber
        else connection.session.recSequence := by
  rw [handleAck_eq segment currentTime notClosing]
  refine ⟨rfl, rfl, ?_⟩
  rw [TcpConnection.updateSession]
  dsimp only
  split
  · next advances => rw [SessionHandler.acceptAck_advances advances]
  · next stale => rw [SessionHandler.acceptAck_stale stale]

theorem repeats_handleFlags
    {segment : ClientSegment} (currentTime : Int)
    (connection : TcpConnection)
    (pushedOrOpen :
      segment.tcpheader.isPSH = true ∨ segment.tcpheader.isFIN = false) :
    Repeats connection
      (SessionHandler.handleFlags segment currentTime connection) := by
  rw [SessionHandler.handleFlags]
  split
  · exact .of_same rfl rfl rfl
  · next notPsh =>
    have notFin := pushedOrOpen.resolve_left notPsh
    rw [if_neg (Bool.eq_false_iff.mp notFin)]
    split
    · exact repeats_resetTCPConnection connection
    · exact .refl connection

theorem acknowledgesFin_handleFlags
    {segment : ClientSegment} (currentTime : Int)
    (connection : TcpConnection)
    (notPsh : segment.tcpheader.isPSH = false)
    (fin : segment.tcpheader.isFIN = true) :
    AcknowledgesFin segment connection
      (SessionHandler.handleFlags segment currentTime connection) := by
  have closed :=
    repeats_closeSession
      ((SessionHandler.writeFinAck segment currentTime
        connection).updateSession Session.cancelKey)
  rw [SessionHandler.handleFlags]
  rw [if_neg (Bool.eq_false_iff.mp notPsh), if_pos fin]
  refine
    (acknowledgesFin_writeFinAck segment currentTime connection).repeats
      closed.appended closed.recSequence ?_
  unfold SessionHandler.ackFinAck TcpConnection.closeSession
  dsimp only [TcpConnection.updateSession]
  split
  · rfl
  · rfl

private theorem handleFlags_kept
    (segment : ClientSegment) (currentTime : Int)
    (connection : TcpConnection) :
    let handled :=
      SessionHandler.handleFlags segment currentTime connection
    handled.appended = connection.appended ∧
      handled.session.recSequence = connection.session.recSequence := by
  by_cases pushedOrOpen :
      segment.tcpheader.isPSH = true ∨ segment.tcpheader.isFIN = false
  · have kept := repeats_handleFlags currentTime connection pushedOrOpen
    exact ⟨kept.appended, kept.recSequence⟩
  · obtain ⟨notPsh, fin⟩ := not_or.mp pushedOrOpen
    have kept :=
      acknowledgesFin_handleFlags currentTime connection
        (Bool.eq_false_iff.mpr notPsh) (Bool.not_eq_false _ ▸ fin)
    exact ⟨kept.appended, kept.recSequence⟩

private theorem handleTCPPacket_kept
    {segment : ClientSegment} (currentTime : Int)
    {connection : TcpConnection}
    (reaches : SessionHandler.Reaches connection segment) :
    let handled :=
      SessionHandler.handleTCPPacket segment currentTime connection
    let body := SessionHandler.handleBody segment currentTime connection
    handled.appended = body.appended ∧
      handled.session.recSequence = body.session.recSequence := by
  rw [SessionHandler.handleTCPPacket_reaches reaches]
  have finished :=
    repeats_finishSegment
      (SessionHandler.handleFlags segment currentTime
        (SessionHandler.handleBody segment currentTime connection))
  have flagged :=
    handleFlags_kept segment currentTime
      (SessionHandler.handleBody segment currentTime connection)
  exact
    ⟨finished.appended.trans flagged.1,
      finished.recSequence.trans flagged.2⟩

/-- An empty segment whose acknowledgment is accepted: the session takes
over its number. -/
def Renumbers (connection : TcpConnection) (segment : ClientSegment) :
    Prop :=
  SessionHandler.Reaches connection segment ∧
    segment.dataLength = 0 ∧
    SessionHandler.Advances connection.session segment.tcpheader

instance (connection : TcpConnection) (segment : ClientSegment) :
    Decidable (Renumbers connection segment) :=
  inferInstanceAs (Decidable (_ ∧ _))

/-- What handling a segment does to the appended payloads and to
`recSequence`. -/
inductive Takes (connection : TcpConnection) (segment : ClientSegment)
    (handled : TcpConnection) : Prop
  | payload
      (appends : Appends connection segment)
      (appended :
        handled.appended =
          connection.appended ++
            [(segment.tcpheader.sequenceNumber, segment.payload)])
      (recSequence :
        handled.session.recSequence =
          connection.session.recSequence + segment.dataLength)
  | number
      (renumbers : Renumbers connection segment)
      (appended : handled.appended = connection.appended)
      (recSequence :
        handled.session.recSequence = segment.tcpheader.sequenceNumber)
  | nothing
      (appended : handled.appended = connection.appended)
      (recSequence :
        handled.session.recSequence = connection.session.recSequence)

theorem Takes.appended_eq
    {connection handled : TcpConnection} {segment : ClientSegment}
    (takes : Takes connection segment handled)
    (refused : ¬ Appends connection segment) :
    handled.appended = connection.appended := by
  cases takes with
  | payload appends => exact absurd appends refused
  | number _ appended _ => exact appended
  | nothing appended _ => exact appended

private theorem handleBody_takes
    {segment : ClientSegment} (currentTime : Int)
    {connection : TcpConnection}
    (notClosing : connection.session.closingConnection = false)
    (reaches : SessionHandler.Reaches connection segment) :
    Takes connection segment
      (SessionHandler.handleBody segment currentTime connection) := by
  unfold SessionHandler.handleBody
  dsimp only
  by_cases hasData : 0 < segment.dataLength
  · rw [if_pos hasData]
    by_cases accepts :
        SessionHandler.Accepts connection.session
          segment.tcpheader.sequenceNumber
    · obtain ⟨appended, recSequence, _⟩ :=
        @handleData_accepted segment currentTime
          (connection.updateSession
            (SessionHandler.noteSegment segment))
          hasData accepts
      exact .payload ⟨reaches, hasData, accepts⟩ appended recSequence
    · obtain ⟨appended, recSequence, _⟩ :=
        @handleData_rejected segment currentTime
          (connection.updateSession
            (SessionHandler.noteSegment segment))
          accepts
      exact .nothing appended recSequence
  · rw [if_neg hasData]
    have noData : segment.dataLength = 0 := Nat.eq_zero_of_not_pos hasData
    obtain ⟨appended, _, recSequence⟩ :=
      @handleAck_recSequence segment currentTime
        (connection.updateSession (SessionHandler.noteSegment segment))
        notClosing
    by_cases advances :
        SessionHandler.Advances connection.session segment.tcpheader
    · exact
        .number ⟨reaches, noData, advances⟩ appended
          (recSequence.trans (if_pos advances))
    · exact .nothing appended (recSequence.trans (if_neg advances))

/-- A step appends the payload of a segment the session accepts, and nothing
else. -/
theorem handleTCPPacket_takes
    (segment : ClientSegment) (currentTime : Int)
    {connection : TcpConnection}
    (notClosing : connection.session.closingConnection = false) :
    Takes connection segment
      (SessionHandler.handleTCPPacket segment currentTime
        connection) := by
  by_cases reaches : SessionHandler.Reaches connection segment
  · obtain ⟨keptAppended, keptSequence⟩ :=
      handleTCPPacket_kept currentTime reaches
    cases handleBody_takes currentTime notClosing reaches with
    | payload appends appended recSequence =>
        exact
          .payload appends (keptAppended.trans appended)
            (keptSequence.trans recSequence)
    | number renumbers appended recSequence =>
        exact
          .number renumbers (keptAppended.trans appended)
            (keptSequence.trans recSequence)
    | nothing appended recSequence =>
        exact
          .nothing (keptAppended.trans appended)
            (keptSequence.trans recSequence)
  · rcases handleTCPPacket_outside currentTime reaches with
      repeats | ⟨_, _, _, acknowledges⟩
    · exact .nothing repeats.appended repeats.recSequence
    · exact .nothing acknowledges.appended acknowledges.recSequence

end LanShield.Vpn
