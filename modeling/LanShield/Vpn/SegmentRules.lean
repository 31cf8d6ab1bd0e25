import LanShield.Transport.BuiltPackets
import LanShield.Vpn.StagingBound

/-!
# Rules for the packets of the pump

`pumpToClient` puts the headers of the client's latest packet before each
segment and before its FIN.  A rule says which of these packets are allowed
and which headers allow them; it holds along a run whose segments bring such
headers.
-/

namespace LanShield.Vpn

open LanShield.Library LanShield.Java LanShield.Transport
  SocketChannelReader

/-- What is asked of the packets of the pump, and of the headers and the
client window they come from, when no segment is longer than `segMax`. -/
structure SegmentRule where
  segMax : Int
  allows : Packet → Prop
  room : Int → IPHeader → TCPHeader → Prop
  segment :
    ∀ {window : Int} {ipHeader : IPHeader} {tcpheader : TCPHeader}
      {packetBody : List UInt8},
      room window ipHeader tcpheader →
        (packetBody.length : Int) ≤ window →
          (packetBody.length : Int) ≤ segMax →
            ∀ isPsh ackNumber seqNumber timeSender timeReplyto,
              allows
                (TCPPacketFactory.createResponsePacketData ipHeader
                  tcpheader packetBody isPsh ackNumber seqNumber timeSender
                  timeReplyto)
  fin :
    ∀ {window : Int} {ipHeader : IPHeader} {tcpheader : TCPHeader},
      room window ipHeader tcpheader →
        ∀ ackNumber seqNumber timeSender timeReplyTo,
          allows
              (TCPPacketFactory.createFinData ipHeader tcpheader ackNumber
                seqNumber timeSender timeReplyTo) ∧
            room window
              (TCPPacketFactory.createFinData ipHeader tcpheader ackNumber
                seqNumber timeSender timeReplyTo).ipHeader
              (TCPPacketFactory.createFinData ipHeader tcpheader ackNumber
                seqNumber timeSender timeReplyTo).transportHeader

/-- The packet is one of the pump, or like one. -/
def WrittenPacket.isPumped (entry : WrittenPacket) : Bool :=
  decide
    (entry.sender = .pumpToClient ∨ entry.sender = .sendFin ∨
      entry.packet.data ≠ [])

/-- What the packets of the pump depend on, and those written. -/
structure Emission where
  segMax : Int
  clientWindow : Int
  lastIpHeader : Option IPHeader
  lastTcpHeader : Option TCPHeader
  packets : List WrittenPacket

def TcpConnection.emission (connection : TcpConnection) : Emission where
  segMax := maxSegment connection.session
  clientWindow := connection.session.clientWindow
  lastIpHeader := connection.session.lastIpHeader
  lastTcpHeader := connection.session.lastTcpHeader
  packets := connection.written.filter WrittenPacket.isPumped

/-- The rule allows all packets of the pump, and those the last headers will
lead to. -/
structure Obeys (rule : SegmentRule) (emission : Emission) : Prop where
  limit : emission.segMax = rule.segMax
  room :
    ∀ ipHeader tcpheader,
      emission.lastIpHeader = some ipHeader →
        emission.lastTcpHeader = some tcpheader →
          rule.room emission.clientWindow ipHeader tcpheader
  allowed : ∀ entry ∈ emission.packets, rule.allows entry.packet

private theorem emission_write_other {sender : Sender} {packet : Packet}
    {connection : TcpConnection}
    (other : sender ≠ .pumpToClient ∧ sender ≠ .sendFin)
    (empty : packet.data = []) :
    (connection.write sender packet).emission = connection.emission := by
  have excluded :
      (⟨sender, packet, connection.session⟩ :
        WrittenPacket).isPumped = false := by
    simp [WrittenPacket.isPumped, other, empty]
  rw [TcpConnection.emission, TcpConnection.emission, TcpConnection.write]
  dsimp only
  rw [List.filter_append, List.filter_singleton, excluded]
  simp

private theorem emission_write_pumped {sender : Sender} {packet : Packet}
    {connection : TcpConnection}
    (pumped : sender = .pumpToClient ∨ sender = .sendFin) :
    (connection.write sender packet).emission =
      { connection.emission with
        packets :=
          connection.emission.packets ++
            [⟨sender, packet, connection.session⟩] } := by
  have included :
      (⟨sender, packet, connection.session⟩ :
        WrittenPacket).isPumped = true :=
    decide_eq_true (or_assoc.mp (Or.inl pumped))
  rw [TcpConnection.emission, TcpConnection.emission, TcpConnection.write]
  dsimp only
  rw [List.filter_append, List.filter_singleton, included]
  simp

/-- A rule is about the emission alone. -/
theorem Obeys.of_eq {rule : SegmentRule} {before after : Emission}
    (obeys : Obeys rule before) (same : after = before) :
    Obeys rule after :=
  same ▸ obeys

theorem Obeys.allows {rule : SegmentRule} {connection : TcpConnection}
    (obeys : Obeys rule connection.emission) {entry : WrittenPacket}
    (written : entry ∈ connection.written)
    (pumped :
      entry.sender = .pumpToClient ∨ entry.sender = .sendFin ∨
        entry.packet.data ≠ []) :
    rule.allows entry.packet := by
  apply obeys.allowed
  exact List.mem_filter.mpr ⟨written, decide_eq_true pumped⟩

section Pump

variable {rule : SegmentRule} {ipHeader : IPHeader} {tcpheader : TCPHeader}
  {connection : TcpConnection}

private theorem obeys_sendSegment (obeys : Obeys rule connection.emission)
    (room : rule.room connection.session.clientWindow ipHeader tcpheader)
    {packetBody : List UInt8}
    (within :
      (packetBody.length : Int) ≤ connection.session.clientWindow)
    (few : (packetBody.length : Int) ≤ rule.segMax) :
    Obeys rule
      (sendSegment ipHeader tcpheader packetBody connection).emission := by
  rw [sendSegment]
  dsimp only
  rw [emission_write_pumped (Or.inl rfl)]
  refine ⟨obeys.limit, obeys.room, ?_⟩
  intro entry written
  rcases List.mem_append.mp written with earlier | last
  · exact obeys.allowed entry earlier
  · rw [List.mem_singleton.mp last]
    exact rule.segment room within few _ _ _ _ _

/-- Each round takes no more than window and `segMax` from the buffer. -/
private theorem obeys_pumpStaged (positive : 1 ≤ rule.segMax) (rounds : Nat)
    {connection : TcpConnection} (obeys : Obeys rule connection.emission)
    (room : rule.room connection.session.clientWindow ipHeader tcpheader) :
    Obeys rule
        (pumpStaged ipHeader tcpheader rule.segMax rounds
          connection).emission ∧
      rule.room
        (pumpStaged ipHeader tcpheader rule.segMax rounds
          connection).session.clientWindow
        ipHeader tcpheader := by
  induction rounds generalizing connection with
  | zero => exact ⟨obeys, room⟩
  | succ rounds inductionHypothesis =>
      rw [pumpStaged]
      split
      · dsimp only
        split
        · exact ⟨obeys, room⟩
        · next free =>
          split
          · exact ⟨obeys, room⟩
          · have inFlight :
                0 ≤ unsigned32
                  (connection.session.sendNext -
                    connection.session.sendUnack) :=
              Int.emod_nonneg _ (by decide)
            have taken :=
              List.length_take_le
                (min
                  (connection.session.clientWindow -
                    unsigned32
                      (connection.session.sendNext -
                        connection.session.sendUnack))
                  rule.segMax).toNat
                connection.session.receivingStream
            apply inductionHypothesis
            · refine obeys_sendSegment ?_ ?_ ?_ ?_
              · exact obeys
              · exact room
              · rw [Session.getReceivedData]
                dsimp only
                omega
              · rw [Session.getReceivedData]
                dsimp only
                omega
            · exact room
      · exact ⟨obeys, room⟩

/-- The FIN leaves its own headers behind. -/
private theorem obeys_sendFin (obeys : Obeys rule connection.emission)
    (room : rule.room connection.session.clientWindow ipHeader tcpheader) :
    Obeys rule (sendFin ipHeader tcpheader connection).emission := by
  rw [sendFin]
  rw [emission_write_pumped (Or.inr rfl)]
  have finished :=
    rule.fin room connection.session.recSequence
      connection.session.sendNext connection.session.timestampSender
      connection.session.timestampReplyto
  refine ⟨obeys.limit, ?_, ?_⟩
  · rintro _ _ ⟨⟩ ⟨⟩
    exact finished.2
  · intro entry written
    rcases List.mem_append.mp written with earlier | last
    · exact obeys.allowed entry earlier
    · rw [List.mem_singleton.mp last]
      exact finished.1

private theorem obeys_afterPump (obeys : Obeys rule connection.emission)
    (room : rule.room connection.session.clientWindow ipHeader tcpheader) :
    Obeys rule (afterPump ipHeader tcpheader connection).emission := by
  rw [afterPump]
  split
  · exact obeys_sendFin obeys room
  · split
    · exact obeys
    · exact obeys

theorem obeys_pumpToClient (obeys : Obeys rule connection.emission) :
    Obeys rule (pumpToClient connection).emission := by
  rw [pumpToClient]
  split
  · next ipHeader tcpheader lastIp lastTcp =>
    have room := obeys.room ipHeader tcpheader lastIp lastTcp
    have positive := maxSegment_pos connection.session
    have same : maxSegment connection.session = rule.segMax := obeys.limit
    rw [same] at positive ⊢
    have staged :=
      obeys_pumpStaged positive connection.session.receivingStreamSize obeys
        room
    exact obeys_afterPump staged.1 staged.2
  · exact obeys

end Pump

private theorem emission_closeSession (connection : TcpConnection) :
    connection.closeSession.emission = connection.emission := by
  rw [TcpConnection.closeSession]
  split
  · rfl
  · rfl

theorem emission_removeAborted (connection : TcpConnection) :
    connection.removeAborted.emission = connection.emission := by
  rw [TcpConnection.removeAborted]
  rw [emission_closeSession]
  split
  · rfl
  · rfl

private theorem emission_addClientData (sequenceNumber : Int)
    (buffer : ByteBuffer) (connection : TcpConnection) :
    (connection.addClientData sequenceNumber buffer).2.emission =
      connection.emission := by
  rw [TcpConnection.addClientData]
  split
  · rfl
  · rw [Session.setSendingData]
    cases connection.session.protocol with
    | tcp => rfl
    | udp => rfl

private theorem emission_acceptAck (tcpHeader : TCPHeader) (currentTime : Int)
    (connection : TcpConnection) :
    (connection.updateSession
        (SessionHandler.acceptAck tcpHeader currentTime)).emission =
      connection.emission := by
  rw [TcpConnection.updateSession]
  by_cases advances :
    SessionHandler.Advances connection.session tcpHeader
  · rw [SessionHandler.acceptAck_advances advances]
    rfl
  · rw [SessionHandler.acceptAck_stale advances]
    rfl

private theorem emission_handleData (segment : ClientSegment)
    (currentTime : Int)
    (connection : TcpConnection) :
    (SessionHandler.handleData segment currentTime connection).emission =
      connection.emission := by
  rw [SessionHandler.handleData]
  split
  · dsimp only
    rw [SessionHandler.sendAck, emission_write_other (by decide) rfl]
    exact emission_addClientData _ _ connection
  · exact emission_write_other (by decide) rfl

private theorem emission_handleAck (segment : ClientSegment)
    (currentTime : Int)
    (connection : TcpConnection) :
    (SessionHandler.handleAck segment currentTime connection).emission =
      connection.emission := by
  have accepted :=
    emission_acceptAck segment.tcpheader currentTime connection
  rw [SessionHandler.handleAck]
  split
  · rw [← accepted]
    exact emission_write_other (by decide) rfl
  · split
    · rw [emission_closeSession, accepted]
    · exact accepted

private theorem emission_resetTCPConnection (connection : TcpConnection) :
    (SessionHandler.resetTCPConnection connection).emission =
      connection.emission := by
  rw [SessionHandler.resetTCPConnection]
  split
  · rfl
  · rfl

private theorem emission_handleFlags (segment : ClientSegment)
    (currentTime : Int)
    (connection : TcpConnection) :
    (SessionHandler.handleFlags segment currentTime connection).emission =
      connection.emission := by
  rw [SessionHandler.handleFlags]
  split
  · rfl
  · split
    · rw [SessionHandler.ackFinAck]
      have closed :=
        emission_closeSession
          ((SessionHandler.writeFinAck segment currentTime
            connection).updateSession Session.cancelKey)
      exact closed.trans (emission_write_other (by decide) rfl)
    · split
      · exact emission_resetTCPConnection connection
      · rfl

/-- The segment's headers become the last headers, and it sets the window.
-/
private theorem emission_handleBody (segment : ClientSegment)
    (currentTime : Int)
    (connection : TcpConnection) :
    (SessionHandler.handleBody segment currentTime connection).emission =
      { connection.emission with
        clientWindow :=
          shiftLeft64 segment.tcpheader.unsignedWindow
            connection.session.clientWindowScale
        lastIpHeader := some segment.ipHeader
        lastTcpHeader := some segment.tcpheader } := by
  rw [SessionHandler.handleBody]
  dsimp only
  split
  · exact emission_handleData segment currentTime _
  · exact emission_handleAck segment currentTime _

private theorem emission_handleUnknown (segment : ClientSegment)
    (currentTime : Int) (connection : TcpConnection) :
    (SessionHandler.handleUnknown segment currentTime
        connection).emission =
      connection.emission := by
  rw [SessionHandler.handleUnknown]
  split
  · exact emission_write_other (by decide) rfl
  · split
    · rfl
    · exact emission_write_other (by decide) rfl

private theorem emission_resendAck (currentTime : Int)
    (connection : TcpConnection) :
    (SessionHandler.resendAck currentTime connection).emission =
      connection.emission := by
  rw [SessionHandler.resendAck]
  split
  · exact emission_write_other (by decide) rfl
  · rfl

/-- A segment that does not reach the session's monitor block emits no data
and leaves headers and window alone. -/
private theorem emission_handleTCPPacket {segment : ClientSegment}
    {connection : TcpConnection}
    (outside : ¬ SessionHandler.Reaches connection segment)
    (currentTime : Int) :
    (SessionHandler.handleTCPPacket segment currentTime
        connection).emission =
      connection.emission := by
  rw [SessionHandler.handleTCPPacket]
  split
  · split
    · exact emission_resendAck currentTime connection
    · rfl
  · next notSyn =>
    split
    · next ack =>
      split
      · next tracked =>
        exact (outside ⟨tracked, Bool.eq_false_iff.mpr notSyn, ack⟩).elim
      · exact emission_handleUnknown segment currentTime connection
    · split
      · split
        · rfl
        · exact emission_write_other (by decide) rfl
      · split
        · exact emission_resetTCPConnection connection
        · rfl

section Thread

variable {rule : SegmentRule} {segment : ClientSegment}
  {connection : TcpConnection}

/-- The rule has room for what the segment's headers and window lead to. -/
def SegmentRule.Admits (rule : SegmentRule) (connection : TcpConnection)
    (segment : ClientSegment) : Prop :=
  SessionHandler.Reaches connection segment →
    rule.room
      (shiftLeft64 segment.tcpheader.unsignedWindow
        connection.session.clientWindowScale)
      segment.ipHeader segment.tcpheader

private theorem obeys_handleSessionSegment
    (room :
      rule.room
        (shiftLeft64 segment.tcpheader.unsignedWindow
          connection.session.clientWindowScale)
        segment.ipHeader segment.tcpheader)
    (obeys : Obeys rule connection.emission) (currentTime : Int) :
    Obeys rule
      (SessionHandler.handleSessionSegment segment currentTime
        connection).emission := by
  have noted :
      Obeys rule
        { connection.emission with
          clientWindow :=
            shiftLeft64 segment.tcpheader.unsignedWindow
              connection.session.clientWindowScale
          lastIpHeader := some segment.ipHeader
          lastTcpHeader := some segment.tcpheader } := by
    refine ⟨obeys.limit, ?_, obeys.allowed⟩
    rintro _ _ ⟨⟩ ⟨⟩
    exact room
  have flagged :
      Obeys rule
        (SessionHandler.handleFlags segment currentTime
          (SessionHandler.handleBody segment currentTime
            connection)).emission := by
    rw [emission_handleFlags, emission_handleBody]
    exact noted
  rw [SessionHandler.handleSessionSegment, SessionHandler.finishSegment]
  split
  · exact flagged
  · exact obeys_pumpToClient flagged

theorem obeys_handleTCPPacket (admits : rule.Admits connection segment)
    (obeys : Obeys rule connection.emission) (currentTime : Int) :
    Obeys rule
      (SessionHandler.handleTCPPacket segment currentTime
        connection).emission := by
  by_cases reaches : SessionHandler.Reaches connection segment
  · rw [SessionHandler.handleTCPPacket_reaches reaches]
    exact obeys_handleSessionSegment (admits reaches) obeys currentTime
  · exact obeys.of_eq (emission_handleTCPPacket reaches currentTime)

end Thread

private theorem emission_writePendingData (outcomes : List WriteOutcome)
    (connection : TcpConnection) :
    (SocketChannelWriter.writePendingData outcomes
        connection).1.emission =
      connection.emission := by
  rw [SocketChannelWriter.writePendingData_connection]
  rfl

private theorem emission_writeTCP (outcomes : List WriteOutcome)
    (connection : TcpConnection) :
    (SocketChannelWriter.writeTCP outcomes connection).1.emission =
      connection.emission := by
  have pending := emission_writePendingData outcomes connection
  rcases SocketChannelWriter.writeTCP_ends outcomes connection with
    same | ⟨ipHeader, tcpheader, reset⟩
  · rw [same]
    exact pending
  · rw [reset]
    exact (emission_write_other (by decide) rfl).trans pending

theorem emission_processPendingWrite
    (ready : SocketNIODataService.Readiness) (connection : TcpConnection) :
    (SocketNIODataService.processPendingWrite ready connection).emission =
      connection.emission := by
  rw [SocketNIODataService.processPendingWrite]
  split
  · rfl
  · split
    · rw [SocketChannelWriter.write]
      have written :=
        emission_writeTCP ready.writes
          (connection.updateSession (Session.unsubscribeKey .write))
      dsimp only
      split
      · exact (emission_removeAborted _).trans written
      · exact written
    · rfl

theorem emission_readFailed (exception : SocketException)
    (connection : TcpConnection) :
    (readFailed exception connection).emission = connection.emission := by
  cases exception with
  | notYetConnected => rfl
  | closedByInterrupt => rfl
  | closedChannel => rfl
  | other => rfl

section Calls

open SocketNIODataService

variable {rule : SegmentRule} {connection : TcpConnection}

/-- Only the pump emits.  The induction follows the outcomes of the reads.
-/
private theorem obeys_readLoop (outcomes : List ReadOutcome)
    {connection : TcpConnection} (obeys : Obeys rule connection.emission) :
    Obeys rule (readLoop outcomes connection).1.emission := by
  induction outcomes generalizing connection with
  | nil =>
      rw [readLoop]
      split
      · exact obeys
      · exact obeys
  | cons outcome later inductionHypothesis =>
      rw [readLoop]
      split
      · exact obeys
      · dsimp only
        generalize connection.channel.read outcome = answered
        obtain ⟨result, channel⟩ := answered
        have noted :
            Obeys rule { connection with channel }.emission :=
          obeys
        cases result with
        | data chunk =>
            apply inductionHypothesis
            rw [sendToRequester]
            apply obeys_pumpToClient
            exact noted
        | nothing => exact noted
        | endOfStream =>
            rw [endUpstream]
            apply obeys_pumpToClient
            exact noted
        | failure exception =>
            exact noted.of_eq (emission_readFailed exception _)

private theorem obeys_readTCP (outcomes : List ReadOutcome)
    (obeys : Obeys rule connection.emission) :
    Obeys rule (readTCP outcomes connection).1.emission := by
  rw [readTCP]
  split
  · exact obeys
  · exact obeys_readLoop outcomes obeys

theorem obeys_processSelectorRead (ready : Readiness)
    (obeys : Obeys rule connection.emission) :
    Obeys rule (processSelectorRead ready connection).emission := by
  rw [processSelectorRead]
  split
  · have looped := obeys_readTCP ready.reads obeys
    obtain ⟨key, _, ended⟩ := read_ended ready.reads connection
    have same :
        (SocketChannelReader.read ready.reads connection).1.emission =
          (readTCP ready.reads connection).1.emission := by
      rw [ended]
      dsimp only
      split
      · exact emission_removeAborted _
      · rfl
    exact looped.of_eq same
  · exact obeys

private theorem obeys_processConnectedSelection (ready : Readiness)
    (obeys : Obeys rule connection.emission) :
    Obeys rule (processConnectedSelection ready connection).emission := by
  rw [processConnectedSelection]
  apply
    Obeys.of_eq ?_ (emission_processPendingWrite ready _)
  apply obeys_processSelectorRead
  exact obeys

private theorem obeys_runSelectedKey (ready : Readiness)
    (obeys : Obeys rule connection.emission) :
    Obeys rule (runSelectedKey ready connection).emission := by
  have selected := runSelectedKey_selected ready connection
  generalize runSelectedKey ready connection = after at selected ⊢
  cases selected with
  | unchanged => exact obeys
  | refused => exact obeys
  | waiting => exact obeys
  | selected => exact obeys_processConnectedSelection ready obeys
  | answered connected =>
      apply obeys_processConnectedSelection
      exact obeys

/-- The rule has room for what the step brings. -/
def StepAdmitted (rule : SegmentRule) (connection : TcpConnection) :
    AtomicStep → Prop
  | .handleTCPPacket segment _ => rule.Admits connection segment
  | .processSelectionKey _ => True

private theorem obeys_atomicStep (connection : TcpConnection)
    (step : AtomicStep)
    (admitted : StepAdmitted rule connection step)
    (obeys : Obeys rule connection.emission) :
    Obeys rule (atomicStep connection step).emission := by
  cases step with
  | handleTCPPacket segment currentTime =>
      exact obeys_handleTCPPacket admitted obeys currentTime
  | processSelectionKey ready => exact obeys_runSelectedKey ready obeys

/-- The rule has room for what the call brings. -/
def CallAdmitted (rule : SegmentRule) (connection : TcpConnection) :
    DownloadCall → Prop
  | .atomic step => StepAdmitted rule connection step
  | .readTCP _ => True
  | .pumpToClient => True

theorem obeys_downloadCall (connection : TcpConnection)
    (call : DownloadCall) (admitted : CallAdmitted rule connection call)
    (obeys : Obeys rule connection.emission) :
    Obeys rule (downloadCall connection call).emission := by
  cases call with
  | atomic step => exact obeys_atomicStep connection step admitted obeys
  | readTCP outcomes => exact obeys_readTCP outcomes obeys
  | pumpToClient => exact obeys_pumpToClient obeys

end Calls

/-- A session just opened, whose rule has room for the headers of its SYN. -/
theorem obeys_replySynAck {rule : SegmentRule} {syn : ClientSegment}
    {opening : SessionHandler.Opening}
    (limit :
      maxSegment (SessionHandler.replySynAck syn opening).session =
        rule.segMax)
    (room :
      rule.room syn.tcpheader.unsignedWindow syn.ipHeader syn.tcpheader) :
    Obeys rule (SessionHandler.replySynAck syn opening).emission := by
  refine ⟨limit, ?_, ?_⟩
  · rintro _ _ ⟨⟩ ⟨⟩
    exact room
  · intro entry written
    cases written

/-- Whatever is sent, the headers it is built from are complete. -/
def completeRule (segMax : Int) : SegmentRule where
  segMax := segMax
  allows := fun _ => True
  room := fun _ ipHeader tcpheader =>
    ipHeader.Complete ∧ tcpheader.Complete
  segment := fun _ _ _ _ _ _ _ _ => trivial
  fin := by
    rintro window ipHeader tcpheader ⟨ip, tcp⟩ ackNumber seqNumber
      timeSender timeReplyTo
    refine ⟨trivial, ?_, ⟨tcp.long, tcp.short, rfl⟩⟩
    apply TCPPacketFactory.setPayloadLength_complete
    cases ipHeader with
    | v4 header =>
        exact
          ⟨ip.long, ip.short, ip.destination_length, ip.source_length⟩
    | v6 header => exact ⟨ip.destination_length, ip.source_length⟩

/-- The headers of a client's segments have room for their own fields. -/
def StepComplete : AtomicStep → Prop
  | .handleTCPPacket segment _ => segment.Complete
  | .processSelectionKey _ => True

private theorem obeys_complete_step {segMax : Int}
    (connection : TcpConnection)
    (step : AtomicStep) (complete : StepComplete step)
    (obeys : Obeys (completeRule segMax) connection.emission) :
    Obeys (completeRule segMax) (atomicStep connection step).emission := by
  apply obeys_atomicStep connection step ?_ obeys
  cases step with
  | handleTCPPacket segment currentTime =>
      exact fun _ => ⟨complete.ip, complete.tcp⟩
  | processSelectionKey ready => trivial

/-- In every run of complete segments the last headers are complete. -/
theorem complete_run {syn : ClientSegment} (synComplete : syn.Complete)
    (opening : SessionHandler.Opening) {steps : List AtomicStep}
    (complete : ∀ step ∈ steps, StepComplete step) :
    ∃ segMax,
      Obeys (completeRule segMax)
        (run atomicStep (SessionHandler.replySynAck syn opening)
          steps).emission := by
  have opened :
      Obeys
        (completeRule
          (maxSegment (SessionHandler.replySynAck syn opening).session))
        (SessionHandler.replySynAck syn opening).emission :=
    obeys_replySynAck rfl ⟨synComplete.ip, synComplete.tcp⟩
  have met :=
    StepsMeet.and_forall complete
      (@StepsMeet.of_forall TcpConnection AtomicStep atomicStep
        (fun _ _ => True) (fun _ _ => trivial) steps
        (SessionHandler.replySynAck syn opening))
  exact
    ⟨_, run_guarded_invariant
      (fun connection step met => obeys_complete_step connection step met.1)
      steps opened met⟩

/-- A packet without data behind complete headers is serialised. -/
theorem WrittenPacket.serialised_of_complete {entry : WrittenPacket}
    (ip : entry.packet.ipHeader.Complete)
    (tcp : entry.packet.transportHeader.Complete)
    (empty : entry.packet.data = []) : entry.Serialised := by
  have words := tcp.short
  have tcp_length :
      entry.packet.transportHeader.getTCPHeaderLength =
        entry.packet.transportHeader.dataOffset * 4 := rfl
  have ip_length : entry.packet.ipHeader.headerLength ≤ 60 := by
    cases header_eq : entry.packet.ipHeader with
    | v4 header =>
        rw [header_eq] at ip
        have short := ip.short
        change header.internetHeaderLength * 4 ≤ 60
        omega
    | v6 header => exact Nat.le_add_right 40 20
  intro packetId
  obtain ⟨data, built⟩ :=
    @TCPPacketFactory.createPacketData_built entry.packet.ipHeader
      entry.packet.transportHeader entry.packet.data ip tcp
      (by rw [empty, tcp_length, List.length_nil]; omega) packetId
  refine ⟨data, built, (WrittenPacket.fits_iff built).mpr ?_⟩
  rw [WrittenPacket.size, headersLength, empty, tcp_length,
    List.length_nil, maxWritePacketSize]
  omega

end LanShield.Vpn
