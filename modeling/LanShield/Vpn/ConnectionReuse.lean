import LanShield.Vpn.FailureCleanup

/-!
# A SYN behind a reset

`resetTCPConnection` leaves the session in the table and marks it as
aborting; the NIO thread removes it when the session's key is selected next.
A SYN finds the tuple free only if something has removed the session by then.
-/

namespace LanShield.Vpn

open LanShield.Library LanShield.Java LanShield.Transport

namespace SocketNIODataService

/-- `processSelectorRead` ends with an aborting session. -/
def readRemoves (ready : Readiness) (connection : TcpConnection) : Bool :=
  connection.session.selectionkey.isValid && ready.isReadable &&
    (SocketChannelReader.readTCP ready.reads
      connection).1.session.abortingConnection

/-- `writePendingData` throws an `IOException`. -/
def writeThrows (outcomes : List WriteOutcome)
    (connection : TcpConnection) : Bool :=
  (SocketChannelWriter.writePendingDataThrows outcomes connection).any
    SocketException.isIOException

/-- `processPendingWrite` writes for a session that is aborting, or fails.
-/
def writeRemoves (ready : Readiness) (connection : TcpConnection) : Bool :=
  connection.session.hasDataToSend &&
    connection.session.isDataForSendingReady &&
    (connection.session.selectionkey.isValid && ready.isWritable) &&
    (connection.session.abortingConnection ||
      writeThrows ready.writes connection)

def selectionRemoves (ready : Readiness)
    (connection : TcpConnection) : Bool :=
  let subscribed :=
    connection.updateSession fun session =>
      (session.unsubscribeKey .connect).subscribeKey .read
  readRemoves ready subscribed ||
    writeRemoves ready (processSelectorRead ready subscribed)

/-- The event reaches `processConnectedSelection` and removes the session
there. -/
def eventRemoves (ready : Readiness) (connection : TcpConnection) : Bool :=
  connection.session.selectionkey.isValid &&
    if !connection.session.isConnected && ready.isConnectable then
      connection.channel.isConnectionPending &&
        match ready.connected with
        | none => false
        | some connected =>
            (connectAnswered connected connection).channel.isConnected &&
              selectionRemoves ready (connectAnswered connected connection)
    else
      connection.channel.isConnected && selectionRemoves ready connection

end SocketNIODataService

section Removing

open SocketNIODataService

variable {guarded : Prop} {route : Route} {connection : TcpConnection}

private theorem tracked_read (outcomes : List ReadOutcome)
    (noted : EndNoted connection) :
    (SocketChannelReader.read outcomes connection).1.tracked =
      (connection.tracked &&
        !(SocketChannelReader.readTCP outcomes
          connection).1.session.abortingConnection) := by
  have looped :
      (SocketChannelReader.readTCP outcomes connection).1.tracked =
        connection.tracked := by
    refine
      @Effects.view_eq Bool ReadEffect TcpConnection.tracked ?_ _ _
        (readTCP_effects outcomes noted)
    intro before after effect
    cases effect with
    | pump effect => cases effect <;> rfl
    | stage => rfl
    | endUpstream => rfl
    | abort => rfl
  obtain ⟨key, _, ended⟩ := read_ended outcomes connection
  rw [ended]
  dsimp only
  split
  · next aborting =>
    have abortingBefore :
        (SocketChannelReader.readTCP outcomes
          connection).1.session.abortingConnection = true :=
      aborting
    rw [TcpConnection.tracked_removeAborted, abortingBefore, Bool.not_true,
      Bool.and_false]
  · next notAborting =>
    have goingOn :
        (SocketChannelReader.readTCP outcomes
          connection).1.session.abortingConnection = false :=
      Bool.eq_false_iff.mpr notAborting
    rw [goingOn, Bool.not_false, Bool.and_true]
    exact looped

private theorem tracked_processSelectorRead (ready : Readiness)
    (noted : EndNoted connection) :
    (processSelectorRead ready connection).tracked =
      (connection.tracked && !readRemoves ready connection) := by
  rw [processSelectorRead, readRemoves]
  split
  · next readable =>
    rw [readable, Bool.true_and]
    exact tracked_read ready.reads noted
  · next unreadable =>
    rw [Bool.eq_false_iff.mpr unreadable]
    simp

/-- Whether `writeTCP` leaves the session aborting. -/
private theorem abortingConnection_writeTCP (outcomes : List WriteOutcome)
    (known : connection.session.lastRoute ≠ none) :
    (SocketChannelWriter.writeTCP outcomes
        connection).1.session.abortingConnection =
      (connection.session.abortingConnection ||
        writeThrows outcomes connection) := by
  have same :
      (SocketChannelWriter.writePendingData outcomes
          connection).1.session.abortingConnection =
        connection.session.abortingConnection := by
    rw [SocketChannelWriter.writePendingData_connection]
  by_cases throws : writeThrows outcomes connection = true
  · obtain ⟨exception, thrown, io⟩ := Option.any_eq_true _ _ |>.mp throws
    obtain ⟨ipHeader, tcpheader, hasIp, hasTcp⟩ :=
      Session.exists_of_lastRoute known
    rw [SocketChannelWriter.writeTCP_failed thrown io,
      writeFailed_pending outcomes hasIp hasTcp, throws, Bool.or_true]
    rfl
  · have succeeds (exception : SocketException)
        (thrown :
          SocketChannelWriter.writePendingDataThrows outcomes connection =
            some exception) :
        exception.isIOException = false := by
      by_contra io
      apply throws
      rw [writeThrows]
      rw [thrown]
      exact Bool.eq_true_of_not_eq_false io
    rw [SocketChannelWriter.writeTCP_unfailed succeeds, same,
      Bool.eq_false_iff.mpr throws, Bool.or_false]

private theorem tracked_writeTCP (outcomes : List WriteOutcome) :
    (SocketChannelWriter.writeTCP outcomes connection).1.tracked =
      connection.tracked := by
  have same :
      (SocketChannelWriter.writePendingData outcomes
          connection).1.tracked =
        connection.tracked := by
    rw [SocketChannelWriter.writePendingData_connection]
  rcases SocketChannelWriter.writeTCP_ends outcomes connection with
    pending | ⟨ipHeader, tcpheader, reset⟩
  · rw [pending]
    exact same
  · rw [reset]
    exact same

private theorem tracked_write (outcomes : List WriteOutcome)
    (known : connection.session.lastRoute ≠ none) :
    (SocketChannelWriter.write outcomes connection).1.tracked =
      (connection.tracked &&
        !(connection.session.abortingConnection ||
          writeThrows outcomes connection)) := by
  rw [← abortingConnection_writeTCP outcomes known]
  rw [SocketChannelWriter.write]
  dsimp only
  split
  · next aborting =>
    rw [TcpConnection.tracked_removeAborted, aborting, Bool.not_true,
      Bool.and_false]
  · next notAborting =>
    rw [Bool.eq_false_iff.mpr notAborting, Bool.not_false, Bool.and_true]
    exact tracked_writeTCP outcomes

private theorem tracked_processPendingWrite (ready : Readiness)
    (known : connection.session.lastRoute ≠ none) :
    (processPendingWrite ready connection).tracked =
      (connection.tracked && !writeRemoves ready connection) := by
  rw [processPendingWrite, writeRemoves]
  by_cases pending :
      (connection.session.hasDataToSend &&
        connection.session.isDataForSendingReady) = true
  · have notIdle :
        ¬ (!connection.session.hasDataToSend ||
          !connection.session.isDataForSendingReady) = true := by
      rw [← Bool.not_and, pending]
      exact Bool.false_ne_true
    rw [if_neg notIdle, pending, Bool.true_and]
    split
    · next writable =>
      rw [writable, Bool.true_and]
      exact
        @tracked_write
          (connection.updateSession (Session.unsubscribeKey .write))
          ready.writes known
    · next unwritable =>
      rw [Bool.eq_false_iff.mpr unwritable, Bool.false_and, Bool.not_false,
        Bool.and_true]
  · have idle :
        (!connection.session.hasDataToSend ||
          !connection.session.isDataForSendingReady) = true := by
      rw [← Bool.not_and, Bool.eq_false_iff.mpr pending]
      rfl
    rw [if_pos idle, Bool.eq_false_iff.mpr pending, Bool.false_and,
      Bool.false_and, Bool.not_false, Bool.and_true]
    rfl

private theorem tracked_processConnectedSelection (ready : Readiness)
    (noted : EndNoted connection)
    (directed : Directed guarded route connection) :
    (processConnectedSelection ready connection).tracked =
      (connection.tracked && !selectionRemoves ready connection) := by
  have still :
      EndNoted
        (connection.updateSession fun session =>
          (session.unsubscribeKey .connect).subscribeKey .read) :=
    noted
  have subscribed :
      Directed guarded route
        (connection.updateSession fun session =>
          (session.unsubscribeKey .connect).subscribeKey .read) :=
    directed.of_same rfl rfl rfl id
  have read := directed_processSelectorRead ready still subscribed
  rw [processConnectedSelection, selectionRemoves]
  rw [tracked_processPendingWrite ready read.known,
    tracked_processSelectorRead ready still, Bool.not_or, Bool.and_assoc]
  rfl

/-- Whether the session is still in the table after an event. -/
private theorem tracked_runSelectedKey (ready : Readiness)
    (noted : EndNoted connection)
    (directed : Directed guarded route connection) :
    (runSelectedKey ready connection).tracked =
      (connection.tracked && !eventRemoves ready connection) := by
  rw [runSelectedKey, processSelectionKey, eventRemoves]
  by_cases valid : connection.session.selectionkey.isValid = true
  · rw [if_pos valid, valid, Bool.true_and]
    by_cases connects :
        (!connection.session.isConnected && ready.isConnectable) = true
    · rw [if_pos connects, if_pos connects]
      rw [finishConnecting]
      by_cases pending : connection.channel.isConnectionPending = true
      · rw [if_pos pending, pending, Bool.true_and]
        cases ready.connected with
        | none =>
            rw [Bool.not_false, Bool.and_true]
            rfl
        | some connected =>
            have answered :
                Directed guarded route
                  (connectAnswered connected connection) :=
              directed.of_same rfl rfl rfl id
            have still :
                EndNoted (connectAnswered connected connection) := by
              cases connected with
              | false => exact noted
              | true => exact noted
            by_cases reached :
                (connectAnswered connected
                  connection).channel.isConnected = true
            · simp only [reached, if_true, Bool.true_and]
              exact tracked_processConnectedSelection ready still answered
            · simp only [Bool.eq_false_iff.mpr reached, Bool.false_eq_true,
                if_false, Bool.false_and, Bool.not_false, Bool.and_true]
              rfl
      · rw [if_neg pending, Bool.eq_false_iff.mpr pending, Bool.false_and,
          Bool.not_false, Bool.and_true]
    · rw [if_neg connects, if_neg connects]
      by_cases reached : connection.channel.isConnected = true
      · simp only [reached, if_true, Bool.true_and]
        exact tracked_processConnectedSelection ready noted directed
      · simp only [Bool.eq_false_iff.mpr reached, Bool.false_eq_true,
          if_false, Bool.false_and, Bool.not_false, Bool.and_true]
  · rw [if_neg valid, Bool.eq_false_iff.mpr valid, Bool.false_and,
      Bool.not_false, Bool.and_true]

/-- A session that is aborting is removed as soon as it is read for, or
written for. -/
theorem selectionRemoves_aborting {ready : Readiness}
    (valid : connection.session.selectionkey.isValid = true)
    (aborting : connection.session.abortingConnection = true) :
    selectionRemoves ready connection =
      (ready.isReadable ||
        connection.session.hasDataToSend &&
          connection.session.isDataForSendingReady && ready.isWritable) := by
  have validStill :
      (connection.updateSession fun session =>
          (session.unsubscribeKey .connect).subscribeKey
            .read).session.selectionkey.isValid = true := by
    simp only [TcpConnection.updateSession, Session.subscribeKey,
      Session.unsubscribeKey, SelectionKey.isValid_changeInterest, valid]
  unfold selectionRemoves
  dsimp only
  generalize subscribed_eq :
      (connection.updateSession fun session =>
        (session.unsubscribeKey .connect).subscribeKey .read) =
    subscribed at validStill ⊢
  have abortingStill : subscribed.session.abortingConnection = true := by
    rw [← subscribed_eq]
    exact aborting
  have skipped :
      SocketChannelReader.readTCP ready.reads subscribed =
        (subscribed, 0) :=
    if_pos abortingStill
  rw [readRemoves]
  rw [skipped, validStill, abortingStill, Bool.true_and, Bool.and_true]
  cases readable : ready.isReadable with
  | true => rfl
  | false =>
      have unread : processSelectorRead ready subscribed = subscribed := by
        rw [processSelectorRead]
        rw [readable, Bool.and_false]
        rfl
      rw [unread, Bool.false_or, Bool.false_or]
      rw [writeRemoves]
      rw [validStill, abortingStill, Bool.true_or, Bool.and_true,
        Bool.true_and, ← subscribed_eq]
      rfl

end Removing

section Resetting

open SessionHandler

/-- The segment is a FIN for which `ackFinAck` closes the session. -/
def ClosesAtOnce (segment : ClientSegment) : Prop :=
  segment.tcpheader.isSYN = false ∧ segment.tcpheader.isACK = true ∧
    segment.tcpheader.isPSH = false ∧ segment.tcpheader.isFIN = true

instance (segment : ClientSegment) : Decidable (ClosesAtOnce segment) :=
  inferInstanceAs (Decidable (_ ∧ _))

variable {connection : TcpConnection} {segment : ClientSegment}

theorem tracked_addClientData (sequenceNumber : Int)
    (buffer : ByteBuffer) (connection : TcpConnection) :
    (connection.addClientData sequenceNumber buffer).2.tracked =
      connection.tracked := by
  rw [TcpConnection.addClientData]
  split
  · rfl
  · rfl

private theorem tracked_handleBody (currentTime : Int)
    (notClosing : connection.session.closingConnection = false) :
    (handleBody segment currentTime connection).tracked =
      connection.tracked := by
  unfold handleBody
  dsimp only
  split
  · rw [handleData]
    split
    · exact tracked_addClientData _ _ _
    · rfl
  · rw [handleAck_eq]
    · rfl
    · exact notClosing

private theorem tracked_pumpToClient (connection : TcpConnection) :
    (SocketChannelReader.pumpToClient connection).tracked =
      connection.tracked := by
  refine
    @Effects.view_eq Bool PumpEffect TcpConnection.tracked ?_ _ _
      (pumpToClient_effects connection)
  intro before after effect
  cases effect <;> rfl

private theorem tracked_finishSegment (connection : TcpConnection) :
    (finishSegment connection).tracked =
      (connection.tracked ||
        !connection.session.abortingConnection) := by
  rw [finishSegment]
  split
  · next aborting => rw [aborting, Bool.not_true, Bool.or_false]
  · next notAborting =>
    rw [tracked_pumpToClient, Bool.eq_false_iff.mpr notAborting,
      Bool.not_false, Bool.or_true]
    rfl

private theorem tracked_ackFinAck (currentTime : Int) :
    (ackFinAck segment currentTime connection).tracked = false :=
  TcpConnection.tracked_closeSession _

private theorem tracked_resetTCPConnection (connection : TcpConnection) :
    (resetTCPConnection connection).tracked = connection.tracked := by
  rw [resetTCPConnection]
  split
  · rfl
  · rfl

theorem tracked_handleFlags (currentTime : Int)
    (tracked : connection.tracked = true) :
    (finishSegment
        (handleFlags segment currentTime connection)).tracked = false ↔
      segment.tcpheader.isPSH = false ∧
        segment.tcpheader.isFIN = true := by
  rw [handleFlags]
  cases segment.tcpheader.isPSH with
  | true =>
      rw [if_pos rfl, tracked_finishSegment]
      simp [TcpConnection.updateSession, tracked]
  | false =>
      rw [if_neg Bool.false_ne_true]
      cases segment.tcpheader.isFIN with
      | true =>
          rw [if_pos rfl, tracked_finishSegment, tracked_ackFinAck]
          simp [ackFinAck, TcpConnection.updateSession]
      | false =>
          rw [if_neg Bool.false_ne_true, tracked_finishSegment]
          split
          · simp [tracked_resetTCPConnection, tracked]
          · simp [tracked]

/-- Whether a segment takes the session out of the table. -/
private theorem tracked_handleTCPPacket (currentTime : Int)
    (notClosing : connection.session.closingConnection = false)
    (tracked : connection.tracked = true) :
    (handleTCPPacket segment currentTime connection).tracked = false ↔
      ClosesAtOnce segment := by
  rw [handleTCPPacket, ClosesAtOnce]
  cases syn : segment.tcpheader.isSYN with
  | true =>
      rw [if_pos rfl, if_pos tracked]
      rw [resendAck]
      split
      · simp [TcpConnection.write, tracked]
      · simp [tracked]
  | false =>
      rw [if_neg Bool.false_ne_true]
      cases ack : segment.tcpheader.isACK with
      | true =>
          rw [if_pos rfl, if_pos tracked]
          rw [handleSessionSegment]
          rw [tracked_handleFlags]
          · simp
          · exact (tracked_handleBody currentTime notClosing).trans tracked
      | false =>
          rw [if_neg Bool.false_ne_true, if_pos tracked]
          split
          · simp [TcpConnection.keepSessionAlive]
          · split
            · simp [tracked_resetTCPConnection, tracked]
            · simp [tracked]

/-- A RST that `resetTCPConnection` is called for marks the session. -/
theorem abortingConnection_handleTCPPacket (currentTime : Int)
    (notClosing : connection.session.closingConnection = false)
    (tracked : connection.tracked = true)
    (rst : segment.tcpheader.isRST = true)
    (notSyn : segment.tcpheader.isSYN = false)
    (notFin : segment.tcpheader.isFIN = false)
    (notPsh :
      segment.tcpheader.isACK = true → segment.tcpheader.isPSH = false) :
    (handleTCPPacket segment currentTime
      connection).session.abortingConnection = true := by
  rw [handleTCPPacket]
  rw [notSyn, if_neg Bool.false_ne_true]
  cases ack : segment.tcpheader.isACK with
  | true =>
      rw [if_pos rfl, if_pos tracked]
      have trackedStill :
          (handleBody segment currentTime connection).tracked = true :=
        (tracked_handleBody currentTime notClosing).trans tracked
      rw [handleSessionSegment, handleFlags, resetTCPConnection]
      rw [notPsh ack, if_neg Bool.false_ne_true, notFin,
        if_neg Bool.false_ne_true, rst, if_pos rfl, if_pos trackedStill]
      rfl
  | false =>
      rw [if_neg Bool.false_ne_true, notFin, if_neg Bool.false_ne_true,
        rst, if_pos rfl]
      rw [resetTCPConnection]
      rw [if_pos tracked]
      rfl

end Resetting

/-- `handleTCPPacket` for a SYN: the connection the table has for the tuple
then. -/
def answerSyn (syn : ClientSegment) (opening : SessionHandler.Opening)
    (connection : TcpConnection) : TcpConnection :=
  if connection.tracked then
    SessionHandler.handleTCPPacket syn opening.currentTime connection
  else
    SessionHandler.replySynAck syn opening

/-- The tuple belongs to a new session, whose client has been sent one
packet: a SYN-ACK for this SYN, built and not dropped. -/
structure AnsweredAfresh (syn : ClientSegment) (answer : TcpConnection) :
    Prop where
  tracked : answer.tracked = true
  synAck :
    ∃ entry,
      answer.written = [entry] ∧
        entry.Serialised ∧
        entry.packet.transportHeader.isSYN = true ∧
        entry.packet.transportHeader.isACK = true ∧
        unsigned32 entry.packet.transportHeader.ackNumber =
          unsigned32 (unsigned32 syn.tcpheader.sequenceNumber + 1)

private theorem answeredAfresh_replySynAck {syn : ClientSegment}
    (complete : syn.Complete) (opening : SessionHandler.Opening) :
    AnsweredAfresh syn (SessionHandler.replySynAck syn opening) := by
  refine ⟨rfl, _, rfl, ?_, rfl, rfl, ?_⟩
  · apply WrittenPacket.serialised_of_complete
    · exact
        TCPPacketFactory.setPayloadLength_complete
          (TCPPacketFactory.flipIP_complete complete.ip) _
    · exact ⟨complete.tcp.long, complete.tcp.short, rfl⟩
    · rfl
  · exact (Int.emod_add_emod syn.tcpheader.sequenceNumber _ 1).symm

/-- A session in the table acknowledges the SYN instead. -/
private theorem not_answeredAfresh
    {syn : ClientSegment} {currentTime : Int} {connection : TcpConnection}
    (isSyn : syn.tcpheader.isSYN = true)
    (tracked : connection.tracked = true)
    (known : connection.session.lastRoute ≠ none) :
    ¬ AnsweredAfresh syn
      (SessionHandler.handleTCPPacket syn currentTime connection) := by
  obtain ⟨ipHeader, tcpheader, hasIp, hasTcp⟩ :=
    Session.exists_of_lastRoute known
  intro afresh
  obtain ⟨entry, written, -, synFlag, _⟩ := afresh.synAck
  rw [SessionHandler.handleTCPPacket, SessionHandler.resendAck] at written
  rw [if_pos isSyn, if_pos tracked, hasIp, hasTcp] at written
  rcases List.append_eq_singleton_iff.mp written with
    ⟨_, last⟩ | ⟨_, nothing⟩
  · rw [← List.cons.inj last |>.1] at synFlag
    cases synFlag
  · cases nothing

/-- A session is out of the table behind some events exactly when it was
before, or one of them removed it. -/
private theorem untracked_run_iff {route : Route}
    (events : List SocketNIODataService.Readiness)
    {connection : TcpConnection}
    (reachable : Sound connection ∧ Directed False route connection) :
    (run (flip SocketNIODataService.runSelectedKey) connection
        events).tracked = false ↔
      connection.tracked = false ∨
        ∃ earlier ready later,
          events = earlier ++ ready :: later ∧
            SocketNIODataService.eventRemoves ready
              (run (flip SocketNIODataService.runSelectedKey) connection
                earlier) = true := by
  refine
    @run_reaches_iff TcpConnection SocketNIODataService.Readiness
      (flip SocketNIODataService.runSelectedKey)
      (fun connection =>
        Sound connection ∧ Directed False route connection)
      (fun connection => connection.tracked = false)
      (fun connection ready =>
        SocketNIODataService.eventRemoves ready connection = true)
      ?_ ?_ ?_ events connection reachable
  · intro before ready
    exact
      atomicStep_directed before (.processSelectionKey ready)
        ⟨trivial, False.elim⟩
  · rintro before ready ⟨sound, directed⟩ absent
    rw [flip]
    rw [tracked_runSelectedKey ready sound.noted directed, absent,
      Bool.false_and]
  · rintro before ready ⟨sound, directed⟩ present
    rw [flip]
    rw [tracked_runSelectedKey ready sound.noted directed,
      Bool.eq_true_of_not_eq_false present, Bool.true_and,
      Bool.not_eq_false']

/-- After a segment with RST of a client with complete headers the next SYN
opens a new session exactly when the segment itself closed the old one, or an
event has removed it since. -/
theorem reset_frees_tuple_iff
    {syn : ClientSegment} (opening : SessionHandler.Opening)
    {steps : List AtomicStep} {reset : ClientSegment} {currentTime : Int}
    (client :
      ClientRun syn (steps ++ [.handleTCPPacket reset currentTime]))
    (tracked :
      (run atomicStep (SessionHandler.replySynAck syn opening)
        steps).tracked = true)
    (events : List SocketNIODataService.Readiness)
    {again : ClientSegment} (isSyn : again.tcpheader.isSYN = true)
    (complete : again.Complete) (reopening : SessionHandler.Opening) :
    let handled :=
      SessionHandler.handleTCPPacket reset currentTime
        (run atomicStep (SessionHandler.replySynAck syn opening) steps)
    AnsweredAfresh again
        (answerSyn again reopening
          (run (flip SocketNIODataService.runSelectedKey) handled
            events)) ↔
      ClosesAtOnce reset ∨
        ∃ earlier ready later,
          events = earlier ++ ready :: later ∧
            SocketNIODataService.eventRemoves ready
              (run (flip SocketNIODataService.runSelectedKey) handled
                earlier) = true := by
  intro handled
  obtain ⟨sound, directed⟩ :=
    headers_run syn opening steps fun step member =>
      client.along step (List.mem_append_left _ member)
  have resetAlong : reset.route = syn.route :=
    client.along (.handleTCPPacket reset currentTime)
      (List.mem_append_right _ (List.mem_singleton.mpr rfl))
  have reachable :
      Sound handled ∧ Directed False syn.route handled :=
    atomicStep_directed _ (.handleTCPPacket reset currentTime)
      ⟨resetAlong, False.elim⟩ ⟨sound, directed⟩
  have untracked := untracked_run_iff events reachable
  rw [tracked_handleTCPPacket currentTime sound.notClosing tracked]
    at untracked
  rw [← untracked]
  have known :=
    (@run_invariant TcpConnection SocketNIODataService.Readiness
      (flip SocketNIODataService.runSelectedKey)
      (fun connection =>
        Sound connection ∧ Directed False syn.route connection)
      (fun before ready =>
        atomicStep_directed before (.processSelectionKey ready)
          ⟨trivial, False.elim⟩)
      events handled reachable).2.known
  rw [answerSyn]
  generalize run (flip SocketNIODataService.runSelectedKey) handled
    events = last at known ⊢
  cases present : last.tracked with
  | true =>
      rw [if_pos rfl]
      constructor
      · intro afresh
        exact (not_answeredAfresh isSyn present known afresh).elim
      · exact nofun
  | false =>
      rw [if_neg Bool.false_ne_true]
      exact
        iff_of_true (answeredAfresh_replySynAck complete reopening) rfl

/-- The client resets the session and reuses its port, while nothing happens
upstream: the new SYN gets an ACK of the old session. -/
theorem reset_session_acknowledges :
    let handled :=
      SessionHandler.handleTCPPacket (ClientSegment.plain 0x04 1 0 1000 [])
        0 (SessionHandler.openedConnection 0)
    let again := ClientSegment.plain 0x02 5000 0 1000 []
    ¬ AnsweredAfresh again
      (answerSyn again { random := 7, currentTime := 0, connected := true }
        handled) := by
  intro handled again afresh
  obtain ⟨entry, written, _⟩ := afresh.synAck
  have twice :
      (answerSyn again { random := 7, currentTime := 0, connected := true }
        handled).written.length = 2 := by
    decide
  rw [written] at twice
  cases twice

/-- A client that resets its session. -/
private theorem clientRun_reset :
    ClientRun (ClientSegment.plain 0x02 0 0 1000 [])
      ([] ++ [.handleTCPPacket (ClientSegment.plain 0x04 1 0 1000 []) 0])
    where
  opened := ClientSegment.plain_complete 0x02 0 0 1000 []
  along := by
    intro step member
    rw [List.mem_singleton.mp member]
    exact rfl
  complete := by
    intro step member
    rw [List.mem_singleton.mp member]
    exact ClientSegment.plain_complete 0x04 1 0 1000 []

/-- An upstream event in between frees the port. -/
theorem removed_session_replaced :
    let ready : SocketNIODataService.Readiness :=
      { isConnectable := false
        isReadable := true
        isWritable := false
        connected := none
        reads := [.endOfStream]
        writes := [] }
    let handled :=
      SessionHandler.handleTCPPacket (ClientSegment.plain 0x04 1 0 1000 [])
        0 (SessionHandler.openedConnection 0)
    let again := ClientSegment.plain 0x02 5000 0 1000 []
    AnsweredAfresh again
      (answerSyn again { random := 7, currentTime := 0, connected := true }
        (run (flip SocketNIODataService.runSelectedKey) handled
          [ready])) := by
  intro ready handled again
  exact
    (reset_frees_tuple_iff
      { random := 100, currentTime := 0, connected := true } clientRun_reset
      rfl [ready] rfl (ClientSegment.plain_complete 0x02 5000 0 1000 [])
      _).mpr
      (Or.inr ⟨[], ready, [], rfl, by decide⟩)

end LanShield.Vpn
