import LanShield.Vpn.AckSoundness
import LanShield.Vpn.UploadConservation
import LanShield.Vpn.UpstreamFailures

/-!
# The client closes its side

`ackFinAck` closes the upstream channel as soon as the FIN is handled, with
whatever the sending stream still holds.
-/

namespace LanShield.Vpn.ClientClose

open LanShield.Library LanShield.Java LanShield.Transport SessionHandler
  SocketNIODataService

/-! ## What the upload depends on -/

structure Upload where
  protocol : SessionProtocol
  sendingStream : List UInt8
  appended : List (Int × List UInt8)
  sent : List UInt8
  isOpen : Bool
  tracked : Bool
  isValid : Bool
  abortingConnection : Bool
  upstreamEof : Bool

def upload (connection : TcpConnection) : Upload where
  protocol := connection.session.protocol
  sendingStream := connection.session.sendingStream
  appended := connection.appended
  sent := connection.channel.sent
  isOpen := connection.channel.isOpen
  tracked := connection.tracked
  isValid := connection.session.selectionkey.isValid
  abortingConnection := connection.session.abortingConnection
  upstreamEof := connection.session.upstreamEof

namespace Upload

/-- A payload joins the sending stream. -/
def append (segment : ClientSegment) (before : Upload) : Upload :=
  { before with
    sendingStream := before.sendingStream ++ segment.payload
    appended :=
      before.appended ++
        [(segment.tcpheader.sequenceNumber, segment.payload)] }

/-- The channel is closed and the session removed. -/
def close (before : Upload) : Upload :=
  { before with
    isOpen := false
    tracked := false
    isValid := false
    abortingConnection := true }

end Upload

private theorem upload_changeInterest (op : SelectionOp) (interested : Bool)
    (connection : TcpConnection) :
    upload
        (connection.updateSession fun session =>
          { session with
            selectionkey :=
              session.selectionkey.changeInterest op interested }) =
      upload connection := by
  unfold upload TcpConnection.updateSession
  rw [SelectionKey.isValid_changeInterest]

/-! ## The packet thread -/

section Handling

variable {connection : TcpConnection} {segment : ClientSegment}

/-- As long as the upstream stream goes on, the pump leaves the upload
alone. -/
private theorem upload_pumpToClient
    (goesOn : connection.session.upstreamEof = false) :
    upload (SocketChannelReader.pumpToClient connection) =
      upload connection := by
  refine
    @Effects.preserve PumpEffect
      (fun reached => upload reached = upload connection) ?_ _ _
      (pumpToClient_effects connection) rfl
  intro before after effect same
  cases effect with
  | segment ipHeader tcpheader packetBody rest => exact same
  | finish ipHeader tcpheader ended =>
      have stillGoing : before.session.upstreamEof = false :=
        (congrArg Upload.upstreamEof same).trans goesOn
      rw [stillGoing] at ended
      cases ended
  | interest interested =>
      exact (upload_changeInterest .read interested before).trans same

private theorem upload_finishSegment
    (goesOn : connection.session.upstreamEof = false)
    (tracked :
      connection.session.abortingConnection = false →
        connection.tracked = true) :
    upload (finishSegment connection) = upload connection := by
  rw [finishSegment]
  split
  · rfl
  · next notAborting =>
    have present := tracked (Bool.eq_false_iff.mpr notAborting)
    have alive : connection.keepSessionAlive = connection := by
      rw [TcpConnection.keepSessionAlive]
      rw [← present]
    rw [alive]
    exact upload_pumpToClient goesOn

private theorem upload_handleData (currentTime : Int)
    (tcp : connection.session.protocol = .tcp)
    (hasData : 0 < segment.dataLength) :
    upload (handleData segment currentTime connection) =
      if Accepts connection.session segment.tcpheader.sequenceNumber then
        (upload connection).append segment
      else
        upload connection := by
  rw [handleData]
  split
  · rw [TcpConnection.addClientData_tcp tcp _ hasData]
    rfl
  · rfl

private theorem upload_acceptAck (tcpHeader : TCPHeader) (currentTime : Int) :
    upload (connection.updateSession (acceptAck tcpHeader currentTime)) =
      upload connection := by
  unfold TcpConnection.updateSession upload
  by_cases advances : Advances connection.session tcpHeader
  · rw [acceptAck_advances advances]
  · rw [acceptAck_stale advances]

private theorem upload_handleBody (currentTime : Int)
    (tcp : connection.session.protocol = .tcp)
    (notClosing : connection.session.closingConnection = false)
    (reaches : Reaches connection segment) :
    upload (handleBody segment currentTime connection) =
      if Appends connection segment then
        (upload connection).append segment
      else
        upload connection := by
  have noted :
      upload (connection.updateSession (noteSegment segment)) =
        upload connection :=
    rfl
  unfold handleBody
  dsimp only
  by_cases hasData : 0 < segment.dataLength
  · have handled :=
      @upload_handleData
        (connection.updateSession (noteSegment segment)) segment
        currentTime tcp hasData
    rw [if_pos hasData, handled, noted]
    by_cases accepts :
        Accepts connection.session segment.tcpheader.sequenceNumber
    · have appends : Appends connection segment :=
        ⟨reaches, hasData, accepts⟩
      rw [if_pos appends]
      exact if_pos accepts
    · have refused : ¬ Appends connection segment :=
        fun appends => accepts appends.2.2
      rw [if_neg refused]
      exact if_neg accepts
  · have refused : ¬ Appends connection segment :=
      fun appends => hasData appends.2.1
    rw [if_neg hasData, if_neg refused, handleAck_eq, upload_acceptAck,
      noted]
    exact notClosing

private theorem upload_closeSession (tracked : connection.tracked = true) :
    upload
        (connection.closeSession.updateSession fun session =>
          { session with abortingConnection := true }) =
      (upload connection).close := by
  rw [TcpConnection.closeSession]
  rw [if_pos tracked]
  rfl

/-- A segment without RST closes the session when it has the flag FIN and
not the flag PSH. -/
private theorem upload_handleFlags (currentTime : Int)
    (tracked : connection.tracked = true)
    (notRst : segment.tcpheader.isRST = false) :
    upload (handleFlags segment currentTime connection) =
      if segment.tcpheader.isPSH = false ∧
          segment.tcpheader.isFIN = true then
        (upload connection).close
      else
        upload connection := by
  rw [handleFlags]
  cases segment.tcpheader.isPSH with
  | true =>
      rw [if_pos rfl, if_neg (fun flags => Bool.false_ne_true flags.1.symm)]
      exact upload_changeInterest .write true connection
  | false =>
      rw [if_neg Bool.false_ne_true]
      cases segment.tcpheader.isFIN with
      | true =>
          rw [if_pos rfl, if_pos ⟨rfl, rfl⟩]
          unfold ackFinAck
          dsimp only
          rw [upload_closeSession]
          · rfl
          · exact tracked
      | false =>
          rw [if_neg Bool.false_ne_true, notRst,
            if_neg Bool.false_ne_true,
            if_neg (fun flags => Bool.false_ne_true flags.2)]

private theorem upload_handleUnknown (currentTime : Int) :
    upload (handleUnknown segment currentTime connection) =
      upload connection := by
  rw [handleUnknown]
  split
  · rfl
  · split
    · rfl
    · rfl

/-- What a segment with ACK, and without SYN and RST, does to a session in
the table. -/
private theorem upload_handleTCPPacket (currentTime : Int)
    (tcp : connection.session.protocol = .tcp)
    (notClosing : connection.session.closingConnection = false)
    (goesOn : connection.session.upstreamEof = false)
    (notRst : segment.tcpheader.isRST = false)
    (reaches : Reaches connection segment) :
    let taken :=
      if Appends connection segment then
        (upload connection).append segment
      else
        upload connection
    upload (handleTCPPacket segment currentTime connection) =
      if segment.tcpheader.isPSH = false ∧
          segment.tcpheader.isFIN = true then
        taken.close
      else
        taken := by
  intro taken
  have body :
      upload (handleBody segment currentTime connection) = taken :=
    upload_handleBody currentTime tcp notClosing reaches
  have taken_tracked : taken.tracked = true := by
    unfold taken
    split
    · exact reaches.1
    · exact reaches.1
  have taken_goesOn : taken.upstreamEof = false := by
    unfold taken
    split
    · exact goesOn
    · exact goesOn
  have flagged :=
    @upload_handleFlags (handleBody segment currentTime connection)
      segment currentTime
      ((congrArg Upload.tracked body).trans taken_tracked) notRst
  rw [body] at flagged
  rw [handleTCPPacket_reaches reaches]
  rw [handleSessionSegment]
  rw [upload_finishSegment, flagged]
  · refine (congrArg Upload.upstreamEof flagged).trans ?_
    split
    · exact taken_goesOn
    · exact taken_goesOn
  · intro notAborting
    have aborting := congrArg Upload.abortingConnection flagged
    refine (congrArg Upload.tracked flagged).trans ?_
    split
    · next closes =>
      rw [if_pos closes] at aborting
      exact nomatch notAborting.symm.trans aborting
    · exact taken_tracked

end Handling

/-! ## The NIO thread -/

section Selecting

variable {connection : TcpConnection}

/-- The event neither reads nor fails, and each write accepts some number of
bytes. -/
structure OnlyWrites (ready : Readiness) (counts : List Nat) : Prop where
  unreadable : ready.isReadable = false
  connects : ready.connected ≠ none
  writes : ready.writes = counts.map WriteOutcome.accepted

/-- `processPendingWrite` reaches `SocketChannelWriter.write`. -/
def writesPending (ready : Readiness) (connection : TcpConnection) : Bool :=
  connection.session.hasDataToSend &&
    connection.session.isDataForSendingReady &&
    (connection.session.selectionkey.isValid && ready.isWritable)

/-- A channel that accepts bytes throws nothing. -/
private theorem writeTCP_accepted (counts : List Nat)
    (connection : TcpConnection) :
    (SocketChannelWriter.writeTCP (counts.map WriteOutcome.accepted)
        connection).1 =
      (SocketChannelWriter.writePendingData
        (counts.map WriteOutcome.accepted) connection).1 := by
  apply SocketChannelWriter.writeTCP_unfailed
  intro exception thrown
  rw [SocketChannelWriter.writePendingDataThrows] at thrown
  rw [UploadConservation.writeLoop_accepted] at thrown
  split at thrown
  · cases thrown
  · cases thrown

private theorem upload_writePendingData {counts : List Nat}
    (tcp : connection.session.protocol = .tcp) :
    let pending := connection.session.sendingStream
    let taken := UploadConservation.acceptedTotal counts pending.length
    upload
        (SocketChannelWriter.writePendingData
          (counts.map WriteOutcome.accepted) connection).1 =
      { upload connection with
        sent := connection.channel.sent ++ pending.take taken
        sendingStream := UploadConservation.leftBehind pending taken } := by
  intro pending taken
  obtain ⟨sent_eq, stream_eq, _⟩ :=
    UploadConservation.writePendingData_accepted tcp counts
  have isValid :=
    SocketChannelWriter.writePendingData_isValid
      (counts.map WriteOutcome.accepted) connection
  have kept :=
    SocketChannelWriter.writePendingData_connection
      (counts.map WriteOutcome.accepted) connection
  unfold UploadConservation.uploadStep at sent_eq stream_eq
  dsimp only at sent_eq stream_eq kept
  refine (congrArg upload kept).trans ?_
  unfold upload
  dsimp only
  rw [sent_eq, stream_eq, isValid]

private theorem upload_write {counts : List Nat}
    (tcp : connection.session.protocol = .tcp)
    (notAborting : connection.session.abortingConnection = false) :
    let pending := connection.session.sendingStream
    let taken := UploadConservation.acceptedTotal counts pending.length
    upload
        (SocketChannelWriter.write (counts.map WriteOutcome.accepted)
          connection).1 =
      { upload connection with
        sent := connection.channel.sent ++ pending.take taken
        sendingStream := UploadConservation.leftBehind pending taken } := by
  intro pending taken
  have written := @upload_writePendingData connection counts tcp
  have goingOn :
      (SocketChannelWriter.writePendingData
          (counts.map WriteOutcome.accepted)
          connection).1.session.abortingConnection = false :=
    (congrArg Upload.abortingConnection written).trans notAborting
  rw [SocketChannelWriter.write]
  dsimp only
  rw [writeTCP_accepted, goingOn]
  exact written

/-- The upload behind an event that only writes: the same, or with the
pending bytes the channel has taken. -/
def WritesUpload (ready : Readiness) (counts : List Nat)
    (connection : TcpConnection) (after : Upload) : Prop :=
  after = upload connection ∨
    writesPending ready connection = true ∧
      let pending := connection.session.sendingStream
      let taken := UploadConservation.acceptedTotal counts pending.length
      after =
        { upload connection with
          sent := connection.channel.sent ++ pending.take taken
          sendingStream :=
            UploadConservation.leftBehind pending taken }

private theorem writes_processPendingWrite {ready : Readiness}
    {counts : List Nat}
    (tcp : connection.session.protocol = .tcp)
    (notAborting : connection.session.abortingConnection = false)
    (writes : ready.writes = counts.map WriteOutcome.accepted) :
    WritesUpload ready counts connection
      (upload (processPendingWrite ready connection)) := by
  have unsubscribed :
      upload (connection.updateSession (Session.unsubscribeKey .write)) =
        upload connection :=
    upload_changeInterest .write false connection
  rw [processPendingWrite]
  split
  · exact Or.inl unsubscribed
  · next pending =>
    split
    · next writable =>
      have reached : writesPending ready connection = true := by
        rw [writesPending]
        rw [← Bool.not_and, Bool.not_eq_true, Bool.not_eq_false'] at pending
        rw [pending, writable]
        rfl
      have written :=
        @upload_write
          (connection.updateSession (Session.unsubscribeKey .write))
          counts tcp notAborting
      rw [unsubscribed] at written
      rw [writes]
      exact Or.inr ⟨reached, written⟩
    · exact Or.inl rfl

private theorem writes_processConnectedSelection {ready : Readiness}
    {counts : List Nat}
    (tcp : connection.session.protocol = .tcp)
    (notAborting : connection.session.abortingConnection = false)
    (only : OnlyWrites ready counts) :
    WritesUpload ready counts connection
      (upload (processConnectedSelection ready connection)) := by
  have subscribed :
      upload
          (connection.updateSession fun session =>
            (session.unsubscribeKey .connect).subscribeKey .read) =
        upload connection :=
    (upload_changeInterest .read true
      (connection.updateSession (Session.unsubscribeKey .connect))).trans
        (upload_changeInterest .connect false connection)
  have samePending :
      writesPending ready
          (connection.updateSession fun session =>
            (session.unsubscribeKey .connect).subscribeKey .read) =
        writesPending ready connection :=
    congrArg
      (fun after : Upload =>
        connection.session.hasDataToSend &&
          connection.session.isDataForSendingReady &&
          (after.isValid && ready.isWritable))
      subscribed
  have unread (reached : TcpConnection) :
      processSelectorRead ready reached = reached := by
    rw [processSelectorRead]
    rw [only.unreadable, Bool.and_false]
    rfl
  have written :=
    @writes_processPendingWrite
      (connection.updateSession fun session =>
        (session.unsubscribeKey .connect).subscribeKey .read)
      ready counts tcp notAborting only.writes
  rw [WritesUpload] at written
  rw [subscribed, samePending] at written
  rw [processConnectedSelection]
  rw [unread]
  exact written

private theorem writes_runSelectedKey {ready : Readiness} {counts : List Nat}
    (tcp : connection.session.protocol = .tcp)
    (notAborting : connection.session.abortingConnection = false)
    (only : OnlyWrites ready counts) :
    WritesUpload ready counts connection
      (upload (runSelectedKey ready connection)) := by
  have throwing := runSelectedKey_throwing ready connection
  generalize runSelectedKey ready connection = after at throwing ⊢
  generalize selectedKeyThrows ready connection = thrown at throwing
  cases throwing with
  | unchanged => exact Or.inl rfl
  | refused fails => exact (only.connects fails).elim
  | waiting => exact Or.inl rfl
  | selected => exact writes_processConnectedSelection tcp notAborting only
  | answered connected =>
      have written :=
        @writes_processConnectedSelection
          (connectAnswered connected connection) ready counts tcp
          notAborting only
      cases connected with
      | false => exact written
      | true => exact written

/-- An event finds nothing to do for a session whose key is cancelled. -/
private theorem runSelectedKey_cancelled {ready : Readiness}
    (cancelled : connection.session.selectionkey.isValid = false) :
    runSelectedKey ready connection = connection := by
  rw [runSelectedKey, processSelectionKey]
  rw [cancelled]
  rfl

end Selecting

/-! ## Runs -/

/-- The steps of an upload: segments with ACK of a client that neither opens
nor resets the connection, and events that only write. -/
def UploadStep (isn : Int) (stream : List UInt8) : AtomicStep → Prop
  | .handleTCPPacket segment _ =>
      segment.tcpheader.isSYN = false ∧
        segment.tcpheader.isACK = true ∧
        segment.tcpheader.isRST = false ∧
        AckSoundness.Consistent (unsigned32 isn) stream segment
  | .processSelectionKey ready => ∃ counts, OnlyWrites ready counts

/-- A FIN for which the session is closed finds the sending stream empty,
and brings no payload. -/
def ClosesEmpty (connection : TcpConnection) (segment : ClientSegment) :
    Prop :=
  Reaches connection segment →
    segment.tcpheader.isPSH = false →
      segment.tcpheader.isFIN = true →
        connection.session.sendingStream = [] ∧
          ¬ Appends connection segment

/-- The step appends in order, acknowledges nothing ahead of what it has
appended, keeps the order of what it writes, and does not close the channel
on pending bytes. -/
def LosesNothing (connection : TcpConnection) : AtomicStep → Prop
  | .handleTCPPacket segment _ =>
      UploadOrder.InOrder connection segment ∧
        AckSoundness.NothingAhead connection segment ∧
        ClosesEmpty connection segment
  | .processSelectionKey ready =>
      writesPending ready connection = true →
        ∀ counts, ready.writes = counts.map WriteOutcome.accepted →
          UploadConservation.KeepsOrder connection
            (.writePendingData counts)

namespace Upload

/-- As long as the channel is open, what it has taken and what is pending
are the appended bytes; when it is closed nothing is pending. -/
structure Kept (state : Upload) : Prop where
  tcp : state.protocol = .tcp
  goesOn : state.upstreamEof = false
  conserved :
    state.sent ++ state.sendingStream = state.appended.flatMap Prod.snd
  opened :
    state.isOpen = true →
      state.tracked = true ∧ state.abortingConnection = false
  closed :
    state.isOpen = false →
      state.tracked = false ∧ state.isValid = false ∧
        state.sendingStream = []

variable {state : Upload}

theorem Kept.append (kept : state.Kept) (isOpen : state.isOpen = true)
    (segment : ClientSegment) : (state.append segment).Kept := by
  refine ⟨kept.tcp, kept.goesOn, ?_, kept.opened, ?_⟩
  · rw [Upload.append]
    dsimp only
    rw [← List.append_assoc, kept.conserved, List.flatMap_append,
      List.flatMap_singleton]
  · intro closed
    exact nomatch isOpen.symm.trans closed

theorem Kept.close (kept : state.Kept)
    (empty : state.sendingStream = []) : state.close.Kept :=
  ⟨kept.tcp, kept.goesOn, kept.conserved, nofun,
    fun _ => ⟨rfl, rfl, empty⟩⟩

end Upload

section Steps

variable {connection : TcpConnection} {segment : ClientSegment}

private theorem kept_handleTCPPacket (currentTime : Int)
    (kept : (upload connection).Kept)
    (notClosing : connection.session.closingConnection = false)
    (notSyn : segment.tcpheader.isSYN = false)
    (ack : segment.tcpheader.isACK = true)
    (notRst : segment.tcpheader.isRST = false)
    (closesEmpty : ClosesEmpty connection segment) :
    (upload (handleTCPPacket segment currentTime connection)).Kept := by
  cases isOpen : connection.channel.isOpen with
  | false =>
      have untracked : connection.tracked = false :=
        (kept.closed isOpen).1
      have unknown :
          handleTCPPacket segment currentTime connection =
            handleUnknown segment currentTime connection := by
        rw [handleTCPPacket]
        rw [notSyn, ack, untracked]
        rfl
      rw [unknown, upload_handleUnknown]
      exact kept
  | true =>
      have reaches : Reaches connection segment :=
        ⟨(kept.opened isOpen).1, notSyn, ack⟩
      rw [upload_handleTCPPacket currentTime kept.tcp notClosing
        kept.goesOn notRst reaches]
      by_cases appends : Appends connection segment
      · rw [if_pos appends]
        split
        · next closes =>
          exact (closesEmpty reaches closes.1 closes.2).2 appends |>.elim
        · exact kept.append isOpen segment
      · rw [if_neg appends]
        split
        · next closes =>
          exact kept.close (closesEmpty reaches closes.1 closes.2).1
        · exact kept

private theorem kept_runSelectedKey {ready : Readiness} {counts : List Nat}
    (kept : (upload connection).Kept) (only : OnlyWrites ready counts)
    (keepsOrder :
      writesPending ready connection = true →
        UploadConservation.KeepsOrder connection
          (.writePendingData counts)) :
    (upload (runSelectedKey ready connection)).Kept := by
  cases isOpen : connection.channel.isOpen with
  | false =>
      rw [runSelectedKey_cancelled (kept.closed isOpen).2.1]
      exact kept
  | true =>
      rcases writes_runSelectedKey kept.tcp (kept.opened isOpen).2 only with
        same | ⟨pending, written⟩
      · rw [same]
        exact kept
      · have rebuilt :=
          (UploadConservation.take_append_leftBehind_iff
            (UploadConservation.acceptedTotal_le counts
              connection.session.sendingStream.length)).mpr
                (keepsOrder pending)
        dsimp only at written
        rw [written]
        refine ⟨kept.tcp, kept.goesOn, ?_, kept.opened, ?_⟩
        · dsimp only
          rw [List.append_assoc, rebuilt]
          exact kept.conserved
        · intro closed
          exact nomatch isOpen.symm.trans closed

end Steps

/-! ## Acknowledged bytes -/

/-- An acknowledgment covers bytes that the channel has taken: the stream
below its number is written. -/
def AcksWritten (isn : Int) (stream : List UInt8)
    (connection : TcpConnection) : Prop :=
  ∀ ack ∈ connection.acknowledgments,
    stream.take (unsigned32 ack.number - (isn + 1)).toNat <+:
      connection.channel.sent

/-- Every appended payload ends where the appended bytes end, or before. -/
def EndsWithin (isn : Int) (connection : TcpConnection) : Prop :=
  ∀ entry ∈ connection.appended,
    unsigned32 entry.1 + entry.2.length ≤
      isn + 1 + connection.appendedBytes.length

theorem EndsWithin.of_same {isn : Int} {before after : TcpConnection}
    (within : EndsWithin isn before)
    (appended : after.appended = before.appended) :
    EndsWithin isn after := by
  rw [EndsWithin, TcpConnection.appendedBytes]
  rw [appended]
  exact within

private theorem endsWithin_handleTCPPacket {isn : Int}
    (isn_ge : -2 ^ 31 ≤ isn)
    {stream : List UInt8} {segment : ClientSegment} (currentTime : Int)
    {connection : TcpConnection}
    (ordered : UploadOrder.Ordered isn stream connection)
    (notClosing : connection.session.closingConnection = false)
    (slice : UploadOrder.CarriesSlice (unsigned32 isn) stream segment)
    (inOrder : UploadOrder.InOrder connection segment)
    (within : EndsWithin (unsigned32 isn) connection) :
    EndsWithin (unsigned32 isn)
      (handleTCPPacket segment currentTime connection) := by
  cases handleTCPPacket_takes segment currentTime notClosing with
  | payload appends appended _ =>
      have number :
          segment.tcpheader.sequenceNumber =
            isn + 1 + connection.appendedBytes.length :=
        (inOrder.appends appends).trans ordered.recSequence
      obtain ⟨offset, wire, _⟩ := slice appends.2.1
      have atNext := UploadOrder.offset_eq_length isn_ge wire number
      have bytes :
          (handleTCPPacket segment currentTime connection).appendedBytes =
            connection.appendedBytes ++ segment.payload := by
        unfold TcpConnection.appendedBytes
        rw [appended, List.flatMap_append, List.flatMap_singleton]
      intro entry member
      rw [bytes, List.length_append]
      rw [appended] at member
      rcases List.mem_append.mp member with earlier | last
      · have before := within entry earlier
        omega
      · rw [List.mem_singleton.mp last]
        dsimp only
        omega
  | number _ appended _ => exact within.of_same appended
  | nothing appended _ => exact within.of_same appended

/-- Nothing is acknowledged past the appended bytes, which are the first of
the stream. -/
private theorem acksWritten_of_appended {isn : Int} {stream : List UInt8}
    {connection : TcpConnection}
    (sound : AckSoundness.AcksSound isn stream connection)
    (within : EndsWithin isn connection)
    (isPrefix : connection.appendedBytes <+: stream)
    (written : connection.channel.sent = connection.appendedBytes) :
    AcksWritten isn stream connection := by
  intro ack member
  rw [written]
  apply List.prefix_of_prefix_length_le (List.take_prefix _ _) isPrefix
  by_contra longer
  rw [List.length_take, Nat.not_le] at longer
  have inside : connection.appendedBytes.length < stream.length :=
    longer.trans_le (Nat.min_le_right _ _)
  have below :
      isn + 1 + connection.appendedBytes.length <
        unsigned32 ack.number := by
    have acknowledged := longer.trans_le (Nat.min_le_left _ _)
    omega
  obtain ⟨entry, appended, _, reaches⟩ :=
    sound ack member connection.appendedBytes.length inside below
  have ends := within entry appended
  omega

/-! ## Every run -/

/-- What holds in every reachable state. -/
structure Reached (isn : Int) (stream : List UInt8)
    (connection : TcpConnection) : Prop where
  sound : Sound connection
  ordered : UploadOrder.Ordered isn stream connection
  acknowledging :
    AckSoundness.Acknowledging (unsigned32 isn) stream connection
  within : EndsWithin (unsigned32 isn) connection
  kept : (upload connection).Kept

private theorem atomicStep_reached {isn : Int} (isn_ge : -2 ^ 31 ≤ isn)
    {stream : List UInt8} (connection : TcpConnection)
    (step : AtomicStep)
    (guarded : UploadStep isn stream step ∧ LosesNothing connection step)
    (reached : Reached isn stream connection) :
    Reached isn stream (atomicStep connection step) := by
  obtain ⟨uploads, losesNothing⟩ := guarded
  have sound := reached.sound.effects (atomicStep_effects reached.sound step)
  cases step with
  | handleTCPPacket segment currentTime =>
      obtain ⟨notSyn, ack, notRst, consistent⟩ := uploads
      obtain ⟨inOrder, nothingAhead, closesEmpty⟩ := losesNothing
      have notClosing := reached.sound.notClosing
      exact
        ⟨sound,
          UploadOrder.handleTCPPacket_ordered isn_ge currentTime
            reached.ordered notClosing consistent.slice inOrder,
          AckSoundness.handleTCPPacket_acknowledging currentTime
            reached.acknowledging notClosing consistent nothingAhead,
          endsWithin_handleTCPPacket isn_ge currentTime reached.ordered
            notClosing consistent.slice inOrder reached.within,
          kept_handleTCPPacket currentTime reached.kept notClosing notSyn
            ack notRst closesEmpty⟩
  | processSelectionKey ready =>
      obtain ⟨counts, only⟩ := uploads
      have repeats :=
        repeats_selected (runSelectedKey_selected ready connection)
          reached.sound.noted
      exact
        ⟨sound, reached.ordered.of_same repeats.appended repeats.recSequence,
          reached.acknowledging.repeats repeats,
          reached.within.of_same repeats.appended,
          kept_runSelectedKey reached.kept only
            (fun pending => losesNothing pending counts only.writes)⟩

private theorem reached_replySynAck (syn : ClientSegment) (opening : Opening)
    (stream : List UInt8) :
    Reached syn.tcpheader.sequenceNumber stream
      (replySynAck syn opening) :=
  ⟨sound_replySynAck syn opening,
    ⟨(Int.add_zero _).symm, List.nil_prefix⟩,
    AckSoundness.acknowledging_replySynAck syn opening stream,
    fun _ => nofun, ⟨rfl, rfl, rfl, fun _ => ⟨rfl, rfl⟩, nofun⟩⟩

/-- In every run whose steps lose nothing, the bytes acknowledged to the
client have been written upstream when the channel is closed. -/
theorem acknowledged_written_before_close
    (syn : ClientSegment) (opening : Opening) (stream : List UInt8)
    (steps : List AtomicStep)
    (uploads :
      ∀ step ∈ steps,
        UploadStep syn.tcpheader.sequenceNumber stream step)
    (guarded :
      StepsMeet atomicStep LosesNothing (replySynAck syn opening) steps)
    (visited : List AtomicStep) (isPrefix : visited <+: steps)
    (closed :
      (run atomicStep (replySynAck syn opening)
        visited).channel.isOpen = false) :
    AcksWritten (unsigned32 syn.tcpheader.sequenceNumber) stream
      (run atomicStep (replySynAck syn opening) visited) := by
  have reached :=
    run_guarded_invariant (atomicStep_reached syn.sequenceNumber_ge)
      visited (reached_replySynAck syn opening stream)
      ((StepsMeet.and_forall uploads guarded).of_isPrefix isPrefix)
  have empty := (reached.kept.closed closed).2.2
  have conserved := reached.kept.conserved
  rw [empty, List.append_nil] at conserved
  exact
    acksWritten_of_appended reached.acknowledging.sound reached.within
      reached.ordered.appended_isPrefix conserved

/-- Two bytes are pushed and acknowledged, and the FIN comes before the NIO
thread has written them. -/
def closedWhilePending : List AtomicStep :=
  [.handleTCPPacket (ClientSegment.plain 0x18 1 101 1000 [1, 2]) 0,
    .handleTCPPacket (ClientSegment.plain 0x11 3 101 1000 []) 0]

theorem acknowledged_lost_at_close :
    let reached := run atomicStep (openedConnection 0) closedWhilePending
    (∀ step ∈ closedWhilePending, UploadStep 0 [1, 2] step) ∧
      reached.channel.isOpen = false ∧
      ¬ AcksWritten 0 [1, 2] reached := by
  intro reached
  refine ⟨?_, by decide, ?_⟩
  · intro step member
    rcases List.mem_pair.mp member with rfl | rfl
    · exact
        ⟨by decide, by decide, by decide, ⟨fun _ => ⟨0, rfl, by decide⟩,
          fun fin => absurd fin (by decide)⟩⟩
    · exact
        ⟨by decide, by decide, by decide, ⟨fun hasData =>
          absurd hasData (by decide), fun _ => by decide⟩⟩
  · intro written
    have acknowledged : [1, 2] <+: reached.channel.sent :=
      written ⟨.sendAck, 3⟩ (by decide)
    exact absurd acknowledged (by decide)

/-- The same upload, with an event in between that writes both bytes. -/
theorem acknowledged_written_in_time :
    let writing : AtomicStep :=
      .processSelectionKey
        { isConnectable := false
          isReadable := false
          isWritable := true
          connected := some true
          reads := []
          writes := [2].map WriteOutcome.accepted }
    let steps : List AtomicStep :=
      [.handleTCPPacket (ClientSegment.plain 0x18 1 101 1000 [1, 2]) 0,
        writing,
        .handleTCPPacket (ClientSegment.plain 0x11 3 101 1000 []) 0]
    AcksWritten 0 [1, 2]
      (run atomicStep (openedConnection 0) steps) := by
  intro writing steps
  refine
    acknowledged_written_before_close (ClientSegment.plain 0x02 0 0 1000 [])
      { random := 100, currentTime := 0, connected := true } [1, 2] steps
      ?_ ⟨⟨?_, ?_, ?_⟩, ?_, ⟨?_, ?_, ?_⟩, trivial⟩ steps
      (List.prefix_refl _) (by decide)
  · intro step member
    rcases List.mem_cons.mp member with rfl | later
    · exact
        ⟨by decide, by decide, by decide, ⟨fun _ => ⟨0, rfl, by decide⟩,
          fun fin => absurd fin (by decide)⟩⟩
    · rcases List.mem_pair.mp later with rfl | rfl
      · exact ⟨[2], rfl, nofun, rfl⟩
      · exact
          ⟨by decide, by decide, by decide, ⟨fun hasData =>
            absurd hasData (by decide), fun _ => by decide⟩⟩
  · exact
      ⟨fun _ => by decide, fun renumbers => absurd renumbers (by decide)⟩
  · exact
      ⟨fun _ => by decide, fun _ _ rejects => absurd rejects (by decide),
        fun renumbers => absurd renumbers (by decide),
        fun _ nothing => absurd nothing (by decide),
        fun untracked => absurd untracked (by decide)⟩
  · exact fun _ notPsh => absurd notPsh (by decide)
  · intro _ counts writes
    have same : [2] = counts :=
      List.map_injective_iff.mpr (fun _ _ => WriteOutcome.accepted.inj)
        writes
    rw [← same]
    exact Or.inl (by decide)
  · exact ⟨fun _ => by decide, fun _ => by decide⟩
  · exact
      ⟨fun _ => by decide, fun _ hasData => absurd hasData (by decide),
        fun _ => by decide, fun _ _ _ _ => by decide,
        fun untracked => absurd untracked (by decide)⟩
  · exact fun _ _ _ => by decide

end LanShield.Vpn.ClientClose
