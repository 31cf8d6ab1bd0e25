import LanShield.Vpn.DownloadEffects

/-!
# When uploads stall

Data that is ready to be sent should keep the key subscribed for writing.
The flag `isDataForSendingReady` outlives the data it was set for: the NIO
thread drops the subscription when nothing is buffered, and keeps the flag.
-/

namespace LanShield.Vpn.UploadProgress

open LanShield.Library LanShield.Transport

/-- Data that is ready to be sent keeps the key subscribed for writing. -/
def WriteSubscribed (session : Session) : Prop :=
  session.abortingConnection = false →
    session.selectionkey.isValid = true →
      session.hasDataToSend = true →
        session.isDataForSendingReady = true →
          session.selectionkey.interestWrite = true

instance (session : Session) : Decidable (WriteSubscribed session) :=
  inferInstanceAs (Decidable (_ → _ → _ → _ → _))

/-- The segment has data the session appends, and none of the flags PSH, FIN
and RST. -/
def AppendsUnpushed (connection : TcpConnection)
    (segment : ClientSegment) : Prop :=
  SessionHandler.Reaches connection segment ∧
    segment.tcpheader.isPSH = false ∧
    segment.tcpheader.isFIN = false ∧
    segment.tcpheader.isRST = false ∧
    0 < segment.dataLength ∧
    SessionHandler.Accepts connection.session
      segment.tcpheader.sequenceNumber

/-- The flag is set for data that has gone, and nothing is subscribed. -/
def ReadyUnsubscribed (session : Session) : Prop :=
  session.abortingConnection = false ∧
    session.selectionkey.isValid = true ∧
    session.isDataForSendingReady = true ∧
    session.selectionkey.interestWrite = false

/-- The step does not append data without PSH behind a flag that was left
set. -/
def AppendsSubscribed (connection : TcpConnection) : AtomicStep → Prop
  | .handleTCPPacket segment _ =>
      AppendsUnpushed connection segment →
        ¬ ReadyUnsubscribed connection.session
  | .processSelectionKey _ => True

/-- What holds between two steps. -/
structure Scheduled (session : Session) : Prop where
  tcp : session.protocol = .tcp
  subscribed : WriteSubscribed session

theorem Scheduled.of_aborting {session : Session}
    (tcp : session.protocol = .tcp)
    (aborting : session.abortingConnection = true) :
    Scheduled session := by
  refine ⟨tcp, ?_⟩
  rw [WriteSubscribed]
  rw [aborting]
  exact nofun

structure WriteSide where
  protocol : SessionProtocol
  sendingStream : List UInt8
  sendingDatagrams : List (List UInt8)
  isDataForSendingReady : Bool
  abortingConnection : Bool
  isValid : Bool
  interestWrite : Bool

def writeSide (session : Session) : WriteSide where
  protocol := session.protocol
  sendingStream := session.sendingStream
  sendingDatagrams := session.sendingDatagrams
  isDataForSendingReady := session.isDataForSendingReady
  abortingConnection := session.abortingConnection
  isValid := session.selectionkey.isValid
  interestWrite := session.selectionkey.interestWrite

private theorem Scheduled.of_writeSide {before after : Session}
    (same : writeSide after = writeSide before)
    (scheduled : Scheduled before) : Scheduled after := by
  simp only [writeSide, WriteSide.mk.injEq] at same
  obtain ⟨protocol, stream, datagrams, ready, aborting, valid,
    interest⟩ := same
  have hasData : after.hasDataToSend = before.hasDataToSend := by
    unfold Session.hasDataToSend
    rw [protocol, stream, datagrams]
  refine ⟨protocol.trans scheduled.tcp, ?_⟩
  unfold WriteSubscribed
  rw [aborting, valid, hasData, ready, interest]
  exact scheduled.subscribed

private theorem writeSide_changeInterest {op : SelectionOp}
    (other : op ≠ .write)
    (interested : Bool) (session : Session) :
    writeSide
        { session with
          selectionkey :=
            session.selectionkey.changeInterest op interested } =
      writeSide session := by
  have interest :=
    SelectionKey.interest_changeInterest_other other interested
      session.selectionkey
  unfold SelectionKey.interest at interest
  unfold writeSide
  dsimp only at interest ⊢
  rw [SelectionKey.isValid_changeInterest, interest]

theorem Scheduled.subscribe {session : Session}
    (tcp : session.protocol = .tcp) :
    Scheduled (session.subscribeKey .write) := by
  refine ⟨tcp, ?_⟩
  intro _ valid _ _
  change
    (session.selectionkey.changeInterest .write true).isValid = true
    at valid
  rw [SelectionKey.isValid_changeInterest] at valid
  exact SelectionKey.interest_changeInterest_self valid .write true

theorem Scheduled.read {before after : TcpConnection}
    (effect : ReadEffect before after)
    (scheduled : Scheduled before.session) :
    Scheduled after.session := by
  cases effect with
  | pump effect =>
      cases effect with
      | segment => exact Scheduled.of_writeSide (by rfl) scheduled
      | finish => exact .of_aborting scheduled.tcp rfl
      | interest interested =>
          exact
            scheduled.of_writeSide
              (writeSide_changeInterest (by decide) interested _)
  | stage => exact Scheduled.of_writeSide (by rfl) scheduled
  | endUpstream => exact Scheduled.of_writeSide (by rfl) scheduled
  | abort => exact .of_aborting scheduled.tcp rfl

theorem Scheduled.reads {before after : TcpConnection}
    (effects : ReadEffects before after)
    (scheduled : Scheduled before.session) :
    Scheduled after.session :=
  @Effects.preserve ReadEffect
    (fun connection => Scheduled connection.session)
    (fun _ _ effect => Scheduled.read effect) _ _ effects scheduled

theorem Scheduled.removeAborted {connection : TcpConnection}
    (scheduled : Scheduled connection.session)
    (aborting : connection.session.abortingConnection = true) :
    Scheduled connection.removeAborted.session := by
  rw [TcpConnection.removeAborted_session]
  exact .of_aborting scheduled.tcp aborting

private theorem read_schedules
    (outcomes : List ReadOutcome) {connection : TcpConnection}
    (noted : EndNoted connection)
    (scheduled : Scheduled connection.session) :
    Scheduled
      (SocketChannelReader.read outcomes connection).1.session := by
  have stillScheduled :=
    scheduled.reads (readTCP_effects outcomes noted)
  rw [SocketChannelReader.read]
  dsimp only
  split
  · have subscribed :=
      stillScheduled.of_writeSide
        (writeSide_changeInterest (by decide : SelectionOp.read ≠ .write)
          true _)
    split
    · next aborting => exact subscribed.removeAborted aborting
    · exact subscribed
  · split
    · next aborting => exact stillScheduled.removeAborted aborting
    · exact stillScheduled

/-- Behind its loop `writePendingData` subscribes for what is left, or drops
the flag with the data. -/
private theorem settleBuffer_schedules
    (buffer : Java.ByteBuffer) {session : Session}
    (tcp : session.protocol = .tcp) :
    Scheduled (SocketChannelWriter.settleBuffer buffer session) := by
  rw [SocketChannelWriter.settleBuffer]
  split
  · rw [Session.setSendingData_tcp tcp]
    exact Scheduled.subscribe tcp
  · refine ⟨tcp, ?_⟩
    intro _ _ _ ready
    cases ready

/-- Whatever the subscription was, an attempt to write leaves it right. -/
private theorem writePendingData_schedules
    (outcomes : List WriteOutcome) {connection : TcpConnection}
    (tcp : connection.session.protocol = .tcp)
    (hasData : connection.session.hasDataToSend = true) :
    Scheduled
      (SocketChannelWriter.writePendingData outcomes
        connection).1.session := by
  rw [SocketChannelWriter.writePendingData]
  rw [if_pos hasData]
  dsimp only [Session.getSendingData]
  split
  · refine ⟨tcp, ?_⟩
    intro _ _ stillHasData
    rw [Session.hasDataToSend] at stillHasData
    dsimp only at stillHasData
    rw [tcp] at stillHasData
    cases stillHasData
  · apply settleBuffer_schedules
    exact tcp

private theorem writeTCP_schedules
    (outcomes : List WriteOutcome) {connection : TcpConnection}
    (tcp : connection.session.protocol = .tcp)
    (hasData : connection.session.hasDataToSend = true) :
    Scheduled
      (SocketChannelWriter.writeTCP outcomes connection).1.session := by
  have written := writePendingData_schedules outcomes tcp hasData
  rcases SocketChannelWriter.writeTCP_ends outcomes connection with
    same | ⟨ipHeader, tcpheader, reset⟩
  · rw [same]
    exact written
  · rw [reset]
    exact .of_aborting written.tcp rfl

private theorem write_schedules
    (outcomes : List WriteOutcome) {connection : TcpConnection}
    (tcp : connection.session.protocol = .tcp)
    (hasData : connection.session.hasDataToSend = true) :
    Scheduled
      (SocketChannelWriter.write outcomes connection).1.session := by
  have written := writeTCP_schedules outcomes tcp hasData
  rw [SocketChannelWriter.write]
  dsimp only
  split
  · next aborting => exact written.removeAborted aborting
  · exact written

private theorem processPendingWrite_schedules
    (ready : SocketNIODataService.Readiness) {connection : TcpConnection}
    (scheduled : Scheduled connection.session) :
    Scheduled
      (SocketNIODataService.processPendingWrite ready
        connection).session := by
  rw [SocketNIODataService.processPendingWrite]
  split
  · next nothing =>
    refine ⟨scheduled.tcp, ?_⟩
    intro _ _ hasData isReady
    have hasData : connection.session.hasDataToSend = true := hasData
    have isReady : connection.session.isDataForSendingReady = true :=
      isReady
    rw [hasData, isReady] at nothing
    cases nothing
  · next something =>
    have hasData : connection.session.hasDataToSend = true := by
      by_contra without
      rw [Bool.not_eq_true] at without
      rw [without] at something
      exact something rfl
    split
    · have written :=
        @write_schedules ready.writes
          (connection.updateSession (Session.unsubscribeKey .write))
          scheduled.tcp hasData
      exact Scheduled.of_writeSide (by rfl) written
    · exact scheduled

private theorem processSelectorRead_schedules
    (ready : SocketNIODataService.Readiness) {connection : TcpConnection}
    (noted : EndNoted connection)
    (scheduled : Scheduled connection.session) :
    Scheduled
      (SocketNIODataService.processSelectorRead ready
        connection).session := by
  rw [SocketNIODataService.processSelectorRead]
  split
  · exact
      Scheduled.of_writeSide (by rfl)
        (read_schedules ready.reads noted scheduled)
  · exact scheduled

private theorem processConnectedSelection_schedules
    (ready : SocketNIODataService.Readiness) {connection : TcpConnection}
    (noted : EndNoted connection)
    (scheduled : Scheduled connection.session) :
    Scheduled
      (SocketNIODataService.processConnectedSelection ready
        connection).session := by
  have subscribed :
      Scheduled
        ((connection.session.unsubscribeKey .connect).subscribeKey
          .read) := by
    refine Scheduled.of_writeSide ?_ scheduled
    exact
      (writeSide_changeInterest (by decide) true _).trans
        (writeSide_changeInterest (by decide) false _)
  rw [SocketNIODataService.processConnectedSelection]
  apply processPendingWrite_schedules
  apply processSelectorRead_schedules
  · exact noted
  · exact subscribed

private theorem selected_schedules
    {ready : SocketNIODataService.Readiness}
    {before after : TcpConnection}
    (selected : SocketNIODataService.Selected ready before after)
    (noted : EndNoted before) (scheduled : Scheduled before.session) :
    Scheduled after.session := by
  cases selected with
  | unchanged => exact scheduled
  | refused => exact ⟨scheduled.tcp, fun _ => nofun⟩
  | waiting => exact Scheduled.of_writeSide (by rfl) scheduled
  | selected =>
      exact processConnectedSelection_schedules ready noted scheduled
  | answered connected =>
      apply processConnectedSelection_schedules
      · cases connected with
        | false => exact noted
        | true => exact noted
      · exact Scheduled.of_writeSide (by rfl) scheduled

private theorem finishSegment_schedules {connection : TcpConnection}
    (scheduled : Scheduled connection.session) :
    Scheduled (SessionHandler.finishSegment connection).session := by
  rw [SessionHandler.finishSegment]
  split
  · exact scheduled
  · exact
      @Scheduled.reads connection.keepSessionAlive _
        (pumpToClient_effects _).read scheduled

/-- With one of the flags PSH, FIN and RST a segment subscribes for writing
or aborts the session. -/
private theorem handleFlags_schedules
    (segment : ClientSegment) (currentTime : Int)
    {connection : TcpConnection}
    (tcp : connection.session.protocol = .tcp)
    (tracked : connection.tracked = true)
    (unflagged :
      segment.tcpheader.isPSH = false →
        segment.tcpheader.isFIN = false →
          segment.tcpheader.isRST = false →
            Scheduled connection.session) :
    Scheduled
      (SessionHandler.handleFlags segment currentTime
        connection).session := by
  rw [SessionHandler.handleFlags]
  split
  · refine Scheduled.subscribe ?_
    exact tcp
  · next notPsh =>
    split
    · refine .of_aborting ?_ rfl
      exact
        (congrArg Session.protocol
          (TcpConnection.closeSession_session _)).trans tcp
    · next notFin =>
      split
      · rw [SessionHandler.resetTCPConnection]
        rw [if_pos tracked]
        exact .of_aborting tcp rfl
      · next notRst =>
        exact
          unflagged (Bool.eq_false_iff.mpr notPsh)
            (Bool.eq_false_iff.mpr notFin) (Bool.eq_false_iff.mpr notRst)

/-- Unpushed data is only appended where the key is subscribed or the flag
is not set. -/
private theorem handleData_schedules
    {segment : ClientSegment} (currentTime : Int)
    {connection : TcpConnection} (hasData : 0 < segment.dataLength)
    (scheduled : Scheduled connection.session)
    (unpushed :
      SessionHandler.Accepts connection.session
          segment.tcpheader.sequenceNumber →
        ¬ ReadyUnsubscribed connection.session) :
    Scheduled
      (SessionHandler.handleData segment currentTime
        connection).session := by
  rw [SessionHandler.handleData]
  by_cases accepts :
      SessionHandler.Accepts connection.session
        segment.tcpheader.sequenceNumber
  · rw [if_pos accepts,
      TcpConnection.addClientData_tcp scheduled.tcp _ hasData]
    refine ⟨scheduled.tcp, ?_⟩
    intro running valid _ isReady
    by_contra unsubscribed
    exact
      unpushed accepts
        ⟨running, valid, isReady, Bool.eq_false_iff.mpr unsubscribed⟩
  · rw [if_neg accepts]
    exact scheduled

private theorem handleData_protocol_tracked
    {segment : ClientSegment} (currentTime : Int)
    {connection : TcpConnection} (hasData : 0 < segment.dataLength)
    (tcp : connection.session.protocol = .tcp) :
    let handled :=
      SessionHandler.handleData segment currentTime connection
    handled.session.protocol = .tcp ∧
      handled.tracked = connection.tracked := by
  rw [SessionHandler.handleData]
  by_cases accepts :
      SessionHandler.Accepts connection.session
        segment.tcpheader.sequenceNumber
  · rw [if_pos accepts, TcpConnection.addClientData_tcp tcp _ hasData]
    exact ⟨tcp, rfl⟩
  · rw [if_neg accepts]
    exact ⟨tcp, rfl⟩

private theorem acceptAck_writeSide
    (tcpHeader : TCPHeader) (currentTime : Int) (session : Session) :
    writeSide (SessionHandler.acceptAck tcpHeader currentTime session) =
      writeSide session := by
  by_cases advances : SessionHandler.Advances session tcpHeader
  · rw [SessionHandler.acceptAck_advances advances]
    rfl
  · rw [SessionHandler.acceptAck_stale advances]
    rfl

private theorem handleSessionSegment_schedules
    (segment : ClientSegment) (currentTime : Int)
    {connection : TcpConnection} (tracked : connection.tracked = true)
    (notClosing : connection.session.closingConnection = false)
    (scheduled : Scheduled connection.session)
    (unpushed :
      segment.tcpheader.isPSH = false →
        segment.tcpheader.isFIN = false →
          segment.tcpheader.isRST = false →
            0 < segment.dataLength →
              SessionHandler.Accepts connection.session
                  segment.tcpheader.sequenceNumber →
                ¬ ReadyUnsubscribed connection.session) :
    Scheduled
      (SessionHandler.handleSessionSegment segment currentTime
        connection).session := by
  have noted :
      Scheduled
        (connection.updateSession
          (SessionHandler.noteSegment segment)).session :=
    Scheduled.of_writeSide (by rfl) scheduled
  unfold SessionHandler.handleSessionSegment SessionHandler.handleBody
  dsimp only
  apply finishSegment_schedules
  by_cases hasData : 0 < segment.dataLength
  · rw [if_pos hasData]
    obtain ⟨tcp, stillTracked⟩ :=
      handleData_protocol_tracked currentTime hasData noted.tcp
    apply handleFlags_schedules _ _ tcp (stillTracked.trans tracked)
    intro notPsh notFin notRst
    apply handleData_schedules currentTime hasData noted
    exact unpushed notPsh notFin notRst hasData
  · have stillOpen :
        (connection.updateSession
            (SessionHandler.noteSegment
              segment)).session.closingConnection = false :=
      notClosing
    rw [if_neg hasData, handleAck_eq segment currentTime stillOpen]
    have accepted :
        Scheduled
          (SessionHandler.acceptAck segment.tcpheader currentTime
            (SessionHandler.noteSegment segment connection.session)) :=
      noted.of_writeSide (acceptAck_writeSide _ _ _)
    exact
      handleFlags_schedules _ _ accepted.tcp tracked
        fun _ _ _ => accepted

private theorem handleTCPPacket_schedules
    (segment : ClientSegment) (currentTime : Int)
    {connection : TcpConnection}
    (notClosing : connection.session.closingConnection = false)
    (scheduled : Scheduled connection.session)
    (unpushed :
      AppendsUnpushed connection segment →
        ¬ ReadyUnsubscribed connection.session) :
    Scheduled
      (SessionHandler.handleTCPPacket segment currentTime
        connection).session := by
  rw [SessionHandler.handleTCPPacket]
  split
  · split
    · rw [SessionHandler.resendAck]
      split
      · exact scheduled
      · exact scheduled
    · exact scheduled
  · next notSyn =>
    split
    · next ack =>
      split
      · next tracked =>
        apply
          handleSessionSegment_schedules segment currentTime tracked
            notClosing scheduled
        intro notPsh notFin notRst hasData accepts
        have reaches : SessionHandler.Reaches connection segment :=
          ⟨tracked, Bool.eq_false_iff.mpr notSyn, ack⟩
        exact
          unpushed ⟨reaches, notPsh, notFin, notRst, hasData, accepts⟩
      · rw [SessionHandler.handleUnknown]
        split
        · exact scheduled
        · split
          · exact scheduled
          · exact scheduled
    · split
      · split
        · exact scheduled
        · exact scheduled
      · split
        · rw [SessionHandler.resetTCPConnection]
          split
          · exact .of_aborting scheduled.tcp rfl
          · exact scheduled
        · exact scheduled

private theorem atomicStep_schedules
    (connection : TcpConnection) (step : AtomicStep)
    (guarded : AppendsSubscribed connection step)
    (carried : Sound connection ∧ Scheduled connection.session) :
    Sound (atomicStep connection step) ∧
      Scheduled (atomicStep connection step).session := by
  obtain ⟨sound, scheduled⟩ := carried
  refine ⟨sound.effects (atomicStep_effects sound step), ?_⟩
  cases step with
  | handleTCPPacket segment currentTime =>
      exact
        handleTCPPacket_schedules segment currentTime sound.notClosing
          scheduled guarded
  | processSelectionKey ready =>
      exact
        selected_schedules
          (SocketNIODataService.runSelectedKey_selected ready connection)
          sound.noted scheduled

private theorem scheduled_replySynAck
    (syn : ClientSegment) (opening : SessionHandler.Opening) :
    Scheduled (SessionHandler.replySynAck syn opening).session :=
  ⟨rfl, fun _ _ => nofun⟩

/-- As long as no unpushed data is appended behind a flag that was left set
without a subscription, data that is ready to be sent keeps the key of the
session subscribed for writing. -/
theorem uploads_keep_moving
    (syn : ClientSegment) (opening : SessionHandler.Opening)
    (steps : List AtomicStep)
    (guarded :
      StepsMeet atomicStep AppendsSubscribed
        (SessionHandler.replySynAck syn opening) steps)
    (visited : List AtomicStep) (isPrefix : visited <+: steps) :
    WriteSubscribed
      (run atomicStep (SessionHandler.replySynAck syn opening)
        visited).session :=
  (run_guarded_invariant atomicStep_schedules visited
    ⟨sound_replySynAck syn opening, scheduled_replySynAck syn opening⟩
    (guarded.of_isPrefix isPrefix)).2.subscribed

/-- A selected key of which the channel is ready for writing. -/
def writableKey : SocketNIODataService.Readiness where
  isConnectable := false
  isReadable := false
  isWritable := true
  connected := none
  reads := []
  writes := [.accepted 100]

/-- PSH without data, a selected key, and then data without PSH. -/
def unpushedUpload : List AtomicStep :=
  [.handleTCPPacket (ClientSegment.plain 0x18 8 101 1000 []) 0,
    .processSelectionKey writableKey,
    .handleTCPPacket (ClientSegment.plain 0x10 8 101 1000 [1]) 0]

theorem upload_stalls_behind_empty_push :
    let reached :=
      run atomicStep (SessionHandler.openedConnection 7) unpushedUpload
    reached.session.isConnected = true ∧
      ¬ WriteSubscribed reached.session := by
  decide

theorem uploads_keep_moving_when_pushed :
    WriteSubscribed
      (run atomicStep (SessionHandler.openedConnection 7)
        [.handleTCPPacket
          (ClientSegment.plain 0x18 8 101 1000 [1]) 0]).session := by
  refine
    uploads_keep_moving (ClientSegment.plain 0x02 7 0 1000 [])
      { random := 100, currentTime := 0, connected := true }
      [.handleTCPPacket (ClientSegment.plain 0x18 8 101 1000 [1]) 0,
        .processSelectionKey writableKey]
      ⟨?_, trivial, trivial⟩ _ ⟨[.processSelectionKey writableKey], rfl⟩
  rintro ⟨_, notPsh, _⟩
  cases notPsh

end LanShield.Vpn.UploadProgress
