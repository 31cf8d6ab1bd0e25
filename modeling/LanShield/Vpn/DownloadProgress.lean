import LanShield.Vpn.DownloadEffects

/-!
# Downloads never stall

Between two atomic steps staged bytes only wait for the client's window, and
while more may be staged the key is subscribed for reading.
-/

namespace LanShield.Vpn.DownloadProgress

open LanShield.Library LanShield.Transport SocketChannelReader

/-- Staged bytes only wait for the window. -/
def WindowFilled (session : Session) : Prop :=
  session.receivingStream ≠ [] →
    session.clientWindow ≤
      unsigned32 (session.sendNext - session.sendUnack)

/-- While more may be staged, the key is subscribed for reading. -/
def ReadSubscribed (session : Session) : Prop :=
  session.selectionkey.isValid = true →
    session.upstreamEof = false →
      session.receivingStream.length < stagingCap →
        session.selectionkey.interestRead = true

/-- The headers the pump answers with. -/
def HeadersKnown (session : Session) : Prop :=
  session.lastIpHeader ≠ none ∧ session.lastTcpHeader ≠ none

/-- Staged bytes of a session that is not aborting wait for the window. -/
structure Filled (session : Session) : Prop where
  known : HeadersKnown session
  filled : session.abortingConnection = false → WindowFilled session

/-- A session between two atomic steps. -/
structure Settled (session : Session) : Prop extends Filled session where
  subscribed :
    session.abortingConnection = false →
      session.isConnected = true → ReadSubscribed session

/-- Subscribing for reading subscribes for reading. -/
private theorem readSubscribed_subscribeKey (session : Session) :
    ReadSubscribed (session.subscribeKey .read) := by
  intro valid _ _
  change
    (session.selectionkey.changeInterest .read true).isValid = true at valid
  rw [SelectionKey.isValid_changeInterest] at valid
  exact SelectionKey.interest_changeInterest_self valid .read true

/-- The pump stops only when nothing is staged or the window is filled. -/
private theorem pumpStaged_fills
    (ipHeader : IPHeader) (tcpheader : TCPHeader) {segMax : Int}
    (segMax_pos : 1 ≤ segMax) (rounds : Nat) (connection : TcpConnection)
    (enough : connection.session.receivingStream.length ≤ rounds) :
    WindowFilled
      (pumpStaged ipHeader tcpheader segMax rounds connection).session := by
  induction rounds generalizing connection with
  | zero =>
      intro staged
      exact
        (staged
          (List.eq_nil_of_length_eq_zero (Nat.le_zero.mp enough))).elim
  | succ rounds inductionHypothesis =>
      rw [pumpStaged]
      split
      · next hasData =>
        have hasData := of_decide_eq_true hasData
        dsimp only [Session.getReceivedData]
        split
        · next noRoom =>
          intro _
          exact Int.le_of_sub_nonpos noRoom
        · next room =>
          have taken :
              1 ≤
                (min
                  (connection.session.clientWindow -
                    unsigned32
                      (connection.session.sendNext -
                        connection.session.sendUnack))
                  segMax).toNat := by
            omega
          split
          · next nothing =>
            have nothing :=
              congrArg List.length (List.isEmpty_iff.mp nothing)
            rw [List.length_take, List.length_nil] at nothing
            omega
          · apply inductionHypothesis
            change (connection.session.receivingStream.drop _).length ≤ _
            rw [List.length_drop]
            omega
      · next empty =>
        intro staged
        refine (empty (decide_eq_true ?_)).elim
        exact List.length_pos_of_ne_nil staged

theorem HeadersKnown.pump {before after : TcpConnection}
    (effect : PumpEffect before after)
    (known : HeadersKnown before.session) :
    HeadersKnown after.session := by
  cases effect with
  | segment => exact known
  | finish => exact ⟨Option.some_ne_none _, Option.some_ne_none _⟩
  | interest => exact known

theorem HeadersKnown.read {before after : TcpConnection}
    (effect : ReadEffect before after)
    (known : HeadersKnown before.session) :
    HeadersKnown after.session := by
  cases effect with
  | pump effect => exact known.pump effect
  | stage => exact known
  | endUpstream => exact known
  | abort => exact known

private theorem pumpToClient_known {connection : TcpConnection}
    (known : HeadersKnown connection.session) :
    HeadersKnown (pumpToClient connection).session :=
  @Effects.preserve PumpEffect
    (fun connection => HeadersKnown connection.session)
    (fun _ _ effect => HeadersKnown.pump effect) _ _
    (pumpToClient_effects connection) known

/-- The pump fills the window and subscribes for reading. -/
private theorem pumpToClient_settles {connection : TcpConnection}
    (known : HeadersKnown connection.session) :
    Settled (pumpToClient connection).session := by
  have stillKnown := pumpToClient_known known
  have moved :
      (pumpToClient connection).session.abortingConnection = false →
        WindowFilled (pumpToClient connection).session ∧
          ReadSubscribed (pumpToClient connection).session := by
    obtain ⟨ipKnown, tcpKnown⟩ := known
    obtain ⟨ipHeader, ip_eq⟩ := Option.ne_none_iff_exists'.mp ipKnown
    obtain ⟨tcpheader, tcp_eq⟩ := Option.ne_none_iff_exists'.mp tcpKnown
    have pumped :=
      pumpStaged_fills ipHeader tcpheader
        (maxSegment_pos connection.session)
        connection.session.receivingStreamSize connection (le_refl _)
    rw [pumpToClient]
    rw [ip_eq, tcp_eq]
    dsimp only
    unfold afterPump
    dsimp only
    split
    · intro notAborting
      cases notAborting
    · split
      · intro _
        exact ⟨pumped, readSubscribed_subscribeKey _⟩
      · next _ notSubscribed =>
        intro _
        refine ⟨pumped, ?_⟩
        intro _ open_ room
        refine (notSubscribed ?_).elim
        rw [Bool.and_eq_true]
        exact ⟨congrArg _ open_, decide_eq_true room⟩
  exact
    ⟨⟨stillKnown, fun notAborting => (moved notAborting).1⟩,
      fun notAborting _ => (moved notAborting).2⟩

theorem Filled.of_aborting {session : Session}
    (known : HeadersKnown session)
    (aborting : session.abortingConnection = true) : Filled session := by
  refine ⟨known, ?_⟩
  rw [aborting]
  intro running
  cases running

theorem Settled.of_aborting {session : Session}
    (known : HeadersKnown session)
    (aborting : session.abortingConnection = true) : Settled session := by
  refine ⟨.of_aborting known aborting, ?_⟩
  rw [aborting]
  intro running
  cases running

private theorem readFailed_fills (exception : SocketException)
    {connection : TcpConnection} (filled : Filled connection.session) :
    Filled (readFailed exception connection).session := by
  cases exception with
  | notYetConnected => exact filled
  | closedByInterrupt => exact filled
  | closedChannel => exact filled
  | other => exact .of_aborting filled.known rfl

private theorem readLoop_fills
    (outcomes : List ReadOutcome) (connection : TcpConnection)
    (filled : Filled connection.session) :
    Filled (readLoop outcomes connection).1.session := by
  induction outcomes generalizing connection with
  | nil =>
      rw [readLoop]
      split
      · exact ⟨filled.known, filled.filled⟩
      · exact filled
  | cons outcome later inductionHypothesis =>
      rw [readLoop]
      split
      · exact ⟨filled.known, filled.filled⟩
      · dsimp only
        split
        · next chunk _ =>
          apply inductionHypothesis
          refine (pumpToClient_settles ?_).toFilled
          exact filled.known
        · exact filled
        · refine (pumpToClient_settles ?_).toFilled
          exact filled.known
        · next exception _ => exact readFailed_fills exception filled

private theorem readTCP_fills
    (outcomes : List ReadOutcome) {connection : TcpConnection}
    (filled : Filled connection.session) :
    Filled (readTCP outcomes connection).1.session := by
  rw [readTCP]
  split
  · exact filled
  · exact readLoop_fills outcomes connection filled

private theorem removeAborted_settles {connection : TcpConnection}
    (known : HeadersKnown connection.session)
    (aborting : connection.session.abortingConnection = true) :
    Settled connection.removeAborted.session := by
  rw [TcpConnection.removeAborted_session]
  exact .of_aborting known aborting

theorem read_settles
    (outcomes : List ReadOutcome) {connection : TcpConnection}
    (filled : Filled connection.session) :
    Settled (SocketChannelReader.read outcomes connection).1.session := by
  have stillFilled := readTCP_fills outcomes filled
  rw [SocketChannelReader.read]
  dsimp only
  split
  · split
    · next aborting =>
      exact removeAborted_settles stillFilled.known aborting
    · exact
        ⟨⟨stillFilled.known, stillFilled.filled⟩,
          fun _ _ => readSubscribed_subscribeKey _⟩
  · next full =>
    split
    · next aborting =>
      exact removeAborted_settles stillFilled.known aborting
    · exact ⟨stillFilled, fun _ _ _ _ room => (full room).elim⟩

/-- What `Settled` depends on. -/
structure ReadSide where
  lastIpHeader : Option IPHeader
  lastTcpHeader : Option TCPHeader
  receivingStream : List UInt8
  clientWindow : Int
  sendNext : Int
  sendUnack : Int
  upstreamEof : Bool
  abortingConnection : Bool
  isConnected : Bool
  isValid : Bool
  interestRead : Bool

def readSide (session : Session) : ReadSide where
  lastIpHeader := session.lastIpHeader
  lastTcpHeader := session.lastTcpHeader
  receivingStream := session.receivingStream
  clientWindow := session.clientWindow
  sendNext := session.sendNext
  sendUnack := session.sendUnack
  upstreamEof := session.upstreamEof
  abortingConnection := session.abortingConnection
  isConnected := session.isConnected
  isValid := session.selectionkey.isValid
  interestRead := session.selectionkey.interestRead

private theorem Settled.of_readSide {before after : Session}
    (same : readSide after = readSide before)
    (settled : Settled before) : Settled after := by
  simp only [readSide, ReadSide.mk.injEq] at same
  obtain ⟨ip, tcp, staged, window, next, unack, eof, aborting, connected,
    valid, interest⟩ := same
  refine ⟨⟨?_, ?_⟩, ?_⟩
  · rw [HeadersKnown]
    rw [ip, tcp]
    exact settled.known
  · rw [WindowFilled]
    rw [aborting, staged, window, next, unack]
    exact settled.filled
  · rw [ReadSubscribed]
    rw [aborting, connected, valid, eof, staged, interest]
    exact settled.subscribed

theorem readSide_changeInterest {op : SelectionOp} (other : op ≠ .read)
    (interested : Bool) (session : Session) :
    readSide
        { session with
          selectionkey :=
            session.selectionkey.changeInterest op interested } =
      readSide session := by
  have interest :=
    SelectionKey.interest_changeInterest_other other interested
      session.selectionkey
  unfold SelectionKey.interest at interest
  unfold readSide
  dsimp only at interest ⊢
  rw [SelectionKey.isValid_changeInterest, interest]

private theorem readSide_settleBuffer
    (buffer : Java.ByteBuffer) (session : Session) :
    readSide (SocketChannelWriter.settleBuffer buffer session) =
      readSide session := by
  rw [SocketChannelWriter.settleBuffer]
  split
  · refine (readSide_changeInterest (by decide) true _).trans ?_
    rw [Session.setSendingData]
    cases session.protocol with
    | tcp => rfl
    | udp => rfl
  · exact readSide_changeInterest (by decide) false _

theorem readSide_writePendingData
    (outcomes : List WriteOutcome) (connection : TcpConnection) :
    readSide
        (SocketChannelWriter.writePendingData outcomes
          connection).1.session =
      readSide connection.session := by
  rw [SocketChannelWriter.writePendingData]
  split
  · dsimp only
    split
    · rfl
    · exact readSide_settleBuffer _ _
  · rfl

private theorem writeTCP_settles
    (outcomes : List WriteOutcome) {connection : TcpConnection}
    (settled : Settled connection.session) :
    Settled
      (SocketChannelWriter.writeTCP outcomes connection).1.session := by
  have written :=
    settled.of_readSide (readSide_writePendingData outcomes connection)
  rcases SocketChannelWriter.writeTCP_ends outcomes connection with
    same | ⟨ipHeader, tcpheader, reset⟩
  · rw [same]
    exact written
  · rw [reset]
    exact .of_aborting written.known rfl

private theorem write_settles
    (outcomes : List WriteOutcome) {connection : TcpConnection}
    (settled : Settled connection.session) :
    Settled (SocketChannelWriter.write outcomes connection).1.session := by
  have written := writeTCP_settles outcomes settled
  rw [SocketChannelWriter.write]
  dsimp only
  split
  · next aborting =>
    exact removeAborted_settles written.known aborting
  · exact written

private theorem processPendingWrite_settles
    (ready : SocketNIODataService.Readiness) {connection : TcpConnection}
    (settled : Settled connection.session) :
    Settled
      (SocketNIODataService.processPendingWrite ready
        connection).session := by
  have unsubscribed :
      Settled
        (connection.updateSession
          (Session.unsubscribeKey .write)).session :=
    settled.of_readSide
      (readSide_changeInterest (by decide) false connection.session)
  rw [SocketNIODataService.processPendingWrite]
  split
  · exact unsubscribed
  · split
    · refine
        Settled.of_readSide ?_ (write_settles ready.writes unsubscribed)
      rfl
    · exact settled

private theorem processSelectorRead_settles
    (ready : SocketNIODataService.Readiness) {connection : TcpConnection}
    (settled : Settled connection.session) :
    Settled
      (SocketNIODataService.processSelectorRead ready
        connection).session := by
  rw [SocketNIODataService.processSelectorRead]
  split
  · refine
      Settled.of_readSide ?_ (read_settles ready.reads settled.toFilled)
    rfl
  · exact settled

/-- A connected selection subscribes for reading, whatever it was before. -/
private theorem processConnectedSelection_settles
    (ready : SocketNIODataService.Readiness) {connection : TcpConnection}
    (filled : Filled connection.session) :
    Settled
      (SocketNIODataService.processConnectedSelection ready
        connection).session := by
  rw [SocketNIODataService.processConnectedSelection]
  apply processPendingWrite_settles
  apply processSelectorRead_settles
  exact
    ⟨⟨filled.known, filled.filled⟩,
      fun _ _ => readSubscribed_subscribeKey _⟩

private theorem selected_settles
    {ready : SocketNIODataService.Readiness}
    {before after : TcpConnection}
    (selected : SocketNIODataService.Selected ready before after)
    (settled : Settled before.session) : Settled after.session := by
  have filled := settled.toFilled
  cases selected with
  | unchanged => exact settled
  | refused => exact ⟨⟨filled.known, filled.filled⟩, fun _ _ => nofun⟩
  | waiting => exact ⟨⟨filled.known, filled.filled⟩, fun _ => nofun⟩
  | selected => exact processConnectedSelection_settles ready filled
  | answered connected =>
      apply processConnectedSelection_settles
      exact ⟨filled.known, filled.filled⟩

private theorem addClientData_known
    (sequenceNumber : Int) (buffer : Java.ByteBuffer)
    {connection : TcpConnection}
    (known : HeadersKnown connection.session) :
    HeadersKnown
      (connection.addClientData sequenceNumber buffer).2.session := by
  rw [TcpConnection.addClientData]
  split
  · exact known
  · rw [Session.setSendingData]
    cases connection.session.protocol with
    | tcp => exact known
    | udp => exact known

private theorem handleData_known
    (segment : ClientSegment) (currentTime : Int)
    {connection : TcpConnection}
    (known : HeadersKnown connection.session) :
    HeadersKnown
      (SessionHandler.handleData segment currentTime
        connection).session := by
  have added :=
    addClientData_known segment.tcpheader.sequenceNumber segment.data known
  rw [SessionHandler.handleData]
  by_cases accepts :
      SessionHandler.Accepts connection.session
        segment.tcpheader.sequenceNumber
  · rw [if_pos accepts]
    exact added
  · rw [if_neg accepts]
    exact known

private theorem closeSession_known {connection : TcpConnection}
    (known : HeadersKnown connection.session) :
    HeadersKnown connection.closeSession.session := by
  rw [TcpConnection.closeSession]
  split
  · exact known
  · exact known

private theorem handleAck_known
    (segment : ClientSegment) (currentTime : Int)
    {connection : TcpConnection}
    (known : HeadersKnown connection.session) :
    HeadersKnown
      (SessionHandler.handleAck segment currentTime
        connection).session := by
  have accepted :
      HeadersKnown
        (connection.updateSession
          (SessionHandler.acceptAck segment.tcpheader
            currentTime)).session := by
    rw [TcpConnection.updateSession]
    by_cases advances :
        SessionHandler.Advances connection.session segment.tcpheader
    · rw [SessionHandler.acceptAck_advances advances]
      exact known
    · rw [SessionHandler.acceptAck_stale advances]
      exact known
  unfold SessionHandler.handleAck
  dsimp only
  split
  · exact accepted
  · split
    · exact closeSession_known accepted
    · exact accepted

private theorem handleFlags_known
    (segment : ClientSegment) (currentTime : Int)
    {connection : TcpConnection}
    (known : HeadersKnown connection.session) :
    HeadersKnown
      (SessionHandler.handleFlags segment currentTime
        connection).session := by
  rw [SessionHandler.handleFlags]
  split
  · exact known
  · split
    · have closed :=
        @closeSession_known
          ((SessionHandler.writeFinAck segment currentTime
            connection).updateSession Session.cancelKey)
          known
      exact closed
    · split
      · rw [SessionHandler.resetTCPConnection]
        split
        · exact known
        · exact known
      · exact known

private theorem finishSegment_settles {connection : TcpConnection}
    (known : HeadersKnown connection.session) :
    Settled (SessionHandler.finishSegment connection).session := by
  rw [SessionHandler.finishSegment]
  split
  · next aborting => exact .of_aborting known aborting
  · refine pumpToClient_settles ?_
    exact known

/-- A segment of a session in the table ends with the pump. -/
private theorem handleSessionSegment_settles
    (segment : ClientSegment) (currentTime : Int)
    (connection : TcpConnection) :
    Settled
      (SessionHandler.handleSessionSegment segment currentTime
        connection).session := by
  have noted :
      HeadersKnown
        (connection.updateSession
          (SessionHandler.noteSegment segment)).session :=
    ⟨Option.some_ne_none _, Option.some_ne_none _⟩
  unfold SessionHandler.handleSessionSegment SessionHandler.handleBody
  dsimp only
  apply finishSegment_settles
  apply handleFlags_known
  split
  · exact handleData_known segment currentTime noted
  · exact handleAck_known segment currentTime noted

private theorem handleTCPPacket_settles
    (segment : ClientSegment) (currentTime : Int)
    {connection : TcpConnection} (settled : Settled connection.session) :
    Settled
      (SessionHandler.handleTCPPacket segment currentTime
        connection).session := by
  rw [SessionHandler.handleTCPPacket]
  split
  · split
    · rw [SessionHandler.resendAck]
      split
      · exact settled
      · exact settled
    · exact settled
  · split
    · split
      · exact handleSessionSegment_settles segment currentTime connection
      · rw [SessionHandler.handleUnknown]
        split
        · exact settled
        · split
          · exact settled
          · exact settled
    · split
      · split
        · exact settled
        · exact settled
      · split
        · rw [SessionHandler.resetTCPConnection]
          split
          · exact .of_aborting settled.known rfl
          · exact settled
        · exact settled

theorem atomicStep_settles
    (connection : TcpConnection) (step : AtomicStep)
    (settled : Settled connection.session) :
    Settled (atomicStep connection step).session := by
  cases step with
  | handleTCPPacket segment currentTime =>
      exact handleTCPPacket_settles segment currentTime settled
  | processSelectionKey ready =>
      exact
        selected_settles
          (SocketNIODataService.runSelectedKey_selected ready connection)
          settled

theorem settled_replySynAck
    (syn : ClientSegment) (opening : SessionHandler.Opening) :
    Settled (SessionHandler.replySynAck syn opening).session := by
  refine ⟨⟨⟨Option.some_ne_none _, Option.some_ne_none _⟩, ?_⟩, ?_⟩
  · intro _ staged
    exact (staged rfl).elim
  · intro _ connected _ _ _
    exact connected

private theorem run_settles
    (syn : ClientSegment) (opening : SessionHandler.Opening)
    (steps : List AtomicStep) :
    Settled
      (run atomicStep (SessionHandler.replySynAck syn opening)
        steps).session :=
  @run_invariant TcpConnection AtomicStep atomicStep
    (fun connection => Settled connection.session)
    (fun connection step => atomicStep_settles connection step)
    steps _ (settled_replySynAck syn opening)

/-- `sendUnack` never passes `sendNext`. -/
private theorem run_unack_le
    (syn : ClientSegment) (opening : SessionHandler.Opening)
    (steps : List AtomicStep) :
    let reached :=
      run atomicStep (SessionHandler.replySynAck syn opening) steps
    reached.session.sendUnack ≤ reached.session.sendNext := by
  have preserved :=
    @run_downloadCall_preserves (fun _ => True)
      (fun _ _ _ _ _ => trivial) (steps.map DownloadCall.atomic) _
      (sound_replySynAck syn opening) trivial
  rw [run_atomic] at preserved
  exact preserved.1.unack_le

/-- Between two atomic steps the staged bytes of a connected session only
wait for the window, and while there is room to stage more the key is
subscribed for reading. -/
theorem downloads_keep_moving
    (syn : ClientSegment) (opening : SessionHandler.Opening)
    (steps : List AtomicStep) :
    let session :=
      (run atomicStep (SessionHandler.replySynAck syn opening)
        steps).session
    session.isConnected = true →
      session.abortingConnection = false →
        session.selectionkey.isValid = true →
          (session.receivingStream ≠ [] →
            session.clientWindow ≤
              session.sendNext - session.sendUnack) ∧
          (session.upstreamEof = false →
            session.receivingStream.length < stagingCap →
              session.selectionkey.interestRead = true) := by
  intro session connected notAborting valid
  have settled := run_settles syn opening steps
  refine ⟨?_, settled.subscribed notAborting connected valid⟩
  intro staged
  have filled := settled.filled notAborting staged
  have unack_le := run_unack_le syn opening steps
  exact
    filled.trans (unsigned32_le (Int.sub_nonneg.mpr unack_le))

/-- A client whose window has room for one byte, and three bytes read. -/
def narrowDownload : TcpConnection :=
  run atomicStep
    (SessionHandler.replySynAck (ClientSegment.plain 0x02 7 0 2 [])
      { random := 100, currentTime := 0, connected := true })
    [.processSelectionKey
      { isConnectable := false
        isReadable := true
        isWritable := false
        connected := none
        reads := [.data ⟨[1, 2, 3], by decide, by decide⟩]
        writes := [] }]

theorem downloads_keep_moving_in_narrow_window :
    narrowDownload.session.receivingStream = [2, 3] ∧
      narrowDownload.session.clientWindow ≤
        narrowDownload.session.sendNext -
          narrowDownload.session.sendUnack ∧
      narrowDownload.session.selectionkey.interestRead = true := by
  have moving :=
    downloads_keep_moving (ClientSegment.plain 0x02 7 0 2 [])
      { random := 100, currentTime := 0, connected := true }
      [.processSelectionKey
        { isConnectable := false
          isReadable := true
          isWritable := false
          connected := none
          reads := [.data ⟨[1, 2, 3], by decide, by decide⟩]
          writes := [] }]
      (by decide) (by decide) (by decide)
  exact
    ⟨by decide, moving.1 (by decide), moving.2 (by decide) (by decide)⟩

end LanShield.Vpn.DownloadProgress
