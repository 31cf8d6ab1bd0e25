import LanShield.Vpn.DownloadEffects

/-!
# The staging buffer is bounded

The loop of `readTCP` one access at a time, with the packet thread handling
segments in between.  Only a read makes `receivingStream` longer, and it
comes behind a look at its length.
-/

namespace LanShield.Vpn

open LanShield.Library LanShield.Java LanShield.Transport
  SocketChannelReader

/-- No more bytes are staged than before. -/
def Drains (before after : TcpConnection) : Prop :=
  after.session.receivingStreamSize ≤ before.session.receivingStreamSize

instance : Std.Refl Drains :=
  ⟨fun _ => le_refl _⟩

instance : IsTrans TcpConnection Drains :=
  ⟨fun _ _ _ first second => le_trans second first⟩

theorem Drains.of_eq {before after : TcpConnection}
    (same :
      after.session.receivingStream = before.session.receivingStream) :
    Drains before after := by
  rw [Drains, Session.receivingStreamSize, same]
  exact le_refl _

theorem Drains.of_download {before after : TcpConnection}
    (same : after.download = before.download) : Drains before after :=
  .of_eq (congrArg Download.staged same)

private theorem Drains.of_halts {before after : TcpConnection}
    (halts : AtMostHalts before after) : Drains before after := by
  rcases halts with same | halted
  · exact .of_download same
  · apply Drains.of_eq
    have staged := congrArg Download.staged halted
    exact staged

private theorem drains_pump {before after : TcpConnection}
    (effect : PumpEffect before after) : Drains before after := by
  cases effect with
  | segment ipHeader tcpheader packetBody rest split =>
      rw [Drains, Session.receivingStreamSize, Session.receivingStreamSize,
        split, List.length_append]
      exact Nat.le_add_left _ _
  | finish => exact .of_eq rfl
  | interest => exact .of_eq rfl

private theorem drains_pumpEffects {before after : TcpConnection}
    (effects : PumpEffects before after) : Drains before after :=
  @Effects.preserve PumpEffect (Drains before)
    (fun _ _ effect drained => IsTrans.trans _ _ _ drained (drains_pump effect)) _ _
    effects (le_refl _)

/-- After any number of rounds of its loop the pump has staged nothing. -/
private theorem drains_pumpStaged (ipHeader : IPHeader)
    (tcpheader : TCPHeader)
    (segMax : Int) (rounds : Nat) (connection : TcpConnection) :
    Drains connection
      (pumpStaged ipHeader tcpheader segMax rounds connection) :=
  drains_pumpEffects
    (pumpStaged_effects ipHeader tcpheader segMax rounds connection)

private theorem drains_pumpToClient (connection : TcpConnection) :
    Drains connection (pumpToClient connection) :=
  drains_pumpEffects (pumpToClient_effects connection)

private theorem receivingStream_acceptAck (tcpHeader : TCPHeader)
    (currentTime : Int) (session : Session) :
    (SessionHandler.acceptAck tcpHeader currentTime
        session).receivingStream =
      session.receivingStream := by
  by_cases advances : SessionHandler.Advances session tcpHeader
  · rw [SessionHandler.acceptAck_advances advances]
  · rw [SessionHandler.acceptAck_stale advances]

private theorem drains_handleAck (segment : ClientSegment) (currentTime : Int)
    (connection : TcpConnection) :
    Drains connection
      (SessionHandler.handleAck segment currentTime connection) := by
  have accepted :
      Drains connection
        (connection.updateSession
          (SessionHandler.acceptAck segment.tcpheader currentTime)) := by
    apply Drains.of_eq
    exact
      receivingStream_acceptAck segment.tcpheader currentTime
        connection.session
  refine IsTrans.trans _ _ _ accepted ?_
  rw [SessionHandler.handleAck]
  split
  · exact .of_eq rfl
  · split
    · apply Drains.of_eq
      rw [TcpConnection.closeSession_session]
    · exact Std.Refl.refl _

private theorem drains_handleFlags (segment : ClientSegment)
    (currentTime : Int)
    (connection : TcpConnection) :
    Drains connection
      (SessionHandler.handleFlags segment currentTime connection) := by
  rw [SessionHandler.handleFlags]
  split
  · exact .of_eq rfl
  · split
    · exact .of_halts (.inr (ackFinAck_halts segment currentTime connection))
    · split
      · exact .of_halts (resetTCPConnection_halts connection)
      · exact Std.Refl.refl _

private theorem drains_handleSessionSegment (segment : ClientSegment)
    (currentTime : Int) (connection : TcpConnection) :
    Drains connection
      (SessionHandler.handleSessionSegment segment currentTime
        connection) := by
  have handled :
      Drains connection
        (SessionHandler.handleBody segment currentTime connection) := by
    rw [SessionHandler.handleBody]
    split
    · apply Drains.of_eq
      exact
        congrArg Download.staged
          (handleData_download segment currentTime
            (connection.updateSession (SessionHandler.noteSegment segment)))
    · exact
        drains_handleAck segment currentTime
          (connection.updateSession (SessionHandler.noteSegment segment))
  have flagged := drains_handleFlags segment currentTime
    (SessionHandler.handleBody segment currentTime connection)
  refine IsTrans.trans _ _ _ handled (IsTrans.trans _ _ _ flagged ?_)
  rw [SessionHandler.handleSessionSegment, SessionHandler.finishSegment]
  split
  · exact Std.Refl.refl _
  · exact drains_pumpToClient _

/-- The packet thread stages nothing. -/
private theorem drains_handleTCPPacket (segment : ClientSegment)
    (currentTime : Int)
    (connection : TcpConnection) :
    Drains connection
      (SessionHandler.handleTCPPacket segment currentTime connection) := by
  rw [SessionHandler.handleTCPPacket]
  split
  · split
    · exact .of_download (resendAck_download currentTime connection)
    · exact Std.Refl.refl _
  · split
    · split
      · exact drains_handleSessionSegment segment currentTime connection
      · exact
          .of_download
            (handleUnknown_download segment currentTime connection)
    · split
      · split
        · exact .of_eq rfl
        · exact .of_eq rfl
      · split
        · exact .of_halts (resetTCPConnection_halts connection)
        · exact Std.Refl.refl _

/-- Where the NIO thread stands: outside `readTCP`, at the length check of
its loop, before `channel.read`, and before `pumpToClient` with a chunk
staged or with the end of the stream noted. -/
inductive ReaderPoint where
  | outside
  | check
  | read
  | pump
  | pumpEnd
  deriving DecidableEq, Repr

structure Reader where
  connection : TcpConnection
  point : ReaderPoint
  deriving DecidableEq

/-- What the NIO thread does to a connection outside `readTCP`; `finishRead`
is the end of `SocketChannelReader.read` and of `processSelectorRead`. -/
inductive NioPart where
  | connectFailed
  | connectAnswered (connected : Bool)
  | subscribeRead
  | finishRead (bytesRead : Nat)
  | processPendingWrite (ready : SocketNIODataService.Readiness)

/-- The end of `SocketChannelReader.read`. -/
def resubscribe (connection : TcpConnection) : TcpConnection :=
  let connection :=
    if connection.session.receivingStreamSize < stagingCap then
      connection.updateSession (Session.subscribeKey .read)
    else
      connection
  if connection.session.abortingConnection then
    connection.removeAborted
  else
    connection

def NioPart.apply (connection : TcpConnection) : NioPart → TcpConnection
  | connectFailed =>
      TcpConnection.updateSession Session.cancelKey
        { connection with
          channel := connection.channel.finishConnect none }
  | connectAnswered connected =>
      SocketNIODataService.connectAnswered connected connection
  | subscribeRead =>
      connection.updateSession fun session =>
        (session.unsubscribeKey .connect).subscribeKey .read
  | finishRead bytesRead =>
      (resubscribe connection).updateSession fun session =>
        { session with flow := session.flow.increaseIngress 1 bytesRead }
  | processPendingWrite ready =>
      SocketNIODataService.processPendingWrite ready connection

/-- The first lines of `sendToRequester`. -/
def stageChunk (chunk : Chunk) (connection : TcpConnection) :
    TcpConnection :=
  connection.updateSession fun session =>
    { session with
      hasReceivedLastSegment :=
        decide
          (chunk.bytes.length < maxReceiveBufferSize) }.addReceivedData
      chunk.bytes

/-- What `readTCP` does with what `channel.read` returns. -/
def readAnswered (connection : TcpConnection) : ReadOutcome → Reader
  | .data chunk => ⟨stageChunk chunk connection, .pump⟩
  | .nothing => ⟨connection, .outside⟩
  | .endOfStream =>
      ⟨connection.updateSession fun session =>
          { session with upstreamEof := true },
        .pumpEnd⟩
  | .failure exception => ⟨readFailed exception connection, .outside⟩

/-- The next access of `readTCP`; `outcome` is for its `channel.read`. -/
def Reader.proceed (outcome : ReadOutcome) (reader : Reader) : Reader :=
  let connection := reader.connection
  match reader.point with
  | .outside => reader
  | .check =>
      if stagingCap ≤ connection.session.receivingStreamSize then
        ⟨connection.updateSession (Session.unsubscribeKey .read), .outside⟩
      else
        ⟨connection, .read⟩
  | .read =>
      readAnswered
        { connection with channel := (connection.channel.read outcome).2 }
        (connection.channel.read outcome).1
  | .pump => ⟨pumpToClient connection, .check⟩
  | .pumpEnd => ⟨pumpToClient connection, .outside⟩

/-- The packet thread handles its segments at any point of the reader. -/
inductive ReaderEvent where
  | handleTCPPacket (segment : ClientSegment) (currentTime : Int)
  | nio (part : NioPart)
  | readTCP
  | proceed (outcome : ReadOutcome)

def readerStep (reader : Reader) : ReaderEvent → Reader
  | .handleTCPPacket segment currentTime =>
      { reader with
        connection :=
          SessionHandler.handleTCPPacket segment currentTime
            reader.connection }
  | .nio part =>
      if reader.point = .outside then
        { reader with connection := part.apply reader.connection }
      else
        reader
  | .readTCP =>
      if reader.point = .outside ∧
          reader.connection.session.abortingConnection = false then
        { reader with point := .check }
      else
        reader
  | .proceed outcome => reader.proceed outcome

/-- Where the reader is about to read, there is room. -/
structure Bounded (reader : Reader) : Prop where
  staged :
    reader.connection.session.receivingStreamSize ≤
      stagingCap - 1 + maxReceiveBufferSize
  room :
    reader.point = .read →
      reader.connection.session.receivingStreamSize < stagingCap

private theorem drains_resubscribe (connection : TcpConnection) :
    Drains connection (resubscribe connection) := by
  apply Drains.of_eq
  rw [resubscribe]
  by_cases room : connection.session.receivingStreamSize < stagingCap
  · rw [if_pos room]
    split
    · rw [TcpConnection.removeAborted_session]
      rfl
    · rfl
  · rw [if_neg room]
    split
    · rw [TcpConnection.removeAborted_session]
    · rfl

private theorem drains_nioPart (connection : TcpConnection) (part : NioPart) :
    Drains connection (part.apply connection) := by
  cases part with
  | connectFailed => exact .of_eq rfl
  | connectAnswered connected => exact .of_eq rfl
  | subscribeRead => exact .of_eq rfl
  | finishRead bytesRead => exact drains_resubscribe connection
  | processPendingWrite ready =>
      exact .of_halts (processPendingWrite_halts ready connection)

/-- What stages nothing keeps the bound. -/
theorem Bounded.drains {reader : Reader} {connection : TcpConnection}
    {point : ReaderPoint} (bounded : Bounded reader)
    (drained : Drains reader.connection connection)
    (still : point = .read → reader.point = .read) :
    Bounded ⟨connection, point⟩ :=
  ⟨le_trans drained bounded.staged,
    fun reads => lt_of_le_of_lt drained (bounded.room (still reads))⟩

private theorem drains_readFailed (exception : SocketException)
    (connection : TcpConnection) :
    Drains connection (readFailed exception connection) := by
  cases exception with
  | notYetConnected => exact .of_eq rfl
  | closedByInterrupt => exact .of_eq rfl
  | closedChannel => exact .of_eq rfl
  | other => exact .of_eq rfl

/-- A chunk is staged where there is room. -/
private theorem bounded_readAnswered {connection : TcpConnection}
    (room : connection.session.receivingStreamSize < stagingCap)
    (result : ReadOutcome) : Bounded (readAnswered connection result) := by
  have staged :
      connection.session.receivingStreamSize ≤
        stagingCap - 1 + maxReceiveBufferSize := by
    omega
  cases result with
  | data chunk =>
      refine ⟨?_, by intro reads; cases reads⟩
      have few := chunk.length_le
      show
        (connection.session.receivingStream ++ chunk.bytes).length ≤ _
      rw [List.length_append]
      rw [Session.receivingStreamSize] at room
      omega
  | nothing => exact ⟨staged, by intro reads; cases reads⟩
  | endOfStream => exact ⟨staged, by intro reads; cases reads⟩
  | failure exception =>
      refine
        ⟨le_trans (drains_readFailed exception connection) staged, ?_⟩
      intro reads
      cases reads

private theorem bounded_proceed {reader : Reader} (bounded : Bounded reader)
    (outcome : ReadOutcome) : Bounded (reader.proceed outcome) := by
  obtain ⟨connection, point⟩ := reader
  cases point with
  | outside => exact bounded
  | check =>
      rw [Reader.proceed]
      by_cases full :
        stagingCap ≤ connection.session.receivingStreamSize
      · rw [if_pos full]
        exact bounded.drains (.of_eq rfl) (by intro reads; cases reads)
      · rw [if_neg full]
        exact ⟨bounded.staged, fun _ => Nat.lt_of_not_le full⟩
  | read =>
      rw [Reader.proceed]
      refine bounded_readAnswered ?_ _
      exact bounded.room rfl
  | pump =>
      apply bounded.drains (drains_pumpToClient connection)
      intro reads
      cases reads
  | pumpEnd =>
      apply bounded.drains (drains_pumpToClient connection)
      intro reads
      cases reads

private theorem bounded_readerStep {reader : Reader}
    (bounded : Bounded reader)
    (event : ReaderEvent) : Bounded (readerStep reader event) := by
  cases event with
  | handleTCPPacket segment currentTime =>
      exact
        bounded.drains
          (drains_handleTCPPacket segment currentTime reader.connection)
          fun reads => reads
  | nio part =>
      rw [readerStep]
      split
      · exact
          bounded.drains (drains_nioPart reader.connection part)
            fun reads => reads
      · exact bounded
  | readTCP =>
      rw [readerStep]
      split
      · exact
          bounded.drains (.of_eq rfl) (by intro reads; cases reads)
      · exact bounded
  | proceed outcome => exact bounded_proceed bounded outcome

private theorem bounded_run {reader : Reader} (bounded : Bounded reader)
    (events : List ReaderEvent) :
    Bounded (run readerStep reader events) :=
  @run_invariant _ _ _ Bounded
    (fun _ event bounded => bounded_readerStep bounded event) events _
    bounded

/-- Some run of the reader leads from one state to the other. -/
def Leads (before after : Reader) : Prop :=
  ∃ events, run readerStep before events = after

theorem Leads.step (reader : Reader) (event : ReaderEvent) :
    Leads reader (readerStep reader event) :=
  ⟨[event], rfl⟩

theorem Leads.refl (reader : Reader) : Leads reader reader :=
  ⟨[], rfl⟩

theorem Leads.trans {first second third : Reader}
    (earlier : Leads first second) (later : Leads second third) :
    Leads first third := by
  obtain ⟨earlier, rfl⟩ := earlier
  obtain ⟨later, rfl⟩ := later
  exact ⟨earlier ++ later, List.foldl_append⟩

private theorem leads_full {connection : TcpConnection}
    (full : stagingCap ≤ connection.session.receivingStreamSize) :
    Leads ⟨connection, .check⟩
      ⟨connection.updateSession (Session.unsubscribeKey .read),
        .outside⟩ :=
  ⟨[.proceed .nothing], if_pos full⟩

private theorem leads_room {connection : TcpConnection}
    (room : ¬ stagingCap ≤ connection.session.receivingStreamSize) :
    Leads ⟨connection, .check⟩ ⟨connection, .read⟩ :=
  ⟨[.proceed .nothing], if_neg room⟩

/-- From the length check the reader does what is left of the loop. -/
private theorem leads_readLoop (outcomes : List ReadOutcome)
    (connection : TcpConnection) :
    Leads ⟨connection, .check⟩
      ⟨(readLoop outcomes connection).1, .outside⟩ := by
  induction outcomes generalizing connection with
  | nil =>
      rw [readLoop]
      by_cases full : stagingCap ≤ connection.session.receivingStreamSize
      · rw [if_pos full]
        exact leads_full full
      · rw [if_neg full]
        -- A read that throws `NotYetConnectedException` only ends the loop.
        exact
          (leads_room full).trans
            (.step _ (.proceed (.failure .notYetConnected)))
  | cons outcome later inductionHypothesis =>
      rw [readLoop]
      by_cases full : stagingCap ≤ connection.session.receivingStreamSize
      · rw [if_pos full]
        exact leads_full full
      · rw [if_neg full]
        have read :=
          (leads_room full).trans (.step ⟨connection, .read⟩ (.proceed outcome))
        rw [readerStep, Reader.proceed] at read
        dsimp only at read ⊢
        generalize connection.channel.read outcome = answer at read ⊢
        obtain ⟨result, channel⟩ := answer
        cases result with
        | data chunk =>
            have pumped :=
              read.trans (.step _ (.proceed .nothing))
            exact pumped.trans (inductionHypothesis _)
        | nothing => exact read
        | endOfStream => exact read.trans (.step _ (.proceed .nothing))
        | failure exception => exact read

private theorem leads_readTCP (outcomes : List ReadOutcome)
    (connection : TcpConnection) :
    Leads ⟨connection, .outside⟩
      ⟨(readTCP outcomes connection).1, .outside⟩ := by
  rw [readTCP]
  by_cases aborting : connection.session.abortingConnection = true
  · rw [if_pos aborting]
    exact .refl _
  · rw [if_neg aborting]
    have entered :
        readerStep ⟨connection, .outside⟩ .readTCP =
          ⟨connection, .check⟩ :=
      if_pos ⟨rfl, Bool.eq_false_iff.mpr aborting⟩
    have first := Leads.step ⟨connection, .outside⟩ .readTCP
    rw [entered] at first
    exact first.trans (leads_readLoop outcomes connection)

private theorem leads_nio (connection : TcpConnection) (part : NioPart) :
    Leads ⟨connection, .outside⟩ ⟨part.apply connection, .outside⟩ := by
  have applied := Leads.step ⟨connection, .outside⟩ (.nio part)
  rw [readerStep, if_pos rfl] at applied
  exact applied

private theorem read_eq_resubscribe (outcomes : List ReadOutcome)
    (connection : TcpConnection) :
    SocketChannelReader.read outcomes connection =
      (resubscribe (readTCP outcomes connection).1,
        (readTCP outcomes connection).2) := by
  rw [SocketChannelReader.read, resubscribe]
  rcases readTCP outcomes connection with ⟨after, bytesRead⟩
  dsimp only
  split
  · split
    · rfl
    · rfl
  · split
    · rfl
    · rfl

private theorem leads_processSelectorRead
    (ready : SocketNIODataService.Readiness) (connection : TcpConnection) :
    Leads ⟨connection, .outside⟩
      ⟨SocketNIODataService.processSelectorRead ready connection,
        .outside⟩ := by
  rw [SocketNIODataService.processSelectorRead]
  split
  · rw [read_eq_resubscribe]
    exact
      (leads_readTCP ready.reads connection).trans
        (leads_nio _ (.finishRead (readTCP ready.reads connection).2))
  · exact .refl _

private theorem leads_processConnectedSelection
    (ready : SocketNIODataService.Readiness) (connection : TcpConnection) :
    Leads ⟨connection, .outside⟩
      ⟨SocketNIODataService.processConnectedSelection ready connection,
        .outside⟩ := by
  rw [SocketNIODataService.processConnectedSelection]
  exact
    (leads_nio connection .subscribeRead).trans
      ((leads_processSelectorRead ready _).trans
        (leads_nio _ (.processPendingWrite ready)))

/-- An atomic step of either thread is a run of the reader. -/
private theorem leads_atomicStep (connection : TcpConnection)
    (step : AtomicStep) :
    Leads ⟨connection, .outside⟩ ⟨atomicStep connection step, .outside⟩ := by
  cases step with
  | handleTCPPacket segment currentTime =>
      exact .step _ (.handleTCPPacket segment currentTime)
  | processSelectionKey ready =>
      have selected :=
        SocketNIODataService.runSelectedKey_selected ready connection
      rw [atomicStep]
      generalize
        SocketNIODataService.runSelectedKey ready connection = after
          at selected ⊢
      cases selected with
      | unchanged => exact .refl _
      | refused => exact leads_nio connection .connectFailed
      | waiting => exact leads_nio connection (.connectAnswered false)
      | selected => exact leads_processConnectedSelection ready connection
      | answered connected =>
          exact
            (leads_nio connection (.connectAnswered connected)).trans
              (leads_processConnectedSelection ready _)

/-- A run of atomic steps is a run of the reader. -/
private theorem leads_run (steps : List AtomicStep)
    (connection : TcpConnection) :
    Leads ⟨connection, .outside⟩
      ⟨run atomicStep connection steps, .outside⟩ := by
  induction steps generalizing connection with
  | nil => exact .refl _
  | cons step later inductionHypothesis =>
      exact
        (leads_atomicStep connection step).trans
          (inductionHypothesis (atomicStep connection step))

/-- From its SYN on, a session never has more staged than one read behind the
cap, not even between two rounds of the pump, and no read finds the cap
reached. -/
theorem staging_bounded (syn : ClientSegment)
    (opening : SessionHandler.Opening) (events : List ReaderEvent) :
    let reader :=
      run readerStep ⟨SessionHandler.replySynAck syn opening, .outside⟩
        events
    reader.connection.session.receivingStreamSize ≤
        stagingCap - 1 + maxReceiveBufferSize ∧
      (reader.point = .read →
        reader.connection.session.receivingStreamSize < stagingCap) ∧
      ∀ ipHeader tcpheader segMax rounds,
        (pumpStaged ipHeader tcpheader segMax rounds
              reader.connection).session.receivingStreamSize ≤
          stagingCap - 1 + maxReceiveBufferSize := by
  intro reader
  have start :
      Bounded ⟨SessionHandler.replySynAck syn opening, .outside⟩ :=
    ⟨Nat.zero_le _, by intro reads; cases reads⟩
  have bounded : Bounded reader := bounded_run start events
  refine ⟨bounded.staged, bounded.room, ?_⟩
  intro ipHeader tcpheader segMax rounds
  exact
    le_trans
      (drains_pumpStaged ipHeader tcpheader segMax rounds
        reader.connection)
      bounded.staged

/-- The bound between two atomic steps. -/
theorem staging_bounded_atomic (syn : ClientSegment)
    (opening : SessionHandler.Opening) (steps : List AtomicStep) :
    (run atomicStep (SessionHandler.replySynAck syn opening)
          steps).session.receivingStreamSize ≤
      stagingCap - 1 + maxReceiveBufferSize := by
  obtain ⟨events, reached⟩ :=
    leads_run steps (SessionHandler.replySynAck syn opening)
  have start :
      Bounded ⟨SessionHandler.replySynAck syn opening, .outside⟩ :=
    ⟨Nat.zero_le _, by intro reads; cases reads⟩
  have bounded := bounded_run start events
  rw [reached] at bounded
  exact bounded.staged

end LanShield.Vpn
