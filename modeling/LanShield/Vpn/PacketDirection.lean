import LanShield.Vpn.DownloadEffects
import LanShield.Vpn.UpstreamFailures

/-!
# The direction of the packets written for a session

The builders take no endpoints from the session: they flip the headers they
are given.  A packet therefore goes to the client as long as the headers come
from it, and `sendFin` turns the session's own headers around.
-/

namespace LanShield.Vpn

open LanShield.Library LanShield.Transport

/-! ## Routes -/

/-- The two endpoints of a packet. -/
structure Route where
  sourceIp : IPAddress
  sourcePort : Nat
  destinationIp : IPAddress
  destinationPort : Nat
  deriving DecidableEq, Repr

namespace Route

def reverse (route : Route) : Route where
  sourceIp := route.destinationIp
  sourcePort := route.destinationPort
  destinationIp := route.sourceIp
  destinationPort := route.sourcePort

end Route

/-- The endpoints two headers name. -/
def headerRoute (ipHeader : IPHeader) (tcpheader : TCPHeader) : Route where
  sourceIp := ipHeader.getSourceIP
  sourcePort := tcpheader.sourcePort
  destinationIp := ipHeader.getDestinationIP
  destinationPort := tcpheader.destinationPort

def ClientSegment.route (segment : ClientSegment) : Route :=
  headerRoute segment.ipHeader segment.tcpheader

/-- The endpoints of a packet written to the client. -/
def packetRoute (packet : Packet) : Route :=
  headerRoute packet.ipHeader packet.transportHeader

namespace Session

/-- From the client of the session to its server. -/
def route (session : Session) : Route where
  sourceIp := session.sourceIp
  sourcePort := session.sourcePort
  destinationIp := session.destIp
  destinationPort := session.destPort

/-- The endpoints of the last headers, once there are any. -/
def lastRoute (session : Session) : Option Route :=
  match session.lastIpHeader, session.lastTcpHeader with
  | some ipHeader, some tcpheader => some (headerRoute ipHeader tcpheader)
  | _, _ => none

/-- The last headers are those of a packet from the client. -/
def HeadersFromClient (session : Session) : Prop :=
  session.lastRoute = some session.route

instance (session : Session) : Decidable session.HeadersFromClient :=
  inferInstanceAs (Decidable (_ = _))

theorem lastRoute_some {session : Session} {ipHeader : IPHeader}
    {tcpheader : TCPHeader}
    (hasIp : session.lastIpHeader = some ipHeader)
    (hasTcp : session.lastTcpHeader = some tcpheader) :
    session.lastRoute = some (headerRoute ipHeader tcpheader) := by
  rw [lastRoute]
  rw [hasIp, hasTcp]

theorem exists_of_lastRoute {session : Session}
    (known : session.lastRoute ≠ none) :
    ∃ ipHeader tcpheader,
      session.lastIpHeader = some ipHeader ∧
        session.lastTcpHeader = some tcpheader := by
  rw [lastRoute] at known
  cases hasIp : session.lastIpHeader with
  | none =>
      rw [hasIp] at known
      exact (known rfl).elim
  | some ipHeader =>
      cases hasTcp : session.lastTcpHeader with
      | none =>
          rw [hasIp, hasTcp] at known
          exact (known rfl).elim
      | some tcpheader => exact ⟨ipHeader, tcpheader, rfl, rfl⟩

end Session

/-! ## The builders reverse the route they are given -/

section Builders

variable (ipHeader : IPHeader) (tcpheader : TCPHeader)

private theorem route_createFinAckData
    (ackToClient seqToClient : Int) (isFin isAck : Bool)
    (currentTime : Int) :
    packetRoute
        (TCPPacketFactory.createFinAckData ipHeader tcpheader ackToClient
          seqToClient isFin isAck currentTime) =
      (headerRoute ipHeader tcpheader).reverse := by
  cases ipHeader <;> rfl

private theorem route_createFinData
    (ackNumber seqNumber timeSender timeReplyTo : Int) :
    packetRoute
        (TCPPacketFactory.createFinData ipHeader tcpheader ackNumber
          seqNumber timeSender timeReplyTo) =
      (headerRoute ipHeader tcpheader).reverse := by
  cases ipHeader <;> rfl

theorem route_createRstData (datalength : Nat) :
    packetRoute
        (TCPPacketFactory.createRstData ipHeader tcpheader datalength) =
      (headerRoute ipHeader tcpheader).reverse := by
  cases ipHeader <;> rfl

private theorem route_createResponseAckData (ackToClient currentTime : Int) :
    packetRoute
        (TCPPacketFactory.createResponseAckData ipHeader tcpheader
          ackToClient currentTime) =
      (headerRoute ipHeader tcpheader).reverse := by
  cases ipHeader <;> rfl

private theorem route_createResponsePacketData
    (packetData : List UInt8) (isPsh : Bool)
    (ackNumber seqNumber timeSender timeReplyto : Int) :
    packetRoute
        (TCPPacketFactory.createResponsePacketData ipHeader tcpheader
          packetData isPsh ackNumber seqNumber timeSender timeReplyto) =
      (headerRoute ipHeader tcpheader).reverse := by
  cases ipHeader <;> rfl

private theorem route_createSynAckPacketData (random currentTime : Int) :
    packetRoute
        (TCPPacketFactory.createSynAckPacketData ipHeader tcpheader random
          currentTime) =
      (headerRoute ipHeader tcpheader).reverse := by
  cases ipHeader <;> rfl

end Builders

/-! ## What is kept along a run -/

/-- The session runs along the route, and so do its last headers unless it
is aborting.  If the steps so far were guarded, everything written goes back
along the route. -/
structure Directed (guarded : Prop) (route : Route)
    (connection : TcpConnection) : Prop where
  route_eq : connection.session.route = route
  written :
    guarded →
      ∀ entry ∈ connection.written,
        packetRoute entry.packet = route.reverse
  known : connection.session.lastRoute ≠ none
  headers :
    connection.session.lastRoute = some route ∨
      connection.session.abortingConnection = true

namespace Directed

variable {guarded : Prop} {route : Route} {connection : TcpConnection}

theorem of_same {after : TcpConnection}
    (directed : Directed guarded route connection)
    (sameRoute : after.session.route = connection.session.route)
    (sameWritten : after.written = connection.written)
    (sameHeaders :
      after.session.lastRoute = connection.session.lastRoute)
    (aborts :
      connection.session.abortingConnection = true →
        after.session.abortingConnection = true) :
    Directed guarded route after := by
  refine ⟨sameRoute.trans directed.route_eq, ?_, ?_, ?_⟩
  · rw [sameWritten]
    exact directed.written
  · rw [sameHeaders]
    exact directed.known
  · rw [sameHeaders]
    exact directed.headers.imp_right aborts

theorem write (directed : Directed guarded route connection) (sender : Sender)
    {packet : Packet}
    (back : guarded → packetRoute packet = route.reverse) :
    Directed guarded route (connection.write sender packet) := by
  refine ⟨directed.route_eq, ?_, directed.known, directed.headers⟩
  intro met entry member
  rcases List.mem_append.mp member with earlier | last
  · exact directed.written met entry earlier
  · rw [List.mem_singleton.mp last]
    exact back met

/-- The last headers of a session that is not aborting. -/
private theorem headers_route (directed : Directed guarded route connection)
    (notAborting : connection.session.abortingConnection = false)
    {ipHeader : IPHeader} {tcpheader : TCPHeader}
    (hasIp : connection.session.lastIpHeader = some ipHeader)
    (hasTcp : connection.session.lastTcpHeader = some tcpheader) :
    headerRoute ipHeader tcpheader = route := by
  rcases directed.headers with known | aborting
  · rw [Session.lastRoute_some hasIp hasTcp] at known
    exact Option.some.inj known
  · rw [notAborting] at aborting
    cases aborting

private theorem headers_fromClient
    (directed : Directed guarded route connection)
    (fromClient : connection.session.HeadersFromClient)
    {ipHeader : IPHeader} {tcpheader : TCPHeader}
    (hasIp : connection.session.lastIpHeader = some ipHeader)
    (hasTcp : connection.session.lastTcpHeader = some tcpheader) :
    headerRoute ipHeader tcpheader = route := by
  have known := Session.lastRoute_some hasIp hasTcp
  rw [fromClient, directed.route_eq] at known
  exact (Option.some.inj known).symm

end Directed

/-! ## Reading -/

section Reading

open SocketChannelReader

variable {guarded : Prop} {route : Route} {connection : TcpConnection}

private theorem directed_pumpStaged {ipHeader : IPHeader}
    {tcpheader : TCPHeader}
    (along : headerRoute ipHeader tcpheader = route) (segMax : Int)
    (rounds : Nat) {connection : TcpConnection}
    (directed : Directed guarded route connection) :
    Directed guarded route
      (pumpStaged ipHeader tcpheader segMax rounds connection) := by
  induction rounds generalizing connection with
  | zero => exact directed
  | succ rounds inductionHypothesis =>
      rw [pumpStaged]
      split
      · dsimp only [Session.getReceivedData]
        split
        · exact directed
        · split
          · exact directed.of_same rfl rfl rfl id
          · apply inductionHypothesis
            rw [sendSegment]
            apply Directed.write
            · exact directed.of_same rfl rfl rfl id
            · intro _
              rw [route_createResponsePacketData, along]
      · exact directed

private theorem directed_afterPump {ipHeader : IPHeader}
    {tcpheader : TCPHeader}
    (along : headerRoute ipHeader tcpheader = route)
    (directed : Directed guarded route connection) :
    Directed guarded route (afterPump ipHeader tcpheader connection) := by
  unfold afterPump
  dsimp only
  split
  · refine ⟨directed.route_eq, ?_, nofun, Or.inr rfl⟩
    intro met entry member
    rcases List.mem_append.mp member with earlier | last
    · exact directed.written met entry earlier
    · rw [List.mem_singleton.mp last, ← along]
      exact route_createFinData ipHeader tcpheader _ _ _ _
  · split
    · exact directed.of_same rfl rfl rfl id
    · exact directed

private theorem directed_pumpToClient
    (notAborting : connection.session.abortingConnection = false)
    (directed : Directed guarded route connection) :
    Directed guarded route (pumpToClient connection) := by
  rw [pumpToClient]
  split
  · next ipHeader tcpheader hasIp hasTcp =>
    have along := directed.headers_route notAborting hasIp hasTcp
    exact
      directed_afterPump along (directed_pumpStaged along _ _ directed)
  · exact directed

private theorem directed_endUpstream
    (notAborting : connection.session.abortingConnection = false)
    (directed : Directed guarded route connection) :
    Directed guarded route (endUpstream connection) := by
  rw [endUpstream]
  apply directed_pumpToClient
  · exact notAborting
  · exact directed.of_same rfl rfl rfl id

private theorem directed_readFailed (exception : SocketException)
    (directed : Directed guarded route connection) :
    Directed guarded route (readFailed exception connection) := by
  cases exception with
  | notYetConnected => exact directed
  | closedByInterrupt => exact directed
  | closedChannel => exact directed
  | other => exact directed.of_same rfl rfl rfl fun _ => rfl

private theorem directed_readLoop (outcomes : List ReadOutcome)
    {connection : TcpConnection} (noted : EndNoted connection)
    (notAborting : connection.session.abortingConnection = false)
    (directed : Directed guarded route connection) :
    Directed guarded route (readLoop outcomes connection).1 := by
  induction outcomes generalizing connection with
  | nil =>
      rw [readLoop]
      split
      · exact directed.of_same rfl rfl rfl id
      · exact directed
  | cons outcome later inductionHypothesis =>
      have ended (channel : SocketChannel) :
          Directed guarded route (endUpstream { connection with channel }) := by
        apply directed_endUpstream
        · exact notAborting
        · exact directed.of_same rfl rfl rfl id
      rw [readLoop]
      split
      · exact directed.of_same rfl rfl rfl id
      · cases outcome with
        | data chunk =>
            by_cases atEnd : connection.channel.atEnd = true
            · simp only [SocketChannel.read, if_pos atEnd]
              exact ended connection.channel
            · simp only [SocketChannel.read, if_neg atEnd]
              have goesOn :
                  connection.session.upstreamEof = false := by
                rw [noted]
                exact Bool.eq_false_iff.mpr atEnd
              rw [sendToRequester]
              apply inductionHypothesis
              · refine
                  @Effects.preserve PumpEffect EndNoted
                    (fun _ _ effect noted => noted.pump effect) _ _
                    (pumpToClient_effects _) ?_
                exact noted
              · refine (pumpToClient_goes_on ?_ ?_).2
                · exact goesOn
                · exact notAborting
              · apply directed_pumpToClient
                · exact notAborting
                · exact directed.of_same rfl rfl rfl id
        | nothing =>
            by_cases atEnd : connection.channel.atEnd = true
            · simp only [SocketChannel.read, if_pos atEnd]
              exact ended connection.channel
            · simp only [SocketChannel.read, if_neg atEnd]
              exact directed.of_same rfl rfl rfl id
        | endOfStream => exact ended _
        | failure exception =>
            exact directed_readFailed exception directed

private theorem directed_readTCP (outcomes : List ReadOutcome)
    (noted : EndNoted connection)
    (directed : Directed guarded route connection) :
    Directed guarded route (readTCP outcomes connection).1 := by
  rw [readTCP]
  by_cases aborting : connection.session.abortingConnection = true
  · rw [if_pos aborting]
    exact directed
  · rw [if_neg aborting]
    exact
      directed_readLoop outcomes noted (Bool.eq_false_iff.mpr aborting)
        directed

theorem Directed.closeSession (directed : Directed guarded route connection) :
    Directed guarded route connection.closeSession := by
  rw [TcpConnection.closeSession]
  split
  · exact directed.of_same rfl rfl rfl id
  · exact directed

theorem Directed.removeAborted (directed : Directed guarded route connection) :
    Directed guarded route connection.removeAborted := by
  rw [TcpConnection.removeAborted]
  apply Directed.closeSession
  split
  · exact directed.of_same rfl rfl rfl id
  · exact directed.of_same rfl rfl rfl id

private theorem directed_read (outcomes : List ReadOutcome)
    (noted : EndNoted connection)
    (directed : Directed guarded route connection) :
    Directed guarded route
      (SocketChannelReader.read outcomes connection).1 := by
  have looped := directed_readTCP outcomes noted directed
  obtain ⟨key, _, ended⟩ := read_ended outcomes connection
  have subscribed :
      Directed guarded route
        ((readTCP outcomes connection).1.updateSession fun session =>
          { session with selectionkey := key }) :=
    looped.of_same rfl rfl rfl id
  rw [ended]
  dsimp only
  split
  · exact subscribed.removeAborted
  · exact subscribed

end Reading

/-! ## Writing -/

section Writing

open SocketChannelWriter SocketNIODataService

variable {guarded : Prop} {route : Route} {connection : TcpConnection}

/-- The last headers a packet about a failed write is built from. -/
def FailsFromClient (thrown : Option SocketException)
    (connection : TcpConnection) : Prop :=
  ∀ exception, thrown = some exception → exception.isIOException = true →
    connection.session.HeadersFromClient

private theorem directed_writeFailed
    (fromClient : guarded → connection.session.HeadersFromClient)
    (directed : Directed guarded route connection) :
    Directed guarded route (writeFailed connection) := by
  rw [writeFailed]
  split
  · next ipHeader tcpheader hasIp hasTcp =>
    have written :
        Directed guarded route
          (connection.write .writeTCP
            (TCPPacketFactory.createRstData ipHeader tcpheader 0)) := by
      apply directed.write
      intro met
      rw [route_createRstData,
        directed.headers_fromClient (fromClient met) hasIp hasTcp]
    exact written.of_same rfl rfl rfl fun _ => rfl
  · exact directed

private theorem directed_writePendingData (outcomes : List WriteOutcome)
    (directed : Directed guarded route connection) :
    Directed guarded route (writePendingData outcomes connection).1 := by
  rw [writePendingData_connection]
  exact directed.of_same rfl rfl rfl id

private theorem directed_writeTCP (outcomes : List WriteOutcome)
    (fails :
      guarded →
        FailsFromClient (writePendingDataThrows outcomes connection)
          connection)
    (directed : Directed guarded route connection) :
    Directed guarded route (writeTCP outcomes connection).1 := by
  have pending := directed_writePendingData outcomes directed
  have kept (fromClient : connection.session.HeadersFromClient) :
      (writePendingData outcomes
        connection).1.session.HeadersFromClient := by
    rw [writePendingData_connection]
    exact fromClient
  have thrown := @writePendingData_throws outcomes connection
  rw [writeTCP]
  split
  · next written amount result =>
    rw [result] at pending
    exact pending
  · next written result =>
    rw [result] at pending
    exact pending
  · next written exception io result =>
    rw [result] at pending kept thrown
    apply directed_writeFailed ?_ pending
    intro met
    exact kept (fails met exception (thrown.mp rfl) (decide_eq_true io))

private theorem directed_write (outcomes : List WriteOutcome)
    (fails :
      guarded →
        FailsFromClient (writePendingDataThrows outcomes connection)
          connection)
    (directed : Directed guarded route connection) :
    Directed guarded route
      (SocketChannelWriter.write outcomes connection).1 := by
  have written := directed_writeTCP outcomes fails directed
  rw [SocketChannelWriter.write]
  dsimp only
  split
  · exact written.removeAborted
  · exact written

private theorem directed_processPendingWrite (ready : Readiness)
    (fails :
      guarded →
        FailsFromClient (pendingWriteThrows ready connection) connection)
    (directed : Directed guarded route connection) :
    Directed guarded route (processPendingWrite ready connection) := by
  rw [pendingWriteThrows] at fails
  rw [processPendingWrite]
  split
  · exact directed.of_same rfl rfl rfl id
  · next pending =>
    rw [if_neg pending] at fails
    split
    · next writable =>
      rw [if_pos writable] at fails
      have unsubscribed :
          Directed guarded route
            (connection.updateSession (Session.unsubscribeKey .write)) :=
        directed.of_same rfl rfl rfl id
      have written := directed_write ready.writes fails unsubscribed
      generalize SocketChannelWriter.write ready.writes _ = outcome
        at written ⊢
      exact written.of_same rfl rfl rfl id
    · exact directed

end Writing

/-! ## The NIO thread -/

section Selecting

open SocketNIODataService

variable {guarded : Prop} {route : Route} {connection : TcpConnection}

theorem pendingWriteThrows_valid {ready : Readiness}
    {exception : SocketException}
    (thrown : pendingWriteThrows ready connection = some exception) :
    connection.session.selectionkey.isValid = true := by
  rw [pendingWriteThrows] at thrown
  split at thrown
  · cases thrown
  · split at thrown
    · next writable => exact ((Bool.and_eq_true _ _).mp writable).1
    · cases thrown

theorem directed_processSelectorRead (ready : Readiness)
    (noted : EndNoted connection)
    (directed : Directed guarded route connection) :
    Directed guarded route (processSelectorRead ready connection) := by
  rw [processSelectorRead]
  split
  · have read := directed_read ready.reads noted directed
    generalize
      SocketChannelReader.read ready.reads connection = outcome at read ⊢
    exact read.of_same rfl rfl rfl id
  · exact directed

/-- Where the session can still be written for after reading, its last
headers are from where they were before. -/
theorem processSelectorRead_lastRoute {ready : Readiness}
    (noted : EndNoted connection)
    (directed : Directed guarded route connection)
    (valid :
      (processSelectorRead ready
          connection).session.selectionkey.isValid = true) :
    (processSelectorRead ready connection).session.lastRoute =
      connection.session.lastRoute := by
  have after := directed_processSelectorRead ready noted directed
  rw [processSelectorRead] at after valid ⊢
  by_cases readable :
      (connection.session.selectionkey.isValid &&
        ready.isReadable) = true
  · rw [if_pos readable] at after valid ⊢
    have stops := @read_aborting ready.reads connection
    have runs := @read_valid ready.reads connection
    generalize
      SocketChannelReader.read ready.reads connection = outcome
      at after valid stops runs ⊢
    rcases after.headers with known | aborting
    · rcases directed.headers with knownBefore | abortingBefore
      · exact known.trans knownBefore.symm
      · exact (Bool.eq_false_iff.mp (stops abortingBefore) valid).elim
    · exact (Bool.eq_false_iff.mp (runs valid) aborting).elim
  · rw [if_neg readable]

private theorem directed_processConnectedSelection (ready : Readiness)
    (noted : EndNoted connection)
    (fails :
      guarded →
        ∀ exception,
          UpstreamFailure.write exception ∈
              connectedSelectionThrows ready connection →
            exception.isIOException = true →
              connection.session.HeadersFromClient)
    (directed : Directed guarded route connection) :
    Directed guarded route (processConnectedSelection ready connection) := by
  have subscribed :
      Directed guarded route
        (connection.updateSession fun session =>
          (session.unsubscribeKey .connect).subscribeKey .read) :=
    directed.of_same rfl rfl rfl id
  have still :
      EndNoted
        (connection.updateSession fun session =>
          (session.unsubscribeKey .connect).subscribeKey .read) :=
    noted
  have read := directed_processSelectorRead ready still subscribed
  rw [processConnectedSelection]
  apply directed_processPendingWrite
  · intro met exception thrown io
    have fromClient : connection.session.HeadersFromClient := by
      apply fails met exception ?_ io
      apply List.mem_append_right
      rw [thrown]
      exact List.mem_singleton.mpr rfl
    have sameRoute :=
      processSelectorRead_lastRoute still subscribed
        (pendingWriteThrows_valid thrown)
    refine sameRoute.trans (fromClient.trans (congrArg some ?_))
    exact directed.route_eq.trans read.route_eq.symm
  · exact read

private theorem directed_runSelectedKey (ready : Readiness)
    (noted : EndNoted connection)
    (fails :
      guarded →
        ∀ exception,
          UpstreamFailure.write exception ∈
              upstreamFailures ready connection →
            connection.session.HeadersFromClient)
    (directed : Directed guarded route connection) :
    Directed guarded route (runSelectedKey ready connection) := by
  have throwing := runSelectedKey_throwing ready connection
  rw [upstreamFailures] at fails
  generalize runSelectedKey ready connection = after at throwing ⊢
  generalize selectedKeyThrows ready connection = thrown at throwing fails
  cases throwing with
  | unchanged => exact directed
  | refused => exact directed.of_same rfl rfl rfl id
  | waiting => exact directed.of_same rfl rfl rfl id
  | selected reached =>
      apply directed_processConnectedSelection ready noted ?_ directed
      intro met exception thrown io
      exact fails met exception (List.mem_filter.mpr ⟨thrown, io⟩)
  | answered connected reached =>
      have answered :
          Directed guarded route (connectAnswered connected connection) :=
        directed.of_same rfl rfl rfl id
      apply directed_processConnectedSelection ready ?_ ?_ answered
      · cases connected with
        | false => exact noted
        | true => exact noted
      · intro met exception thrown io
        exact fails met exception (List.mem_filter.mpr ⟨thrown, io⟩)

end Selecting

/-! ## The packet thread -/

section Handling

open SessionHandler

variable {guarded : Prop} {route : Route} {connection : TcpConnection}
  {segment : ClientSegment}

private theorem directed_handleData (along : segment.route = route)
    (currentTime : Int) (directed : Directed guarded route connection) :
    Directed guarded route (handleData segment currentTime connection) := by
  rw [handleData]
  split
  · have added :
        Directed guarded route
          (connection.addClientData segment.tcpheader.sequenceNumber
            segment.data).2 := by
      rw [TcpConnection.addClientData, Session.setSendingData]
      split
      · exact directed
      · cases connection.session.protocol with
        | tcp => exact directed.of_same rfl rfl rfl id
        | udp => exact directed.of_same rfl rfl rfl id
    unfold sendAck
    apply Directed.write
    · exact added.of_same rfl rfl rfl id
    · intro _
      rw [route_createResponseAckData, ← along]
      rfl
  · rw [sendAckForDisorder]
    apply directed.write
    intro _
    rw [route_createResponseAckData, ← along]
    rfl

private theorem directed_acceptAck (currentTime : Int)
    (directed : Directed guarded route connection) :
    Directed guarded route
      (connection.updateSession
        (acceptAck segment.tcpheader currentTime)) := by
  by_cases advances : Advances connection.session segment.tcpheader
  · rw [TcpConnection.updateSession]
    rw [acceptAck_advances advances]
    exact directed.of_same rfl rfl rfl id
  · rw [TcpConnection.updateSession]
    rw [acceptAck_stale advances]
    exact directed.of_same rfl rfl rfl id

private theorem directed_handleAck (along : segment.route = route)
    (currentTime : Int) (directed : Directed guarded route connection) :
    Directed guarded route (handleAck segment currentTime connection) := by
  have accepted :=
    @directed_acceptAck guarded route connection segment currentTime
      directed
  unfold handleAck
  dsimp only
  split
  · rw [sendFinAck]
    have written :=
      accepted.write .sendFinAck fun _ =>
        (route_createFinAckData segment.ipHeader segment.tcpheader
          segment.tcpheader.sequenceNumber segment.tcpheader.ackNumber
          true false currentTime).trans (congrArg Route.reverse along)
    exact written.of_same rfl rfl rfl id
  · split
    · exact accepted.closeSession
    · exact accepted

private theorem directed_writeFinAck (along : segment.route = route)
    (currentTime : Int) (directed : Directed guarded route connection) :
    Directed guarded route (writeFinAck segment currentTime connection) :=
  directed.write .ackFinAck fun _ =>
    (route_createFinAckData segment.ipHeader segment.tcpheader _ _ true
      true currentTime).trans (congrArg Route.reverse along)

private theorem directed_resetTCPConnection
    (directed : Directed guarded route connection) :
    Directed guarded route (resetTCPConnection connection) := by
  rw [resetTCPConnection]
  split
  · exact directed.of_same rfl rfl rfl fun _ => rfl
  · exact directed

private theorem directed_handleFlags (along : segment.route = route)
    (currentTime : Int) (directed : Directed guarded route connection) :
    Directed guarded route (handleFlags segment currentTime connection) := by
  rw [handleFlags]
  split
  · exact directed.of_same rfl rfl rfl id
  · split
    · have written := directed_writeFinAck along currentTime directed
      have cancelled :
          Directed guarded route
            ((writeFinAck segment currentTime connection).updateSession
              Session.cancelKey) :=
        written.of_same rfl rfl rfl id
      exact cancelled.closeSession.of_same rfl rfl rfl fun _ => rfl
    · split
      · exact directed_resetTCPConnection directed
      · exact directed

private theorem directed_finishSegment
    (directed : Directed guarded route connection) :
    Directed guarded route (finishSegment connection) := by
  rw [finishSegment]
  split
  · exact directed
  · next notAborting =>
    apply directed_pumpToClient
    · exact Bool.eq_false_iff.mpr notAborting
    · exact directed.of_same rfl rfl rfl id

private theorem directed_handleSessionSegment (along : segment.route = route)
    (currentTime : Int) (directed : Directed guarded route connection) :
    Directed guarded route
      (handleSessionSegment segment currentTime connection) := by
  have noted :
      Directed guarded route (connection.updateSession (noteSegment segment)) :=
    ⟨directed.route_eq, directed.written, nofun,
      Or.inl (congrArg some along)⟩
  rw [handleSessionSegment]
  apply directed_finishSegment
  apply directed_handleFlags along
  unfold handleBody
  dsimp only
  split
  · exact directed_handleData along currentTime noted
  · exact directed_handleAck along currentTime noted

private theorem directed_handleUnknown (along : segment.route = route)
    (currentTime : Int) (directed : Directed guarded route connection) :
    Directed guarded route (handleUnknown segment currentTime connection) := by
  rw [handleUnknown]
  split
  · exact
      directed.write .sendLastAck fun _ =>
        (route_createResponseAckData segment.ipHeader segment.tcpheader _
          currentTime).trans (congrArg Route.reverse along)
  · split
    · exact directed
    · exact
        directed.write .sendRstPacket fun _ =>
          (route_createRstData segment.ipHeader segment.tcpheader _).trans
            (congrArg Route.reverse along)

private theorem directed_resendAck (currentTime : Int)
    (fromClient : guarded → connection.session.HeadersFromClient)
    (directed : Directed guarded route connection) :
    Directed guarded route (resendAck currentTime connection) := by
  rw [resendAck]
  split
  · next ipHeader tcpheader hasIp hasTcp =>
    apply directed.write
    intro met
    rw [route_createResponseAckData,
      directed.headers_fromClient (fromClient met) hasIp hasTcp]
  · exact directed

private theorem directed_handleTCPPacket (along : segment.route = route)
    (currentTime : Int)
    (repeated :
      guarded →
        segment.tcpheader.isSYN = true → connection.tracked = true →
          connection.session.HeadersFromClient)
    (directed : Directed guarded route connection) :
    Directed guarded route
      (handleTCPPacket segment currentTime connection) := by
  rw [handleTCPPacket]
  split
  · next syn =>
    split
    · next tracked =>
      exact
        directed_resendAck currentTime
          (fun met => repeated met syn tracked) directed
    · exact directed
  · split
    · split
      · exact directed_handleSessionSegment along currentTime directed
      · exact directed_handleUnknown along currentTime directed
    · split
      · split
        · exact directed.of_same rfl rfl rfl id
        · exact directed_writeFinAck along currentTime directed
      · split
        · exact directed_resetTCPConnection directed
        · exact directed

end Handling

/-! ## Runs -/

/-- The segments of a run are those the session is looked up for. -/
def StepAlong (route : Route) : AtomicStep → Prop
  | .handleTCPPacket segment _ => segment.route = route
  | .processSelectionKey _ => True

/-- A repeated SYN and a failed write find the last headers as the client
sent them. -/
def KeepsDirection (connection : TcpConnection) : AtomicStep → Prop
  | .handleTCPPacket segment _ =>
      segment.tcpheader.isSYN = true → connection.tracked = true →
        connection.session.HeadersFromClient
  | .processSelectionKey ready =>
      ∀ exception,
        UpstreamFailure.write exception ∈
            SocketNIODataService.upstreamFailures ready connection →
          connection.session.HeadersFromClient

theorem atomicStep_directed {guarded : Prop} {route : Route}
    (connection : TcpConnection) (step : AtomicStep)
    (met :
      StepAlong route step ∧
        (guarded → KeepsDirection connection step))
    (holds : Sound connection ∧ Directed guarded route connection) :
    Sound (atomicStep connection step) ∧
      Directed guarded route (atomicStep connection step) := by
  obtain ⟨along, keeps⟩ := met
  obtain ⟨sound, directed⟩ := holds
  refine ⟨sound.effects (atomicStep_effects sound step), ?_⟩
  cases step with
  | handleTCPPacket segment currentTime =>
      exact directed_handleTCPPacket along currentTime keeps directed
  | processSelectionKey ready =>
      exact directed_runSelectedKey ready sound.noted keeps directed

private theorem directed_replySynAck (guarded : Prop)
    (syn : ClientSegment) (opening : SessionHandler.Opening) :
    Directed guarded syn.route
      (SessionHandler.replySynAck syn opening) := by
  refine ⟨rfl, ?_, nofun, Or.inl rfl⟩
  intro _ entry member
  rw [List.mem_singleton.mp member]
  exact route_createSynAckPacketData syn.ipHeader syn.tcpheader _ _

private theorem directed_run
    (syn : ClientSegment) (opening : SessionHandler.Opening)
    (steps : List AtomicStep)
    (along : ∀ step ∈ steps, StepAlong syn.route step)
    (guarded :
      StepsMeet atomicStep KeepsDirection
        (SessionHandler.replySynAck syn opening) steps) :
    Directed True syn.route
      (run atomicStep (SessionHandler.replySynAck syn opening) steps) := by
  refine
    (@run_guarded_invariant TcpConnection AtomicStep atomicStep _ _
      atomicStep_directed steps _
      ⟨sound_replySynAck syn opening,
        directed_replySynAck True syn opening⟩ ?_).2
  apply StepsMeet.and_forall along
  exact
    (StepsMeet.congr (fun _ _ _ => true_imp_iff.symm) guarded).mp guarded

/-- Where the last headers come from, in any reachable state. -/
theorem headers_run
    (syn : ClientSegment) (opening : SessionHandler.Opening)
    (steps : List AtomicStep)
    (along : ∀ step ∈ steps, StepAlong syn.route step) :
    Sound (run atomicStep (SessionHandler.replySynAck syn opening)
        steps) ∧
      Directed False syn.route
        (run atomicStep (SessionHandler.replySynAck syn opening)
          steps) := by
  refine
    @run_guarded_invariant TcpConnection AtomicStep atomicStep _ _
      atomicStep_directed steps _
      ⟨sound_replySynAck syn opening,
        directed_replySynAck False syn opening⟩ ?_
  apply StepsMeet.and_forall along
  exact StepsMeet.of_forall (fun _ _ => False.elim) steps _

theorem packets_go_to_client
    (syn : ClientSegment) (opening : SessionHandler.Opening)
    (steps : List AtomicStep)
    (along : ∀ step ∈ steps, StepAlong syn.route step)
    (guarded :
      StepsMeet atomicStep KeepsDirection
        (SessionHandler.replySynAck syn opening) steps)
    (visited : List AtomicStep) (isPrefix : visited <+: steps) :
    ∀ entry ∈
        (run atomicStep (SessionHandler.replySynAck syn opening)
          visited).written,
      packetRoute entry.packet =
        (run atomicStep (SessionHandler.replySynAck syn opening)
          visited).session.route.reverse := by
  have directed :=
    directed_run syn opening visited
      (fun step member => along step (isPrefix.subset member))
      (guarded.of_isPrefix isPrefix)
  intro entry member
  rw [directed.route_eq]
  exact directed.written trivial entry member

theorem threeBytes_ne_nil : ([1, 2, 3] : List UInt8) ≠ [] := by
  decide

theorem threeBytes_fit :
    ([1, 2, 3] : List UInt8).length ≤ maxReceiveBufferSize := by
  decide

/-- The upstream end is reached while two of three bytes are still staged,
and the FIN is sent when the client's window opens. -/
def finOnPacketThread : List AtomicStep :=
  [.processSelectionKey
      { isConnectable := false
        isReadable := true
        isWritable := false
        connected := none
        reads :=
          [.data ⟨[1, 2, 3], threeBytes_ne_nil, threeBytes_fit⟩,
            .endOfStream]
        writes := [] },
    .handleTCPPacket (ClientSegment.plain 0x10 1 103 1000 []) 0]

/-- A session opened by a client with a window of two bytes. -/
def narrowConnection : TcpConnection :=
  SessionHandler.replySynAck (ClientSegment.plain 0x02 0 0 2 [])
    { random := 100, currentTime := 0, connected := true }

private theorem finOnPacketThread_along :
    ∀ step ∈ finOnPacketThread,
      StepAlong (ClientSegment.plain 0x02 0 0 2 []).route step := by
  intro step member
  rcases List.mem_pair.mp member with rfl | rfl
  · exact trivial
  · exact rfl

/-- A SYN repeated behind that FIN is acknowledged to the server. -/
theorem repeated_syn_turned_around :
    let reached :=
      run atomicStep narrowConnection
        (finOnPacketThread ++
          [.handleTCPPacket (ClientSegment.plain 0x02 0 0 2 []) 0])
    ¬ ∀ entry ∈ reached.written,
      packetRoute entry.packet = reached.session.route.reverse := by
  decide

theorem packets_go_to_client_before_fin :
    let reached := run atomicStep narrowConnection finOnPacketThread
    ∀ entry ∈ reached.written,
      packetRoute entry.packet = reached.session.route.reverse :=
  packets_go_to_client (ClientSegment.plain 0x02 0 0 2 [])
    { random := 100, currentTime := 0, connected := true }
    finOnPacketThread finOnPacketThread_along
    ⟨fun _ _ => by decide,
      fun repeated => absurd repeated (by decide), trivial⟩
    finOnPacketThread
    (List.prefix_refl _)

end LanShield.Vpn
