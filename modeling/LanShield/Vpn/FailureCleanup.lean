import LanShield.Vpn.PacketDirection
import LanShield.Vpn.SegmentRules

/-!
# What is left of a session after an upstream failure

Of the three calls that can fail only `channel.write` has a catch clause that
writes a RST.
-/

namespace LanShield.Vpn

open LanShield.Library LanShield.Transport

/-- A packet that only resets the connection. -/
def WrittenPacket.isReset (entry : WrittenPacket) : Bool :=
  entry.packet.transportHeader.isRST && entry.packet.data.isEmpty

/-- Nothing written in between is a reset. -/
def Quiet (before after : TcpConnection) : Prop :=
  ∃ more,
    after.written = before.written ++ more ∧
      ∀ entry ∈ more, entry.isReset = false

namespace Quiet

theorem of_same {before after : TcpConnection}
    (same : after.written = before.written) : Quiet before after :=
  ⟨[], same.trans (List.append_nil _).symm, fun _ => nofun⟩

theorem trans {first second third : TcpConnection}
    (earlier : Quiet first second) (later : Quiet second third) :
    Quiet first third := by
  obtain ⟨more, more_eq, more_quiet⟩ := earlier
  obtain ⟨rest, rest_eq, rest_quiet⟩ := later
  refine ⟨more ++ rest, ?_, ?_⟩
  · rw [rest_eq, more_eq, List.append_assoc]
  · intro entry member
    rcases List.mem_append.mp member with inMore | inRest
    · exact more_quiet entry inMore
    · exact rest_quiet entry inRest

theorem write {sender : Sender} {packet : Packet}
    {connection : TcpConnection}
    (other :
      packet.transportHeader.isRST = false ∨ packet.data ≠ []) :
    Quiet connection (connection.write sender packet) := by
  refine ⟨_, rfl, ?_⟩
  intro entry member
  rw [List.mem_singleton.mp member]
  rw [WrittenPacket.isReset]
  rcases other with noRst | hasData
  · rw [noRst]
    rfl
  · rw [List.isEmpty_eq_false_iff.mpr hasData, Bool.and_false]

end Quiet

private theorem quiet_readEffect {before after : TcpConnection}
    (effect : ReadEffect before after) : Quiet before after := by
  cases effect with
  | pump effect =>
      cases effect with
      | segment ipHeader tcpheader packetBody rest _ nonempty =>
          rw [SocketChannelReader.sendSegment]
          refine Quiet.trans ?_ (.write (Or.inr nonempty))
          exact .of_same rfl
      | finish ipHeader tcpheader =>
          have written :
              Quiet before
                (SocketChannelReader.sendFin ipHeader tcpheader before) := by
            rw [SocketChannelReader.sendFin]
            refine Quiet.trans ?_ (.write (Or.inl rfl))
            exact .of_same rfl
          exact written.trans (.of_same rfl)
      | interest interested => exact .of_same rfl
  | stage chunk lastSegment => exact .of_same rfl
  | endUpstream => exact .of_same rfl
  | abort => exact .of_same rfl

private theorem quiet_readEffects {before after : TcpConnection}
    (effects : ReadEffects before after) : Quiet before after := by
  induction effects with
  | refl => exact .of_same rfl
  | tail _ step inductionHypothesis =>
      exact inductionHypothesis.trans (quiet_readEffect step)

section Reading

open SocketChannelReader SocketNIODataService

variable {connection : TcpConnection}

/-- Reading leaves the channel connected. -/
private theorem readTCP_isConnected (outcomes : List ReadOutcome)
    (noted : EndNoted connection) :
    (readTCP outcomes connection).1.channel.isConnected =
      connection.channel.isConnected := by
  refine
    @Effects.view_eq Bool ReadEffect
      (fun connection => connection.channel.isConnected) ?_ _ _
      (readTCP_effects outcomes noted)
  intro before after effect
  cases effect with
  | pump effect => cases effect <;> rfl
  | stage => rfl
  | endUpstream => rfl
  | abort => rfl

private theorem quiet_processSelectorRead (ready : Readiness)
    (noted : EndNoted connection) :
    Quiet connection (processSelectorRead ready connection) := by
  rw [processSelectorRead]
  split
  · have looped :=
      quiet_readEffects (readTCP_effects ready.reads noted)
    obtain ⟨key, _, ended⟩ := read_ended ready.reads connection
    refine looped.trans (.of_same ?_)
    refine (congrArg TcpConnection.written ended).trans ?_
    dsimp only
    split
    · exact TcpConnection.written_removeAborted _
    · rfl
  · exact .of_same rfl

end Reading

section Writing

open SocketChannelWriter SocketNIODataService

variable {connection : TcpConnection}

/-- A write without an `IOException` writes nothing to the client. -/
private theorem written_write {outcomes : List WriteOutcome}
    (succeeds :
      ∀ exception,
        writePendingDataThrows outcomes connection = some exception →
          exception.isIOException = false) :
    (SocketChannelWriter.write outcomes connection).1.written =
      connection.written := by
  have looped :
      (writeTCP outcomes connection).1.written = connection.written := by
    rw [writeTCP_unfailed succeeds, writePendingData_connection]
  rw [SocketChannelWriter.write]
  dsimp only
  split
  · exact (TcpConnection.written_removeAborted _).trans looped
  · exact looped

private theorem written_processPendingWrite {ready : Readiness}
    (succeeds :
      ∀ exception, pendingWriteThrows ready connection = some exception →
        exception.isIOException = false) :
    (processPendingWrite ready connection).written =
      connection.written := by
  rw [pendingWriteThrows] at succeeds
  rw [processPendingWrite]
  split
  · rfl
  · next pending =>
    rw [if_neg pending] at succeeds
    split
    · next writable =>
      rw [if_pos writable] at succeeds
      exact written_write succeeds
    · rfl

theorem writeFailed_pending (outcomes : List WriteOutcome)
    {ipHeader : IPHeader} {tcpheader : TCPHeader}
    (hasIp : connection.session.lastIpHeader = some ipHeader)
    (hasTcp : connection.session.lastTcpHeader = some tcpheader) :
    writeFailed (writePendingData outcomes connection).1 =
      ((writePendingData outcomes connection).1.write .writeTCP
        (TCPPacketFactory.createRstData ipHeader tcpheader
          0)).updateSession fun session =>
            { session with abortingConnection := true } := by
  have hasIpStill :
      (writePendingData outcomes connection).1.session.lastIpHeader =
        some ipHeader := by
    rw [writePendingData_connection]
    exact hasIp
  have hasTcpStill :
      (writePendingData outcomes connection).1.session.lastTcpHeader =
        some tcpheader := by
    rw [writePendingData_connection]
    exact hasTcp
  rw [writeFailed]
  rw [hasIpStill, hasTcpStill]

/-- A write with an `IOException` writes a RST built from the last headers
and removes the session. -/
theorem write_failed {outcomes : List WriteOutcome}
    {exception : SocketException}
    (thrown :
      writePendingDataThrows outcomes connection = some exception)
    (io : exception.isIOException = true)
    {ipHeader : IPHeader} {tcpheader : TCPHeader}
    (hasIp : connection.session.lastIpHeader = some ipHeader)
    (hasTcp : connection.session.lastTcpHeader = some tcpheader) :
    (SocketChannelWriter.write outcomes connection).1 =
      TcpConnection.removeAborted
        (((writePendingData outcomes connection).1.write .writeTCP
          (TCPPacketFactory.createRstData ipHeader tcpheader
            0)).updateSession fun session =>
              { session with abortingConnection := true }) := by
  have failed :=
    (writeTCP_failed thrown io).trans
      (writeFailed_pending outcomes hasIp hasTcp)
  rw [SocketChannelWriter.write]
  dsimp only
  rw [failed]
  rfl

end Writing

section Selecting

open SocketNIODataService

variable {guarded : Prop} {route : Route} {connection : TcpConnection}
  {ready : Readiness} {segMax : Int}

private theorem mem_connectedSelectionThrows {exception : SocketException} :
    UpstreamFailure.write exception ∈
        connectedSelectionThrows ready connection ↔
      pendingWriteThrows ready
          (processSelectorRead ready
            (connection.updateSession fun session =>
              (session.unsubscribeKey .connect).subscribeKey .read)) =
        some exception := by
  rw [connectedSelectionThrows]
  simp

private theorem quiet_processConnectedSelection
    (noted : EndNoted connection)
    (succeeds :
      ∀ exception,
        UpstreamFailure.write exception ∈
            connectedSelectionThrows ready connection →
          exception.isIOException = false) :
    Quiet connection (processConnectedSelection ready connection) := by
  have still :
      EndNoted
        (connection.updateSession fun session =>
          (session.unsubscribeKey .connect).subscribeKey .read) :=
    noted
  have subscribed :
      Quiet connection
        (connection.updateSession fun session =>
          (session.unsubscribeKey .connect).subscribeKey .read) :=
    .of_same rfl
  refine (subscribed.trans (quiet_processSelectorRead ready still)).trans ?_
  apply Quiet.of_same
  apply written_processPendingWrite
  intro exception thrown
  exact succeeds exception (mem_connectedSelectionThrows.mpr thrown)

/-- As long as the key stays valid, reading leaves the channel connected. -/
private theorem processSelectorRead_isConnected
    (noted : EndNoted connection)
    (valid :
      (processSelectorRead ready
          connection).session.selectionkey.isValid = true) :
    (processSelectorRead ready connection).channel.isConnected =
      connection.channel.isConnected := by
  rw [processSelectorRead] at valid ⊢
  split at valid
  · next readable =>
    rw [if_pos readable]
    obtain ⟨key, kept, _⟩ := read_kept valid
    have looped := readTCP_isConnected ready.reads noted
    exact
      (congrArg (fun after => after.channel.isConnected) kept).trans looped
  · next unreadable => rw [if_neg unreadable]

/-- The session is removed with a RST built from its last headers, which is
the only reset written. -/
structure ResetAndRemoved (before after : TcpConnection) : Prop where
  removed : after.tracked = false
  closed : after.channel.isOpen = false
  written :
    ∃ quiet entry known,
      Quiet before quiet ∧
        after.written = quiet.written ++ [entry] ∧
        entry.isReset = true ∧
        entry.Serialised ∧
        before.session.lastRoute = some known ∧
        packetRoute entry.packet = known.reverse

private theorem resetAndRemoved_write {outcomes : List WriteOutcome}
    (connected : connection.channel.isConnected = true)
    (known : connection.session.lastRoute ≠ none)
    (complete : Obeys (completeRule segMax) connection.emission)
    {exception : SocketException}
    (thrown :
      SocketChannelWriter.writePendingDataThrows outcomes connection =
        some exception)
    (io : exception.isIOException = true) :
    ResetAndRemoved connection
      (SocketChannelWriter.write outcomes connection).1 := by
  obtain ⟨ipHeader, tcpheader, hasIp, hasTcp⟩ :=
    Session.exists_of_lastRoute known
  obtain ⟨ipComplete, tcpComplete⟩ :=
    complete.room ipHeader tcpheader hasIp hasTcp
  have serialised (session : Session) :
      WrittenPacket.Serialised
        ⟨.writeTCP, TCPPacketFactory.createRstData ipHeader tcpheader 0,
          session⟩ := by
    apply WrittenPacket.serialised_of_complete
    · exact
        TCPPacketFactory.setPayloadLength_complete
          (TCPPacketFactory.flipIP_complete ipComplete) _
    · exact ⟨tcpComplete.long, tcpComplete.short, rfl⟩
    · rfl
  rw [write_failed thrown io hasIp hasTcp,
    SocketChannelWriter.writePendingData_connection]
  refine ⟨TcpConnection.tracked_removeAborted _, ?_, ?_⟩
  · apply TcpConnection.isOpen_removeAborted
    exact connected
  · exact
      ⟨connection, _, headerRoute ipHeader tcpheader, .of_same rfl,
        TcpConnection.written_removeAborted _, rfl, serialised _,
        Session.lastRoute_some hasIp hasTcp,
        route_createRstData ipHeader tcpheader 0⟩

private theorem resetAndRemoved_processPendingWrite
    (connected : connection.channel.isConnected = true)
    (known : connection.session.lastRoute ≠ none)
    (complete : Obeys (completeRule segMax) connection.emission)
    {exception : SocketException}
    (thrown : pendingWriteThrows ready connection = some exception)
    (io : exception.isIOException = true) :
    ResetAndRemoved connection (processPendingWrite ready connection) := by
  rw [pendingWriteThrows] at thrown
  rw [processPendingWrite]
  split at thrown
  · cases thrown
  · next pending =>
    rw [if_neg pending]
    split at thrown
    · next writable =>
      rw [if_pos writable]
      have unsubscribed :=
        @resetAndRemoved_write
          (connection.updateSession (Session.unsubscribeKey .write))
          segMax ready.writes connected known complete exception thrown io
      exact
        ⟨unsubscribed.removed, unsubscribed.closed, unsubscribed.written⟩
    · cases thrown

private theorem resetAndRemoved_processConnectedSelection
    (noted : EndNoted connection)
    (directed : Directed guarded route connection)
    (complete : Obeys (completeRule segMax) connection.emission)
    (connected : connection.channel.isConnected = true)
    {exception : SocketException}
    (thrown :
      UpstreamFailure.write exception ∈
        connectedSelectionThrows ready connection)
    (io : exception.isIOException = true) :
    ResetAndRemoved connection
      (processConnectedSelection ready connection) := by
  have still :
      EndNoted
        (connection.updateSession fun session =>
          (session.unsubscribeKey .connect).subscribeKey .read) :=
    noted
  have subscribed :
      Directed guarded route
        (connection.updateSession fun session =>
          (session.unsubscribeKey .connect).subscribeKey .read) :=
    directed.of_same rfl rfl rfl id
  have writes := mem_connectedSelectionThrows.mp thrown
  have valid := pendingWriteThrows_valid writes
  have sameRoute := processSelectorRead_lastRoute still subscribed valid
  have connectedStill := processSelectorRead_isConnected still valid
  have knownStill :=
    (directed_processSelectorRead ready still subscribed).known
  have completeStill :
      Obeys (completeRule segMax)
        (processSelectorRead ready
          (connection.updateSession fun session =>
            (session.unsubscribeKey .connect).subscribeKey
              .read)).emission := by
    apply obeys_processSelectorRead
    exact complete
  have ended :=
    resetAndRemoved_processPendingWrite
      (connectedStill.trans connected) knownStill completeStill writes io
  obtain ⟨quiet, entry, known, isQuiet, written, reset, serialised,
    lastRoute, back⟩ := ended.written
  exact
    ⟨ended.removed, ended.closed, quiet, entry, known,
      (quiet_processSelectorRead ready still).trans isQuiet, written,
      reset, serialised, sameRoute.symm.trans lastRoute, back⟩

/-- An event whose write does not fail writes no reset. -/
private theorem quiet_runSelectedKey
    (noted : EndNoted connection)
    (succeeds :
      ∀ exception,
        UpstreamFailure.write exception ∉
          upstreamFailures ready connection) :
    Quiet connection (runSelectedKey ready connection) := by
  have throwing := runSelectedKey_throwing ready connection
  rw [upstreamFailures] at succeeds
  generalize runSelectedKey ready connection = after at throwing ⊢
  generalize selectedKeyThrows ready connection = thrown
    at throwing succeeds
  have unthrown (exception : SocketException)
      (member : UpstreamFailure.write exception ∈ thrown) :
      exception.isIOException = false := by
    by_contra io
    exact
      succeeds exception
        (List.mem_filter.mpr ⟨member, Bool.eq_true_of_not_eq_false io⟩)
  cases throwing with
  | unchanged => exact .of_same rfl
  | refused => exact .of_same rfl
  | waiting => exact .of_same rfl
  | selected reached =>
      exact quiet_processConnectedSelection noted unthrown
  | answered connected reached =>
      refine quiet_processConnectedSelection ?_ unthrown
      cases connected with
      | false => exact noted
      | true => exact noted

/-- An event whose write fails ends with a reset. -/
private theorem resetAndRemoved_runSelectedKey
    (noted : EndNoted connection)
    (directed : Directed guarded route connection)
    (complete : Obeys (completeRule segMax) connection.emission)
    {exception : SocketException}
    (fails :
      UpstreamFailure.write exception ∈
        upstreamFailures ready connection) :
    ResetAndRemoved connection (runSelectedKey ready connection) := by
  have throwing := runSelectedKey_throwing ready connection
  obtain ⟨member, io⟩ := List.mem_filter.mp fails
  generalize runSelectedKey ready connection = after at throwing ⊢
  generalize selectedKeyThrows ready connection = thrown
    at throwing member
  cases throwing with
  | unchanged => cases member
  | refused => cases List.mem_singleton.mp member
  | waiting => cases member
  | selected reached =>
      exact
        resetAndRemoved_processConnectedSelection noted directed complete
          reached member io
  | answered connected reached =>
      have answered :
          Directed guarded route (connectAnswered connected connection) :=
        directed.of_same rfl rfl rfl id
      have still : EndNoted (connectAnswered connected connection) := by
        cases connected with
        | false => exact noted
        | true => exact noted
      have ended :=
        @resetAndRemoved_processConnectedSelection guarded route
          (connectAnswered connected connection) ready segMax still answered
          complete reached exception member io
      exact ⟨ended.removed, ended.closed, ended.written⟩

end Selecting

/-- The session is out of the table, its channel is closed, and a RST for
its client was built and written on the way. -/
structure CleanedUp (before after : TcpConnection) : Prop where
  removed : after.tracked = false
  closed : after.channel.isOpen = false
  reset :
    ∃ entry ∈ after.written.drop before.written.length,
      entry.isReset = true ∧ entry.Serialised ∧
        packetRoute entry.packet = before.session.route.reverse

/-- The segments of a client that leaves room in its headers for their own
fields, and whose session they all belong to. -/
structure ClientRun (syn : ClientSegment) (steps : List AtomicStep) :
    Prop where
  opened : syn.Complete
  along : ∀ step ∈ steps, StepAlong syn.route step
  complete : ∀ step ∈ steps, StepComplete step

private theorem Route.reverse_inj {first second : Route}
    (same : first.reverse = second.reverse) : first = second :=
  congrArg Route.reverse same

/-- In every state a client with complete headers leads to, an upstream
failure is reported and cleaned up exactly when it is one of `channel.write`
and the last headers are those of a packet from the client. -/
theorem failure_cleaned_up_iff
    {syn : ClientSegment} {steps : List AtomicStep}
    (client : ClientRun syn steps) (opening : SessionHandler.Opening)
    (ready : SocketNIODataService.Readiness) :
    let reached :=
      run atomicStep (SessionHandler.replySynAck syn opening) steps
    CleanedUp reached
        (SocketNIODataService.runSelectedKey ready reached) ↔
      (∃ exception,
        UpstreamFailure.write exception ∈
          SocketNIODataService.upstreamFailures ready reached) ∧
        reached.session.HeadersFromClient := by
  intro reached
  obtain ⟨sound, directed⟩ := headers_run syn opening steps client.along
  obtain ⟨segMax, obeys⟩ :=
    complete_run client.opened opening client.complete
  constructor
  · intro cleaned
    obtain ⟨entry, member, reset, -, back⟩ := cleaned.reset
    have fails :
        ∃ exception,
          UpstreamFailure.write exception ∈
            SocketNIODataService.upstreamFailures ready reached := by
      by_contra none
      obtain ⟨more, written, quiet⟩ :=
        quiet_runSelectedKey sound.noted
          (fun exception member => none ⟨exception, member⟩)
      rw [written, List.drop_left] at member
      rw [quiet entry member] at reset
      cases reset
    obtain ⟨exception, thrown⟩ := fails
    have ended :=
      resetAndRemoved_runSelectedKey sound.noted directed obeys thrown
    obtain ⟨quiet, last, known, ⟨more, more_eq, more_quiet⟩, written, _, _,
      lastRoute, lastBack⟩ := ended.written
    rw [written, more_eq, List.append_assoc, List.drop_left] at member
    rcases List.mem_append.mp member with inMore | inLast
    · rw [more_quiet entry inMore] at reset
      cases reset
    · rw [List.mem_singleton.mp inLast, lastBack] at back
      refine ⟨⟨exception, thrown⟩, ?_⟩
      exact lastRoute.trans (congrArg some (Route.reverse_inj back))
  · rintro ⟨⟨exception, thrown⟩, fromClient⟩
    have ended :=
      resetAndRemoved_runSelectedKey sound.noted directed obeys thrown
    obtain ⟨quiet, last, known, ⟨more, more_eq, _⟩, written, reset,
      serialised, lastRoute, back⟩ := ended.written
    refine ⟨ended.removed, ended.closed, last, ?_, reset, serialised, ?_⟩
    · rw [written, more_eq, List.append_assoc, List.drop_left]
      exact List.mem_append_right _ (List.mem_singleton.mpr rfl)
    · have same : known = reached.session.route :=
        Option.some.inj (lastRoute.symm.trans fromClient)
      rw [back, same]

/-- A connection the server refuses stays in the table, and the client is
told nothing. -/
theorem refused_connection_kept :
    let connection :=
      SessionHandler.replySynAck (ClientSegment.plain 0x02 0 0 1000 [])
        { random := 100, currentTime := 0, connected := false }
    let ready : SocketNIODataService.Readiness :=
      { isConnectable := true
        isReadable := false
        isWritable := false
        connected := none
        reads := []
        writes := [] }
    SocketNIODataService.upstreamFailures ready connection =
        [.finishConnect] ∧
      ¬ CleanedUp connection
        (SocketNIODataService.runSelectedKey ready connection) := by
  refine ⟨by decide, ?_⟩
  intro cleaned
  exact absurd cleaned.removed (by decide)

/-- A client that sends one byte. -/
private theorem clientRun_byte :
    ClientRun (ClientSegment.plain 0x02 0 0 1000 [])
      [.handleTCPPacket (ClientSegment.plain 0x18 1 101 1000 [1]) 0] where
  opened := ClientSegment.plain_complete 0x02 0 0 1000 []
  along := by
    intro step member
    rw [List.mem_singleton.mp member]
    exact rfl
  complete := by
    intro step member
    rw [List.mem_singleton.mp member]
    exact ClientSegment.plain_complete 0x18 1 101 1000 [1]

/-- A session whose upstream connection is reset while it is written to. -/
theorem failed_write_cleaned_up :
    let reached :=
      run atomicStep (SessionHandler.openedConnection 0)
        [.handleTCPPacket (ClientSegment.plain 0x18 1 101 1000 [1]) 0]
    CleanedUp reached
      (SocketNIODataService.runSelectedKey
        { isConnectable := false
          isReadable := false
          isWritable := true
          connected := none
          reads := []
          writes := [.failure .other] } reached) :=
  (failure_cleaned_up_iff clientRun_byte
    { random := 100, currentTime := 0, connected := true } _).mpr
    ⟨⟨.other, by decide⟩, by decide⟩

end LanShield.Vpn
