import LanShield.Vpn.FailureCleanup
import LanShield.Vpn.WindowDrain

/-!
# What steps do to the key at the end of the stream

The packet thread neither notes the end of the upstream stream nor makes a key
valid.  The read part of an event leaves the pending data alone, and the write
part leaves the interest in reads alone unless it fails.
-/

namespace LanShield.Vpn.QuietAfterEof

open LanShield.Library LanShield.Transport SocketChannelReader
open SocketNIODataService DownloadProgress

/-- The end of the stream is not reached, and no key made valid. -/
structure KeepsEof (before after : TcpConnection) : Prop where
  upstreamEof :
    after.session.upstreamEof = before.session.upstreamEof
  isValid :
    after.session.selectionkey.isValid = true →
      before.session.selectionkey.isValid = true

namespace KeepsEof

theorem refl (connection : TcpConnection) : KeepsEof connection connection :=
  ⟨rfl, id⟩

theorem trans {first second third : TcpConnection}
    (earlier : KeepsEof first second) (later : KeepsEof second third) :
    KeepsEof first third :=
  ⟨later.upstreamEof.trans earlier.upstreamEof,
    fun valid => earlier.isValid (later.isValid valid)⟩

variable (connection : TcpConnection)

theorem closeSession : KeepsEof connection connection.closeSession := by
  rw [TcpConnection.closeSession]
  split
  · exact ⟨rfl, fun valid => by cases valid⟩
  · exact refl connection

theorem resetTCPConnection :
    KeepsEof connection (SessionHandler.resetTCPConnection connection) := by
  rw [SessionHandler.resetTCPConnection]
  split
  · exact ⟨rfl, id⟩
  · exact refl connection

theorem pumpToClient :
    KeepsEof connection (SocketChannelReader.pumpToClient connection) := by
  have kept :=
    @Effects.view_eq _ PumpEffect
      (fun connection : TcpConnection =>
        (connection.session.upstreamEof,
          connection.session.selectionkey.isValid))
      (by
        intro before after effect
        cases effect with
        | segment => rfl
        | finish => rfl
        | interest interested =>
            exact
              congrArg (Prod.mk before.session.upstreamEof)
                (SelectionKey.isValid_changeInterest .read interested _))
      _ _ (pumpToClient_effects connection)
  simp only [Prod.mk.injEq] at kept
  exact ⟨kept.1, fun valid => kept.2.symm.trans valid⟩

variable (segment : ClientSegment) (currentTime : Int)

theorem handleData :
    KeepsEof connection
      (SessionHandler.handleData segment currentTime connection) := by
  rw [SessionHandler.handleData]
  split
  · have added :
        KeepsEof connection
          (connection.addClientData segment.tcpheader.sequenceNumber
            segment.data).2 := by
      rw [TcpConnection.addClientData]
      split
      · exact refl connection
      · rw [Session.setSendingData.eq_def]
        cases connection.session.protocol with
        | tcp => exact ⟨rfl, id⟩
        | udp => exact ⟨rfl, id⟩
    exact ⟨added.upstreamEof, added.isValid⟩
  · exact ⟨rfl, id⟩

theorem handleAck :
    KeepsEof connection
      (SessionHandler.handleAck segment currentTime connection) := by
  have accepted :
      KeepsEof connection
        (connection.updateSession
          (SessionHandler.acceptAck segment.tcpheader currentTime)) := by
    rw [TcpConnection.updateSession]
    by_cases advances :
        SessionHandler.Advances connection.session segment.tcpheader
    · rw [SessionHandler.acceptAck_advances advances]
      exact ⟨rfl, id⟩
    · rw [SessionHandler.acceptAck_stale advances]
      exact ⟨rfl, id⟩
  rw [SessionHandler.handleAck]
  split
  · exact ⟨accepted.upstreamEof, accepted.isValid⟩
  · split
    · exact accepted.trans (closeSession _)
    · exact accepted

theorem handleFlags :
    KeepsEof connection
      (SessionHandler.handleFlags segment currentTime connection) := by
  rw [SessionHandler.handleFlags]
  split
  · refine ⟨rfl, fun valid => ?_⟩
    exact
      (SelectionKey.isValid_changeInterest .write true
        connection.session.selectionkey).symm.trans valid
  · split
    · have closed :=
        closeSession
          ((SessionHandler.writeFinAck segment currentTime
            connection).updateSession Session.cancelKey)
      exact
        ⟨closed.upstreamEof,
          fun valid => absurd (closed.isValid valid) (by
            simp [TcpConnection.updateSession, Session.cancelKey,
              SelectionKey.cancel])⟩
    · split
      · exact resetTCPConnection connection
      · exact refl connection

theorem finishSegment :
    KeepsEof connection (SessionHandler.finishSegment connection) := by
  rw [SessionHandler.finishSegment]
  split
  · exact refl connection
  · have pumped := pumpToClient connection.keepSessionAlive
    exact ⟨pumped.upstreamEof, pumped.isValid⟩

theorem handleTCPPacket :
    KeepsEof connection
      (SessionHandler.handleTCPPacket segment currentTime connection) := by
  rw [SessionHandler.handleTCPPacket]
  split
  · split
    · rw [SessionHandler.resendAck]
      split
      · exact ⟨rfl, id⟩
      · exact refl connection
    · exact refl connection
  · split
    · split
      · rw [SessionHandler.handleSessionSegment]
        refine trans ?_ (finishSegment _)
        refine trans ?_ (handleFlags _ segment currentTime)
        have noted :
            KeepsEof connection
              (connection.updateSession
                (SessionHandler.noteSegment segment)) :=
          ⟨rfl, id⟩
        rw [SessionHandler.handleBody]
        split
        · exact noted.trans (handleData _ segment currentTime)
        · exact noted.trans (handleAck _ segment currentTime)
      · rw [SessionHandler.handleUnknown]
        split
        · exact ⟨rfl, id⟩
        · split
          · exact refl connection
          · exact ⟨rfl, id⟩
    · split
      · split
        · exact ⟨rfl, id⟩
        · exact ⟨rfl, id⟩
      · split
        · exact resetTCPConnection connection
        · exact refl connection

end KeepsEof

section Reads

variable {window : Option Nat} {total : Nat} {connection : TcpConnection}

/-- What is waiting to be sent upstream. -/
structure Pending where
  protocol : SessionProtocol
  sendingStream : List UInt8
  sendingDatagrams : List (List UInt8)
  isDataForSendingReady : Bool

def pending (session : Session) : Pending where
  protocol := session.protocol
  sendingStream := session.sendingStream
  sendingDatagrams := session.sendingDatagrams
  isDataForSendingReady := session.isDataForSendingReady

private theorem readTCP_kept (outcomes : List ReadOutcome)
    (noted : EndNoted connection) :
    pending (readTCP outcomes connection).1.session =
        pending connection.session ∧
      (readTCP outcomes connection).1.session.selectionkey.isValid =
        connection.session.selectionkey.isValid := by
  have kept :=
    @Effects.view_eq _ ReadEffect
      (fun connection : TcpConnection =>
        (pending connection.session,
          connection.session.selectionkey.isValid))
      (by
        intro before after effect
        cases effect with
        | pump effect =>
            cases effect with
            | segment => rfl
            | finish => rfl
            | interest interested =>
                exact
                  congrArg (Prod.mk (pending before.session))
                    (SelectionKey.isValid_changeInterest .read interested _)
        | stage => rfl
        | endUpstream => rfl
        | abort => rfl)
      _ _ (readTCP_effects outcomes noted)
  simp only [Prod.mk.injEq] at kept
  exact kept

theorem read_pending (outcomes : List ReadOutcome)
    (noted : EndNoted connection) :
    pending (read outcomes connection).1.session =
      pending connection.session := by
  obtain ⟨key, _, ended⟩ := read_ended outcomes connection
  have kept := (readTCP_kept outcomes noted).1
  rw [ended]
  dsimp only
  split
  · rw [TcpConnection.removeAborted_session]
    exact kept
  · exact kept

private theorem read_upstreamEof (outcomes : List ReadOutcome)
    (connection : TcpConnection) :
    (read outcomes connection).1.session.upstreamEof =
      (readTCP outcomes connection).1.session.upstreamEof := by
  obtain ⟨key, _, ended⟩ := read_ended outcomes connection
  rw [ended]
  dsimp only
  split
  · rw [TcpConnection.removeAborted_session]
    rfl
  · rfl

/-- What a read event of a running session leaves. -/
theorem read_endTotal (outcomes : List ReadOutcome)
    (reading : Reading window total connection)
    (noted : EndNoted connection)
    (valid : connection.session.selectionkey.isValid = true) :
    let after := (read outcomes connection).1.session
    after.upstreamEof = (endTotal window outcomes total).isSome ∧
      ∀ reached, endTotal window outcomes total = some reached →
        after.selectionkey.isValid = !decide (excess window reached = 0) ∧
          (after.selectionkey.isValid = true →
            after.selectionkey.interestRead = true) := by
  have skipped : readTCP outcomes connection = readLoop outcomes connection :=
    if_neg (by simp [reading.running])
  obtain ⟨eof, ended⟩ := readLoop_endTotal outcomes reading
  have validStill := (readTCP_kept outcomes noted).2.trans valid
  rw [← skipped] at eof ended
  refine ⟨(read_upstreamEof outcomes connection).trans eof, ?_⟩
  intro reached same
  obtain ⟨notFull, aborting⟩ := ended reached same
  rw [SocketChannelReader.read]
  dsimp only
  rw [Session.receivingStreamSize, if_pos notFull]
  by_cases fits : excess window reached = 0
  · rw [decide_eq_true fits] at aborting ⊢
    rw [if_pos (by exact aborting), TcpConnection.removeAborted_session]
    exact ⟨rfl, fun valid => by cases valid⟩
  · rw [decide_eq_false fits] at aborting ⊢
    rw [if_neg (by exact Bool.eq_false_iff.mp aborting)]
    have subscribed :=
      SelectionKey.interest_changeInterest_self validStill .read true
    exact
      ⟨(SelectionKey.isValid_changeInterest .read true _).trans validStill,
        fun _ => subscribed⟩

/-- A session that is not read any more stays as it is, but for its key. -/
theorem read_notReached (outcomes : List ReadOutcome)
    (aborting : connection.session.abortingConnection = true) :
    (read outcomes connection).1.session.upstreamEof =
      connection.session.upstreamEof := by
  have skipped : readTCP outcomes connection = (connection, 0) :=
    if_pos aborting
  rw [read_upstreamEof, skipped]

end Reads

/-- The pending write of an event fails with an `IOException`. -/
def pendingWriteFails (ready : Readiness) (connection : TcpConnection) :
    Bool :=
  connection.session.hasDataToSend &&
    connection.session.isDataForSendingReady && ready.isWritable &&
    (SocketChannelWriter.writePendingDataThrows ready.writes
      connection).any SocketException.isIOException

section Writes

variable {connection other : TcpConnection}

/-- Whether a write fails depends on what is pending. -/
theorem pendingWriteFails_congr (ready : Readiness)
    (same : pending connection.session = pending other.session) :
    pendingWriteFails ready connection = pendingWriteFails ready other := by
  simp only [pending, Pending.mk.injEq] at same
  obtain ⟨protocol, stream, datagrams, isReady⟩ := same
  rw [pendingWriteFails, pendingWriteFails,
    SocketChannelWriter.writePendingDataThrows,
    SocketChannelWriter.writePendingDataThrows, Session.hasDataToSend,
    Session.hasDataToSend, protocol, stream, datagrams, isReady,
    (SocketChannelWriter.writeLoop_congr _ _ connection.channel
      other.channel).2]

theorem processPendingWrite_upstreamEof (ready : Readiness)
    (connection : TcpConnection) :
    (processPendingWrite ready connection).session.upstreamEof =
      connection.session.upstreamEof := by
  rcases processPendingWrite_halts ready connection with same | halted
  · exact congrArg Download.upstreamEof same
  · exact congrArg Download.upstreamEof halted

/-- Nothing is written for a key that is not valid. -/
theorem processPendingWrite_invalid (ready : Readiness)
    (invalid : connection.session.selectionkey.isValid = false) :
    (processPendingWrite ready connection).session.selectionkey.isValid =
      false := by
  rw [processPendingWrite]
  split
  · exact
      (SelectionKey.isValid_changeInterest .write false _).trans invalid
  · rw [if_neg (by simp [invalid])]
    exact invalid

/-- A pending write that fails cancels the key. -/
theorem processPendingWrite_fails {ready : Readiness}
    (fails : pendingWriteFails ready connection = true)
    (valid : connection.session.selectionkey.isValid = true)
    (known : HeadersKnown connection.session) :
    (processPendingWrite ready connection).session.selectionkey.isValid =
      false := by
  simp only [pendingWriteFails, Bool.and_eq_true] at fails
  obtain ⟨⟨⟨hasData, isReady⟩, writable⟩, throws⟩ := fails
  obtain ⟨exception, thrown, io⟩ := (Option.any_eq_true _ _).mp throws
  obtain ⟨ipHeader, ip_eq⟩ := Option.ne_none_iff_exists'.mp known.1
  obtain ⟨tcpheader, tcp_eq⟩ := Option.ne_none_iff_exists'.mp known.2
  have failed :=
    @write_failed
      (connection.updateSession (Session.unsubscribeKey .write))
      ready.writes exception thrown io ipHeader tcpheader ip_eq tcp_eq
  rw [processPendingWrite, if_neg (by simp [hasData, isReady]),
    if_pos (by simp [valid, writable])]
  dsimp only
  rw [failed, TcpConnection.updateSession,
    TcpConnection.removeAborted_session]
  rfl

/-- A pending write that does not fail leaves what reading depends on. -/
theorem processPendingWrite_succeeds {ready : Readiness}
    (succeeds : pendingWriteFails ready connection = false)
    (running : connection.session.abortingConnection = false) :
    readSide (processPendingWrite ready connection).session =
      readSide connection.session := by
  have unsubscribed :
      readSide
          (connection.updateSession
            (Session.unsubscribeKey .write)).session =
        readSide connection.session :=
    readSide_changeInterest (by decide) false connection.session
  rw [processPendingWrite]
  split
  · exact unsubscribed
  · next waits =>
    split
    · next writable =>
      have written :
          (SocketChannelWriter.writeTCP ready.writes
              (connection.updateSession
                (Session.unsubscribeKey .write))).1 =
            (SocketChannelWriter.writePendingData ready.writes
              (connection.updateSession
                (Session.unsubscribeKey .write))).1 := by
        apply SocketChannelWriter.writeTCP_unfailed
        intro exception thrown
        have thrown :
            SocketChannelWriter.writePendingDataThrows ready.writes
                connection =
              some exception :=
          thrown
        simp only [Bool.or_eq_true, Bool.not_eq_true', not_or,
          Bool.not_eq_false] at waits
        simpa [pendingWriteFails, waits, (Bool.and_eq_true _ _).mp writable,
          thrown] using succeeds
      have kept :=
        (readSide_writePendingData ready.writes
          (connection.updateSession
            (Session.unsubscribeKey .write))).trans unsubscribed
      rw [← written] at kept
      have runningStill :=
        (congrArg ReadSide.abortingConnection kept).trans running
      rw [SocketChannelWriter.write]
      dsimp only
      rw [if_neg (by exact Bool.eq_false_iff.mp runningStill)]
      exact kept
    · rfl

end Writes

end LanShield.Vpn.QuietAfterEof
