import LanShield.Vpn.Engine
import LanShield.Vpn.ReadEffects

/-!
# What an atomic step can do to a download

`Download` is the part of a connection that concerns the bytes on their way
from the server to the client.  Every call amounts to a sequence of the
effects below.
-/

namespace LanShield.Vpn

open LanShield.Library LanShield.Transport

/-- The packet carries downloaded bytes, or the end of them. -/
def WrittenPacket.isDownload (entry : WrittenPacket) : Bool :=
  decide (entry.sender = .sendFin ∨ entry.packet.data ≠ [])

structure Download where
  received : List UInt8
  staged : List UInt8
  written : List WrittenPacket
  atEnd : Bool
  upstreamEof : Bool
  abortingConnection : Bool
  closingConnection : Bool
  sendNext : Int
  sendUnack : Int
  clientWindow : Int
  clientWindowScale : Int

def TcpConnection.download (connection : TcpConnection) : Download where
  received := connection.channel.received
  staged := connection.session.receivingStream
  written := connection.written.filter WrittenPacket.isDownload
  atEnd := connection.channel.atEnd
  upstreamEof := connection.session.upstreamEof
  abortingConnection := connection.session.abortingConnection
  closingConnection := connection.session.closingConnection
  sendNext := connection.session.sendNext
  sendUnack := connection.session.sendUnack
  clientWindow := connection.session.clientWindow
  clientWindowScale := connection.session.clientWindowScale

/-- An effect other than a new window. -/
inductive FlowEffect : TcpConnection → TcpConnection → Prop
  | read {before after : TcpConnection} :
      ReadEffect before after → FlowEffect before after
  | none {before after : TcpConnection} :
      after.download = before.download → FlowEffect before after
  | halt {before after : TcpConnection} :
      after.download =
        { before.download with abortingConnection := true } →
      FlowEffect before after
  | acknowledge {before after : TcpConnection} (wire : Int) :
      before.session.sendUnack <
          reconstruct before.session.sendNext wire ∨
        reconstruct before.session.sendNext wire =
          before.session.sendNext →
      after.download =
        { before.download with
          sendUnack := reconstruct before.session.sendNext wire } →
      FlowEffect before after

inductive DownloadEffect : TcpConnection → TcpConnection → Prop
  | flow {before after : TcpConnection} :
      FlowEffect before after → DownloadEffect before after
  | window (connection : TcpConnection) (segment : ClientSegment) :
      DownloadEffect connection
        (connection.updateSession (SessionHandler.noteSegment segment))

abbrev FlowEffects : TcpConnection → TcpConnection → Prop :=
  Relation.ReflTransGen FlowEffect

abbrev DownloadEffects : TcpConnection → TcpConnection → Prop :=
  Relation.ReflTransGen DownloadEffect

theorem ReadEffects.flow {before after : TcpConnection}
    (effects : ReadEffects before after) : FlowEffects before after :=
  Relation.ReflTransGen.mono (fun _ _ => FlowEffect.read) _ _ effects

theorem PumpEffects.flow {before after : TcpConnection}
    (effects : PumpEffects before after) : FlowEffects before after :=
  effects.read.flow

theorem FlowEffects.download {before after : TcpConnection}
    (effects : FlowEffects before after) : DownloadEffects before after :=
  Relation.ReflTransGen.mono (fun _ _ => DownloadEffect.flow) _ _ effects

theorem FlowEffects.of_eq {before after : TcpConnection}
    (same : after.download = before.download) :
    FlowEffects before after :=
  .single (.none same)

theorem download_write_other {sender : Sender} {packet : Packet}
    {connection : TcpConnection}
    (other : sender ≠ .sendFin) (empty : packet.data = []) :
    (connection.write sender packet).download = connection.download := by
  have excluded :
      (⟨sender, packet, connection.session⟩ :
        WrittenPacket).isDownload = false := by
    simp [WrittenPacket.isDownload, other, empty]
  unfold TcpConnection.download TcpConnection.write
  dsimp only
  rw [List.filter_append, List.filter_singleton, excluded]
  simp

theorem download_write_kept {sender : Sender} {packet : Packet}
    {connection : TcpConnection}
    (kept : sender = .sendFin ∨ packet.data ≠ []) :
    (connection.write sender packet).download =
      { connection.download with
        written :=
          connection.download.written ++
            [⟨sender, packet, connection.session⟩] } := by
  have included :
      (⟨sender, packet, connection.session⟩ :
        WrittenPacket).isDownload = true :=
    decide_eq_true kept
  unfold TcpConnection.download TcpConnection.write
  dsimp only
  rw [List.filter_append, List.filter_singleton, included]
  simp

theorem download_closeSession (connection : TcpConnection) :
    connection.closeSession.download = connection.download := by
  rw [TcpConnection.closeSession]
  split
  · rfl
  · rfl

private theorem download_removeAborted (connection : TcpConnection) :
    connection.removeAborted.download = connection.download := by
  unfold TcpConnection.removeAborted
  dsimp only
  rw [download_closeSession]
  split
  · rfl
  · rfl

private theorem download_addClientData
    (sequenceNumber : Int) (buffer : Java.ByteBuffer)
    (connection : TcpConnection) :
    (connection.addClientData sequenceNumber buffer).2.download =
      connection.download := by
  rw [TcpConnection.addClientData]
  split
  · rfl
  · rw [Session.setSendingData]
    cases connection.session.protocol with
    | tcp => rfl
    | udp => rfl

/-- What holds of the download between any two effects: the end of the
upstream stream is noted, no close is pending, and nothing is acknowledged
before it was sent. -/
structure Sound (connection : TcpConnection) : Prop where
  noted : EndNoted connection
  notClosing : connection.session.closingConnection = false
  unack_le : connection.session.sendUnack ≤ connection.session.sendNext

theorem Sound.of_download {before after : TcpConnection}
    (same : after.download = before.download) (sound : Sound before) :
    Sound after := by
  simp only [TcpConnection.download, Download.mk.injEq] at same
  obtain ⟨_, _, _, atEnd, upstreamEof, _, closing, next, unack, _⟩ := same
  refine ⟨?_, closing.trans sound.notClosing, ?_⟩
  · exact upstreamEof.trans (sound.noted.trans atEnd.symm)
  · rw [next, unack]
    exact sound.unack_le

theorem Sound.read {before after : TcpConnection}
    (effect : ReadEffect before after) (sound : Sound before) :
    Sound after := by
  refine ⟨sound.noted.read effect, ?_, ?_⟩
  · cases effect with
    | pump effect =>
        cases effect with
        | segment => exact sound.notClosing
        | finish => exact sound.notClosing
        | interest => exact sound.notClosing
    | stage => exact sound.notClosing
    | endUpstream => exact sound.notClosing
    | abort => exact sound.notClosing
  · cases effect with
    | pump effect =>
        cases effect with
        | segment =>
            exact
              sound.unack_le.trans
                (Int.le_add_of_nonneg_right (Int.natCast_nonneg _))
        | finish => exact sound.unack_le
        | interest => exact sound.unack_le
    | stage => exact sound.unack_le
    | endUpstream => exact sound.unack_le
    | abort => exact sound.unack_le

theorem Sound.flow {before after : TcpConnection}
    (effect : FlowEffect before after) (sound : Sound before) :
    Sound after := by
  cases effect with
  | read effect => exact sound.read effect
  | none same => exact sound.of_download same
  | halt same =>
      exact
        @Sound.of_download
          (before.updateSession fun session =>
            { session with abortingConnection := true })
          after same ⟨sound.noted, sound.notClosing, sound.unack_le⟩
  | acknowledge wire _ same =>
      exact
        @Sound.of_download
          (before.updateSession fun session =>
            { session with
              sendUnack := reconstruct session.sendNext wire })
          after same
          ⟨sound.noted, sound.notClosing, reconstruct_le _ wire⟩

theorem Sound.effect {before after : TcpConnection}
    (effect : DownloadEffect before after) (sound : Sound before) :
    Sound after := by
  cases effect with
  | flow effect => exact sound.flow effect
  | window segment =>
      exact ⟨sound.noted, sound.notClosing, sound.unack_le⟩

theorem Sound.effects {before after : TcpConnection}
    (effects : DownloadEffects before after) (sound : Sound before) :
    Sound after :=
  @Effects.preserve DownloadEffect Sound (fun _ _ => Sound.effect) _ _
    effects sound

/-- The call leaves the download alone, or aborts the connection. -/
def AtMostHalts (before after : TcpConnection) : Prop :=
  after.download = before.download ∨
    after.download =
      { before.download with abortingConnection := true }

theorem AtMostHalts.flow {before after : TcpConnection}
    (halts : AtMostHalts before after) : FlowEffects before after := by
  rcases halts with same | halted
  · exact FlowEffects.of_eq same
  · exact .single (.halt halted)

private theorem writeTCP_halts
    (outcomes : List WriteOutcome) (connection : TcpConnection) :
    AtMostHalts connection
      (SocketChannelWriter.writeTCP outcomes connection).1 := by
  have kept :
      (SocketChannelWriter.writePendingData outcomes
          connection).1.download =
        connection.download := by
    rw [SocketChannelWriter.writePendingData_connection]
    rfl
  rcases SocketChannelWriter.writeTCP_ends outcomes connection with
    same | ⟨ipHeader, tcpheader, reset⟩
  · left
    rw [same]
    exact kept
  · right
    have unchanged :=
      @download_write_other .writeTCP
        (TCPPacketFactory.createRstData ipHeader tcpheader 0)
        (SocketChannelWriter.writePendingData outcomes connection).1
        (by decide) rfl
    rw [reset, ← kept, ← unchanged]
    rfl

private theorem write_halts
    (outcomes : List WriteOutcome) (connection : TcpConnection) :
    AtMostHalts connection
      (SocketChannelWriter.write outcomes connection).1 := by
  have halts := writeTCP_halts outcomes connection
  rw [SocketChannelWriter.write]
  dsimp only
  split
  · rw [AtMostHalts]
    rw [download_removeAborted]
    exact halts
  · exact halts

theorem processPendingWrite_halts
    (ready : SocketNIODataService.Readiness) (connection : TcpConnection) :
    AtMostHalts connection
      (SocketNIODataService.processPendingWrite ready connection) := by
  rw [SocketNIODataService.processPendingWrite]
  split
  · exact Or.inl rfl
  · split
    · have halts :=
        write_halts ready.writes
          (connection.updateSession (Session.unsubscribeKey .write))
      exact halts
    · exact Or.inl rfl

private theorem read_download
    (outcomes : List ReadOutcome) (connection : TcpConnection) :
    (SocketChannelReader.read outcomes connection).1.download =
      (SocketChannelReader.readTCP outcomes connection).1.download := by
  obtain ⟨key, _, ended⟩ := read_ended outcomes connection
  rw [ended]
  dsimp only
  split
  · rw [download_removeAborted]
    rfl
  · rfl

private theorem processSelectorRead_flow
    (ready : SocketNIODataService.Readiness) {connection : TcpConnection}
    (noted : EndNoted connection) :
    FlowEffects connection
      (SocketNIODataService.processSelectorRead ready connection) := by
  rw [SocketNIODataService.processSelectorRead]
  split
  · refine
      (readTCP_effects ready.reads noted).flow.trans
        (FlowEffects.of_eq ?_)
    exact read_download ready.reads connection
  · exact .refl

private theorem processConnectedSelection_flow
    (ready : SocketNIODataService.Readiness) {connection : TcpConnection}
    (noted : EndNoted connection) :
    FlowEffects connection
      (SocketNIODataService.processConnectedSelection ready
        connection) := by
  rw [SocketNIODataService.processConnectedSelection]
  have subscribed :
      FlowEffects connection
        (connection.updateSession fun session =>
          (session.unsubscribeKey .connect).subscribeKey .read) :=
    FlowEffects.of_eq rfl
  refine
    (subscribed.trans (processSelectorRead_flow ready ?_)).trans
      (processPendingWrite_halts ready _).flow
  exact noted

theorem selected_flow
    {ready : SocketNIODataService.Readiness}
    {before after : TcpConnection}
    (selected : SocketNIODataService.Selected ready before after)
    (noted : EndNoted before) : FlowEffects before after := by
  cases selected with
  | unchanged => exact .refl
  | refused => exact FlowEffects.of_eq rfl
  | waiting => exact FlowEffects.of_eq rfl
  | selected => exact processConnectedSelection_flow ready noted
  | answered connected =>
      have answered :
          FlowEffects before
            (SocketNIODataService.connectAnswered connected before) := by
        cases connected with
        | false => exact FlowEffects.of_eq rfl
        | true => exact FlowEffects.of_eq rfl
      refine
        answered.trans (processConnectedSelection_flow ready ?_)
      cases connected with
      | false => exact noted
      | true => exact noted

theorem handleData_download
    (segment : ClientSegment) (currentTime : Int)
    (connection : TcpConnection) :
    (SessionHandler.handleData segment currentTime connection).download =
      connection.download := by
  rw [SessionHandler.handleData]
  split
  · unfold SessionHandler.sendAck
    dsimp only
    rw [download_write_other (by decide) rfl]
    exact
      download_addClientData segment.tcpheader.sequenceNumber segment.data
        connection
  · rw [SessionHandler.sendAckForDisorder]
    rw [download_write_other (by decide) rfl]

private theorem acceptAck_flow
    (tcpHeader : TCPHeader) (currentTime : Int)
    (connection : TcpConnection) :
    FlowEffects connection
      (connection.updateSession
        (SessionHandler.acceptAck tcpHeader currentTime)) := by
  by_cases advances :
      SessionHandler.Advances connection.session tcpHeader
  · refine .single (.acknowledge tcpHeader.ackNumber advances ?_)
    rw [TcpConnection.updateSession]
    rw [SessionHandler.acceptAck_advances advances]
    rfl
  · apply FlowEffects.of_eq
    rw [TcpConnection.updateSession]
    rw [SessionHandler.acceptAck_stale advances]
    rfl

private theorem acceptAck_closing
    (tcpHeader : TCPHeader) (currentTime : Int) (session : Session) :
    (SessionHandler.acceptAck tcpHeader currentTime
        session).closingConnection =
      session.closingConnection := by
  by_cases advances : SessionHandler.Advances session tcpHeader
  · rw [SessionHandler.acceptAck_advances advances]
  · rw [SessionHandler.acceptAck_stale advances]

/-- No close is pending, so accepting the acknowledgment is all a segment
without data does. -/
theorem handleAck_eq
    (segment : ClientSegment) (currentTime : Int)
    {connection : TcpConnection}
    (notClosing : connection.session.closingConnection = false) :
    SessionHandler.handleAck segment currentTime connection =
      connection.updateSession
        (SessionHandler.acceptAck segment.tcpheader currentTime) := by
  have still_open :
      (connection.updateSession
          (SessionHandler.acceptAck segment.tcpheader
            currentTime)).session.closingConnection = false :=
    (acceptAck_closing _ _ _).trans notClosing
  unfold SessionHandler.handleAck
  dsimp only
  rw [still_open]
  rfl

theorem ackFinAck_halts
    (segment : ClientSegment) (currentTime : Int)
    (connection : TcpConnection) :
    (SessionHandler.ackFinAck segment currentTime connection).download =
      { connection.download with abortingConnection := true } := by
  have written :
      (SessionHandler.writeFinAck segment currentTime
          connection).download =
        connection.download := by
    rw [SessionHandler.writeFinAck]
    rw [download_write_other (by decide) rfl]
  have closed :=
    download_closeSession
      ((SessionHandler.writeFinAck segment currentTime
        connection).updateSession Session.cancelKey)
  rw [← written]
  exact
    congrArg
      (fun view : Download => { view with abortingConnection := true })
      closed

theorem resetTCPConnection_halts (connection : TcpConnection) :
    AtMostHalts connection
      (SessionHandler.resetTCPConnection connection) := by
  rw [SessionHandler.resetTCPConnection]
  split
  · exact Or.inr rfl
  · exact Or.inl rfl

private theorem handleFlags_flow
    (segment : ClientSegment) (currentTime : Int)
    (connection : TcpConnection) :
    FlowEffects connection
      (SessionHandler.handleFlags segment currentTime connection) := by
  rw [SessionHandler.handleFlags]
  split
  · exact FlowEffects.of_eq rfl
  · split
    · exact
        .single
          (.halt (ackFinAck_halts segment currentTime connection))
    · split
      · exact (resetTCPConnection_halts connection).flow
      · exact .refl

private theorem finishSegment_flow (connection : TcpConnection) :
    FlowEffects connection
      (SessionHandler.finishSegment connection) := by
  rw [SessionHandler.finishSegment]
  split
  · exact .refl
  · have alive :
        FlowEffects connection connection.keepSessionAlive :=
      FlowEffects.of_eq rfl
    exact alive.trans (pumpToClient_effects _).flow

/-- Behind the first lines of the monitor block the window stays what it
is. -/
theorem handleSessionSegment_flow
    (segment : ClientSegment) (currentTime : Int)
    {connection : TcpConnection} (sound : Sound connection) :
    FlowEffects
      (connection.updateSession (SessionHandler.noteSegment segment))
      (SessionHandler.handleSessionSegment segment currentTime
        connection) := by
  have noted := sound.effect (.window connection segment)
  unfold SessionHandler.handleSessionSegment SessionHandler.handleBody
  dsimp only
  refine
    (Relation.ReflTransGen.trans ?_
      (handleFlags_flow segment currentTime _)).trans
        (finishSegment_flow _)
  split
  · exact FlowEffects.of_eq (handleData_download segment currentTime _)
  · rw [handleAck_eq segment currentTime noted.notClosing]
    exact acceptAck_flow segment.tcpheader currentTime _

theorem resendAck_download
    (currentTime : Int) (connection : TcpConnection) :
    (SessionHandler.resendAck currentTime connection).download =
      connection.download := by
  rw [SessionHandler.resendAck]
  split
  · rw [download_write_other (by decide) rfl]
  · rfl

theorem handleUnknown_download
    (segment : ClientSegment) (currentTime : Int)
    (connection : TcpConnection) :
    (SessionHandler.handleUnknown segment currentTime
        connection).download =
      connection.download := by
  rw [SessionHandler.handleUnknown]
  split
  · rw [SessionHandler.sendLastAck]
    rw [download_write_other (by decide) rfl]
  · split
    · rfl
    · rw [SessionHandler.sendRstPacket]
      rw [download_write_other (by decide) rfl]

/-- A segment that does not reach the monitor block. -/
theorem handleTCPPacket_flow
    {segment : ClientSegment} (currentTime : Int)
    {connection : TcpConnection}
    (outside : ¬ SessionHandler.Reaches connection segment) :
    FlowEffects connection
      (SessionHandler.handleTCPPacket segment currentTime
        connection) := by
  rw [SessionHandler.handleTCPPacket]
  split
  · split
    · exact FlowEffects.of_eq (resendAck_download currentTime connection)
    · exact .refl
  · next notSyn =>
    split
    · next ack =>
      split
      · next tracked =>
        exact
          (outside ⟨tracked, Bool.eq_false_iff.mpr notSyn, ack⟩).elim
      · exact
          FlowEffects.of_eq
            (handleUnknown_download segment currentTime connection)
    · split
      · split
        · exact FlowEffects.of_eq rfl
        · apply FlowEffects.of_eq
          rw [SessionHandler.writeFinAck]
          rw [download_write_other (by decide) rfl]
      · split
        · exact (resetTCPConnection_halts connection).flow
        · exact .refl

private theorem handleTCPPacket_effects
    (segment : ClientSegment) (currentTime : Int)
    {connection : TcpConnection} (sound : Sound connection) :
    DownloadEffects connection
      (SessionHandler.handleTCPPacket segment currentTime
        connection) := by
  by_cases reaches : SessionHandler.Reaches connection segment
  · rw [SessionHandler.handleTCPPacket_reaches reaches]
    exact
      (handleSessionSegment_flow segment currentTime
        sound).download.head (.window connection segment)
  · exact (handleTCPPacket_flow currentTime reaches).download

theorem atomicStep_effects
    {connection : TcpConnection} (sound : Sound connection)
    (step : AtomicStep) :
    DownloadEffects connection (atomicStep connection step) := by
  cases step with
  | handleTCPPacket segment currentTime =>
      exact handleTCPPacket_effects segment currentTime sound
  | processSelectionKey ready =>
      exact
        (selected_flow
          (SocketNIODataService.runSelectedKey_selected ready connection)
          sound.noted).download

private theorem downloadCall_effects
    {connection : TcpConnection} (sound : Sound connection)
    (call : DownloadCall) :
    DownloadEffects connection (downloadCall connection call) := by
  cases call with
  | atomic step => exact atomicStep_effects sound step
  | readTCP outcomes =>
      exact (readTCP_effects outcomes sound.noted).flow.download
  | pumpToClient =>
      exact (pumpToClient_effects connection).flow.download

/-- What every effect preserves holds after every run of calls. -/
theorem run_downloadCall_preserves
    {holds : TcpConnection → Prop}
    (preserved :
      ∀ before after, DownloadEffect before after →
        Sound before → holds before → holds after)
    (calls : List DownloadCall) {connection : TcpConnection}
    (sound : Sound connection) (initially : holds connection) :
    Sound (run downloadCall connection calls) ∧
      holds (run downloadCall connection calls) := by
  refine
    @run_invariant TcpConnection DownloadCall downloadCall
      (fun connection => Sound connection ∧ holds connection)
      ?_ calls connection ⟨sound, initially⟩
  rintro reached call ⟨reached_sound, reached_holds⟩
  refine
    @Effects.preserve DownloadEffect
      (fun connection => Sound connection ∧ holds connection)
      ?_ _ _ (downloadCall_effects reached_sound call)
      ⟨reached_sound, reached_holds⟩
  rintro before after effect ⟨before_sound, before_holds⟩
  exact
    ⟨before_sound.effect effect,
      preserved before after effect before_sound before_holds⟩

theorem sound_replySynAck
    (syn : ClientSegment) (opening : SessionHandler.Opening) :
    Sound (SessionHandler.replySynAck syn opening) :=
  ⟨rfl, rfl, Int.le_add_one (le_refl _)⟩

end LanShield.Vpn
