import LanShield.Library.SequencedPipe
import LanShield.Vpn.DownloadEffects

/-!
# Integrity of the download stream

The bytes read from upstream, seen as a pipe: `receivingStream` is what it
stages, the data segments and the FIN of `pumpToClient` are its frames, and
a frame is labelled by its sequence number on the wire.
-/

namespace LanShield.Vpn.DownloadIntegrity

open LanShield.Library LanShield.Transport

/-- The sequence number of a packet on the wire. -/
def wireSequence (entry : WrittenPacket) : Int :=
  unsigned32 entry.packet.transportHeader.sequenceNumber

/-- The payloads of the packets written to the client, in order. -/
def emitted (written : List WrittenPacket) : List UInt8 :=
  written.flatMap fun entry => entry.packet.data

/-- The sequence number of every emitted byte, in order. -/
def emittedNumbers (written : List WrittenPacket) : List Int :=
  written.flatMap fun entry =>
    (List.range entry.packet.data.length).map fun offset : Nat =>
      unsigned32 (wireSequence entry + offset)

/-- The sequence number of the stream position `position` when the initial
sequence number is `isn`. -/
def streamNumber (isn : Int) (position : Nat) : Int :=
  unsigned32 (isn + 1 + position)

private theorem streamNumber_add (isn : Int) (position offset : Nat) :
    unsigned32 (streamNumber isn position + offset) =
      streamNumber isn (position + offset) := by
  unfold streamNumber
  rw [unsigned32_add_congr (unsigned32_unsigned32 _), Int.add_assoc _ _ ↑offset]
  push_cast
  rfl

/-- Integrity of the download, as far as these packets bring it to the
client. -/
structure Integrity (isn : Int) (packets : List WrittenPacket)
    (connection : TcpConnection) : Prop where
  conserved :
    emitted packets ++ connection.session.receivingStream =
      connection.channel.received
  numbered :
    emittedNumbers packets =
      (List.range (emitted packets).length).map (streamNumber isn)
  finished :
    ∀ before last after,
      packets = before ++ last :: after →
        last.sender = .sendFin →
          emitted before = connection.channel.received ∧
            last.packet.data = [] ∧
            wireSequence last =
              streamNumber isn connection.channel.received.length ∧
            ∀ later ∈ after,
              later.sender ≠ .sendFin ∧ later.packet.data = []

/-- The frame a written packet stands for, if it is part of the download. -/
def frame (entry : WrittenPacket) : Option (Frame UInt8 Int) :=
  if entry.sender = .sendFin then
    some (.fin (wireSequence entry))
  else if entry.packet.data = [] then
    none
  else
    some (.data (wireSequence entry) entry.packet.data)

def pipe (download : Download) : Pipe UInt8 Int where
  received := download.received
  staged := download.staged
  sent := download.written.filterMap frame
  ended := download.upstreamEof
  halted := download.abortingConnection

/-- What holds of a download in every reachable state. -/
structure Flowing (isn : Int) (download : Download) : Prop where
  wellFormed : (pipe download).WellFormed (streamNumber isn)
  sendNext_eq :
    download.sendNext = isn + 1 + (payload (pipe download).sent).length
  finEmpty :
    ∀ entry ∈ download.written,
      entry.sender = .sendFin → entry.packet.data = []

/-- The wire number of the next byte is the number of its position. -/
private theorem Flowing.next_number {isn : Int} {download : Download}
    (flowing : Flowing isn download) :
    unsigned32 download.sendNext =
      streamNumber isn (payload (pipe download).sent).length := by
  rw [flowing.sendNext_eq]
  rfl

private theorem frames_write {entry : WrittenPacket}
    {number : Frame UInt8 Int}
    (framed : frame entry = some number) (written : List WrittenPacket) :
    (written ++ [entry]).filterMap frame =
      written.filterMap frame ++ [number] := by
  rw [List.filterMap_append, List.filterMap_cons_some framed,
    List.filterMap_nil]

/-- A segment with the next sequence number takes its payload from the front
of the staged bytes. -/
theorem Flowing.emit
    {isn : Int} {download : Download} {entry : WrittenPacket}
    {rest : List UInt8}
    (flowing : Flowing isn download)
    (notFin : entry.sender ≠ .sendFin)
    (number : wireSequence entry = unsigned32 download.sendNext)
    (staged : download.staged = entry.packet.data ++ rest)
    (nonempty : entry.packet.data ≠ []) :
    Flowing isn
      { download with
        staged := rest
        written := download.written ++ [entry]
        sendNext := download.sendNext + entry.packet.data.length } := by
  have framed :
      frame entry =
        some
          (.data (streamNumber isn (payload (pipe download).sent).length)
            entry.packet.data) := by
    rw [frame]
    rw [if_neg notFin, if_neg nonempty, number, flowing.next_number]
  have sent := frames_write framed download.written
  refine ⟨?_, ?_, ?_⟩
  · have emitted_step :=
      flowing.wellFormed.step (.emit _ _ rest staged nonempty)
    rw [pipe] at emitted_step ⊢
    rw [sent]
    exact emitted_step
  · have next := flowing.sendNext_eq
    rw [pipe] at next ⊢
    dsimp only at next ⊢
    rw [sent, payload_append, List.length_append, payload_singleton, next]
    rw [pipe, Frame.items]
    push_cast
    ring
  · intro member written fin
    rcases List.mem_append.mp written with earlier | last
    · exact flowing.finEmpty member earlier fin
    · rw [List.mem_singleton.mp last] at fin
      exact (notFin fin).elim

/-- The FIN has the next sequence number, and halts the download. -/
theorem Flowing.finish
    {isn : Int} {download : Download} {entry : WrittenPacket}
    (flowing : Flowing isn download)
    (fin : entry.sender = .sendFin)
    (number : wireSequence entry = unsigned32 download.sendNext)
    (empty : entry.packet.data = [])
    (ended : download.upstreamEof = true)
    (drained : download.staged = [])
    (notAborting : download.abortingConnection = false) :
    Flowing isn
      { download with
        written := download.written ++ [entry]
        abortingConnection := true } := by
  have framed :
      frame entry =
        some
          (.fin
            (streamNumber isn (payload (pipe download).sent).length)) := by
    rw [frame]
    rw [if_pos fin, number, flowing.next_number]
  have sent := frames_write framed download.written
  refine ⟨?_, ?_, ?_⟩
  · have finished_step :=
      flowing.wellFormed.step (.finish _ ended drained notAborting)
    rw [pipe] at finished_step ⊢
    rw [sent]
    exact finished_step
  · have next := flowing.sendNext_eq
    rw [pipe] at next ⊢
    dsimp only at next ⊢
    rw [sent, payload_append, List.length_append, payload_singleton, next]
    rfl
  · intro member written _
    rcases List.mem_append.mp written with earlier | last
    · exact flowing.finEmpty member earlier ‹_›
    · rw [List.mem_singleton.mp last]
      exact empty

theorem Flowing.pump
    {isn : Int} {before after : TcpConnection}
    (effect : PumpEffect before after)
    (flowing : Flowing isn before.download) :
    Flowing isn after.download := by
  have number := unsigned32_unsigned32 before.session.sendNext
  cases effect with
  | segment ipHeader tcpheader packetBody rest staged nonempty =>
      rw [SocketChannelReader.sendSegment]
      dsimp only
      rw [download_write_kept (Or.inr nonempty)]
      exact flowing.emit nofun number staged nonempty
  | finish ipHeader tcpheader ended drained notAborting =>
      change
        Flowing isn
          { (SocketChannelReader.sendFin ipHeader tcpheader
              before).download with
            abortingConnection := true }
      rw [SocketChannelReader.sendFin]
      dsimp only
      rw [download_write_kept (Or.inl rfl)]
      exact flowing.finish rfl rfl rfl ended drained notAborting
  | interest interested => exact flowing

theorem Flowing.flow
    {isn : Int} {before after : TcpConnection}
    (effect : FlowEffect before after)
    (flowing : Flowing isn before.download) :
    Flowing isn after.download := by
  cases effect with
  | read effect =>
      cases effect with
      | pump effect => exact flowing.pump effect
      | stage chunk lastSegment notAborting open_ =>
          exact
            ⟨flowing.wellFormed.step (.receive _ chunk open_ notAborting),
              flowing.sendNext_eq, flowing.finEmpty⟩
      | endUpstream =>
          exact
            ⟨flowing.wellFormed.step (.endInput _),
              flowing.sendNext_eq, flowing.finEmpty⟩
      | abort =>
          exact
            ⟨flowing.wellFormed.step (.halt _),
              flowing.sendNext_eq, flowing.finEmpty⟩
  | none same =>
      rw [same]
      exact flowing
  | halt same =>
      rw [same]
      exact
        ⟨flowing.wellFormed.step (.halt _), flowing.sendNext_eq,
          flowing.finEmpty⟩
  | acknowledge wire _ same =>
      rw [same]
      exact ⟨flowing.wellFormed, flowing.sendNext_eq, flowing.finEmpty⟩

theorem Flowing.effect
    {isn : Int} {before after : TcpConnection}
    (effect : DownloadEffect before after)
    (flowing : Flowing isn before.download) :
    Flowing isn after.download := by
  cases effect with
  | flow effect => exact flowing.flow effect
  | window segment =>
      exact ⟨flowing.wellFormed, flowing.sendNext_eq, flowing.finEmpty⟩

private theorem payload_frames {written : List WrittenPacket}
    (finEmpty :
      ∀ entry ∈ written, entry.sender = .sendFin → entry.packet.data = []) :
    payload (written.filterMap frame) = emitted written := by
  induction written with
  | nil => rfl
  | cons entry rest inductionHypothesis =>
      obtain ⟨headEmpty, restEmpty⟩ := List.forall_mem_cons.mp finEmpty
      have restPayload := inductionHypothesis restEmpty
      rw [emitted, payload] at restPayload ⊢
      rw [List.filterMap_cons, List.flatMap_cons, ← restPayload]
      rw [frame]
      split_ifs with fin empty
      · rw [headEmpty fin]
        rfl
      · rw [empty]
        rfl
      · rfl

private theorem itemLabels_frames {written : List WrittenPacket}
    (finEmpty :
      ∀ entry ∈ written, entry.sender = .sendFin → entry.packet.data = []) :
    itemLabels (fun number offset => unsigned32 (number + offset))
        (written.filterMap frame) =
      emittedNumbers written := by
  induction written with
  | nil => rfl
  | cons entry rest inductionHypothesis =>
      obtain ⟨headEmpty, restEmpty⟩ := List.forall_mem_cons.mp finEmpty
      have restNumbers := inductionHypothesis restEmpty
      rw [emittedNumbers, itemLabels] at restNumbers ⊢
      rw [List.filterMap_cons, List.flatMap_cons, ← restNumbers]
      rw [frame]
      split_ifs with fin empty
      · rw [headEmpty fin]
        rfl
      · rw [empty]
        rfl
      · rfl

private theorem frames_filter (written : List WrittenPacket) :
    (written.filter WrittenPacket.isDownload).filterMap frame =
      written.filterMap frame := by
  rw [List.filterMap_filter]
  congr 1
  funext entry
  rw [WrittenPacket.isDownload, frame]
  by_cases fin : entry.sender = .sendFin
  · simp [fin]
  · by_cases empty : entry.packet.data = []
    · simp [fin, empty]
    · simp [fin, empty]

/-- Packets that agree with those written on the download show its
integrity. -/
theorem Flowing.integrity
    {isn : Int} {packets : List WrittenPacket} {connection : TcpConnection}
    (flowing : Flowing isn connection.download)
    (same :
      packets.filter WrittenPacket.isDownload =
        connection.written.filter WrittenPacket.isDownload) :
    Integrity isn packets connection := by
  have finEmpty :
      ∀ entry ∈ packets,
        entry.sender = .sendFin → entry.packet.data = [] := by
    intro entry member fin
    refine flowing.finEmpty entry ?_ fin
    change entry ∈ connection.written.filter WrittenPacket.isDownload
    rw [← same]
    exact List.mem_filter.mpr ⟨member, decide_eq_true (Or.inl fin)⟩
  have sent_eq :
      (pipe connection.download).sent = packets.filterMap frame := by
    rw [← frames_filter packets, same]
    rfl
  have emitted_eq :
      payload (pipe connection.download).sent = emitted packets := by
    rw [sent_eq, payload_frames finEmpty]
  refine ⟨?_, ?_, ?_⟩
  · rw [← emitted_eq]
    exact flowing.wellFormed.conserved
  · rw [← itemLabels_frames finEmpty, ← sent_eq, ← emitted_eq]
    have labels :=
      @Laid.itemLabels UInt8 Int (streamNumber isn)
        (fun number offset => unsigned32 (number + offset))
        (streamNumber_add isn) 0 _ flowing.wellFormed.laid
    simpa only [Nat.zero_add] using labels
  · intro before last after split fin
    have framed : frame last = some (.fin (wireSequence last)) :=
      if_pos fin
    have sent_split :
        (pipe connection.download).sent =
          before.filterMap frame ++
            .fin (wireSequence last) :: after.filterMap frame := by
      rw [sent_eq, split, List.filterMap_append,
        List.filterMap_cons_some framed]
    obtain ⟨_, everything, number, nothing⟩ :=
      flowing.wellFormed.fin_last sent_split
    have member : last ∈ packets := by
      rw [split]
      exact List.mem_append_right _ List.mem_cons_self
    refine ⟨?_, finEmpty last member fin, number, ?_⟩
    · rw [← payload_frames]
      · exact everything
      · intro entry earlier
        exact finEmpty entry (split ▸ List.mem_append_left _ earlier)
    · intro later behind
      have unframed := List.filterMap_eq_nil_iff.mp nothing later behind
      rw [frame] at unframed
      split_ifs at unframed with later_fin later_empty
      exact ⟨later_fin, later_empty⟩

/-- The initial sequence number of the SYN-ACK. -/
def serverIsn (syn : ClientSegment) (opening : SessionHandler.Opening) :
    Int :=
  (TCPPacketFactory.createSynAckPacketData syn.ipHeader syn.tcpheader
    opening.random opening.currentTime).transportHeader.sequenceNumber

private theorem flowing_replySynAck
    (syn : ClientSegment) (opening : SessionHandler.Opening) :
    Flowing (serverIsn syn opening)
      (SessionHandler.replySynAck syn opening).download := by
  rw [SessionHandler.replySynAck]
  rw [download_write_other (by decide) rfl]
  refine ⟨⟨rfl, trivial, ?_⟩, ?_, ?_⟩
  · intro finished
    exact (not_hasFin_nil finished).elim
  · exact (Int.add_zero _).symm
  · intro entry member
    cases member

/-- What the packets handed to the writer amount to in every run: integrity
of whatever part of them goes to the client with all of the download. -/
theorem integrity_run
    (syn : ClientSegment) (opening : SessionHandler.Opening)
    (calls : List DownloadCall) {packets : List WrittenPacket}
    (same :
      packets.filter WrittenPacket.isDownload =
        (run downloadCall (SessionHandler.replySynAck syn opening)
          calls).written.filter WrittenPacket.isDownload) :
    Integrity (serverIsn syn opening) packets
      (run downloadCall (SessionHandler.replySynAck syn opening) calls) :=
  (run_downloadCall_preserves
    (fun _ _ effect _ => Flowing.effect effect) calls
    (sound_replySynAck syn opening)
    (flowing_replySynAck syn opening)).2.integrity same

end LanShield.Vpn.DownloadIntegrity
