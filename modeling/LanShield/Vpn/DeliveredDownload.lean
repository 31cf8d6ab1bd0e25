import LanShield.Vpn.DownloadIntegrity
import LanShield.Vpn.SegmentRules

/-!
# The download behind `ClientPacketWriter`

The pump counts a segment as sent when it has called `write`, which drops
what is longer than `MAX_WRITE_PACKET_SIZE`.  The download reaches the client
whole as long as no segment can be that long.
-/

namespace LanShield.Vpn.DownloadIntegrity

open LanShield.Library LanShield.Java LanShield.Transport
  SocketChannelReader

/-- Behind these headers no segment that window and `segMax` allow is dropped
for its size. -/
def FitsWriter (segMax window : Int) (ipHeader : IPHeader)
    (tcpheader : TCPHeader) : Prop :=
  max 0 (min window segMax) + headersLength ipHeader tcpheader ≤
    maxWritePacketSize

instance (segMax window : Int) (ipHeader : IPHeader)
    (tcpheader : TCPHeader) :
    Decidable (FitsWriter segMax window ipHeader tcpheader) :=
  inferInstanceAs (Decidable (_ ≤ _))

/-- The packet is not dropped for its size. -/
def Small (packet : Packet) : Prop :=
  headersLength packet.ipHeader packet.transportHeader +
      packet.data.length ≤
    maxWritePacketSize

/-- Packets that are not dropped. -/
def writerRule (segMax : Int) : SegmentRule where
  segMax := segMax
  allows := Small
  room := FitsWriter segMax
  segment := by
    intro window ipHeader tcpheader packetBody room within few isPsh
      ackNumber seqNumber timeSender timeReplyto
    rw [Small, headersLength_createResponsePacketData]
    rw [FitsWriter] at room
    change headersLength ipHeader tcpheader + packetBody.length ≤ _
    omega
  fin := by
    intro window ipHeader tcpheader room ackNumber seqNumber timeSender
      timeReplyTo
    rw [Small, FitsWriter, headersLength_createFinData]
    rw [FitsWriter] at room
    refine ⟨?_, room⟩
    change headersLength ipHeader tcpheader + 0 ≤ _
    omega

/-- The bytes of a full segment for the client of this SYN. -/
def segmentLimit (syn : ClientSegment) : Int :=
  if 61 ≤ syn.tcpheader.maxSegmentSize then
    syn.tcpheader.maxSegmentSize - 60
  else
    1024

private theorem maxSegment_replySynAck (syn : ClientSegment)
    (opening : SessionHandler.Opening) :
    maxSegment (SessionHandler.replySynAck syn opening).session =
      segmentLimit syn := by
  change
    (let max := syn.tcpheader.maxSegmentSize - 60
     if max < 1 then 1024 else max) = _
  rw [segmentLimit]
  by_cases announced : 61 ≤ syn.tcpheader.maxSegmentSize
  · rw [if_pos announced]
    exact if_neg (by omega)
  · rw [if_neg announced]
    exact if_pos (by omega)

/-- The headers and the window of each segment that reaches the session leave
no segment of the download too long. -/
def SegmentsFitWriter (segMax : Int) (connection : TcpConnection) :
    DownloadCall → Prop
  | .atomic (.handleTCPPacket segment _) =>
      SessionHandler.Reaches connection segment →
        FitsWriter segMax
          (shiftLeft64 segment.tcpheader.unsignedWindow
            connection.session.clientWindowScale)
          segment.ipHeader segment.tcpheader
  | .atomic (.processSelectionKey _) => True
  | .readTCP _ => True
  | .pumpToClient => True

instance (segMax : Int) (connection : TcpConnection) :
    DecidablePred (SegmentsFitWriter segMax connection)
  | .atomic (.handleTCPPacket _ _) => inferInstanceAs (Decidable (_ → _))
  | .atomic (.processSelectionKey _) => inferInstanceAs (Decidable True)
  | .readTCP _ => inferInstanceAs (Decidable True)
  | .pumpToClient => inferInstanceAs (Decidable True)

theorem SegmentsFitWriter.admitted {segMax : Int}
    {connection : TcpConnection} {call : DownloadCall}
    (fits : SegmentsFitWriter segMax connection call) :
    CallAdmitted (writerRule segMax) connection call := by
  cases call with
  | atomic step =>
      cases step with
      | handleTCPPacket segment currentTime => exact fits
      | processSelectionKey ready => trivial
  | readTCP outcomes => trivial
  | pumpToClient => trivial

/-- Where the rule holds the writer drops nothing of the download. -/
private theorem delivered_download {segMax : Int} {connection : TcpConnection}
    (obeys : Obeys (writerRule segMax) connection.emission) :
    connection.delivered.filter WrittenPacket.isDownload =
      connection.written.filter WrittenPacket.isDownload := by
  rw [TcpConnection.delivered, List.filter_filter]
  apply List.filter_congr
  intro entry written
  by_cases download : entry.isDownload = true
  · have small : Small entry.packet :=
      obeys.allows written (Or.inr (of_decide_eq_true download))
    rw [download, Bool.true_and]
    exact decide_eq_true small
  · rw [Bool.eq_false_iff.mpr download, Bool.false_and]

/-- As long as no segment can be too long for the writer, in every run the
bytes read from upstream are those the client is sent and those still staged;
every byte is sent under its own sequence number, and a FIN only behind all
of them. -/
theorem download_integrity
    {syn : ClientSegment} {opening : SessionHandler.Opening}
    (room :
      FitsWriter (segmentLimit syn) syn.tcpheader.unsignedWindow
        syn.ipHeader syn.tcpheader)
    {calls : List DownloadCall}
    (meets :
      StepsMeet downloadCall (SegmentsFitWriter (segmentLimit syn))
        (SessionHandler.replySynAck syn opening) calls) :
    ∀ visited, visited <+: calls →
      Integrity (serverIsn syn opening)
        (run downloadCall (SessionHandler.replySynAck syn opening)
          visited).delivered
        (run downloadCall (SessionHandler.replySynAck syn opening)
          visited) := by
  intro visited isPrefix
  have opened :
      Obeys (writerRule (segmentLimit syn))
        (SessionHandler.replySynAck syn opening).emission :=
    obeys_replySynAck (maxSegment_replySynAck syn opening) room
  have admitted :=
    (meets.of_isPrefix isPrefix).imp fun _ _ fits =>
      SegmentsFitWriter.admitted fits
  have obeys :=
    run_guarded_invariant obeys_downloadCall visited opened admitted
  exact integrity_run syn opening visited (delivered_download obeys)

/-- Two bytes from upstream, which leave the client's window. -/
def twoBytes : List DownloadCall :=
  [.readTCP [.data ⟨[7, 8], by decide, by decide⟩],
    .atomic
      (.handleTCPPacket (ClientSegment.plain 0x10 1 103 1000 []) 0)]

theorem download_integrity_twoBytes :
    Integrity
      (serverIsn (ClientSegment.plain 0x02 0 0 1000 [])
        { random := 100, currentTime := 0, connected := true })
      (run downloadCall (SessionHandler.openedConnection 0)
        twoBytes).delivered
      (run downloadCall (SessionHandler.openedConnection 0) twoBytes) :=
  @download_integrity (ClientSegment.plain 0x02 0 0 1000 [])
    { random := 100, currentTime := 0, connected := true } (by decide)
    twoBytes (by decide) twoBytes (List.prefix_refl _)

/-- Without staged bytes the pump sends no segment. -/
private theorem pumpStaged_empty {connection : TcpConnection}
    (empty : connection.session.receivingStream = [])
    (ipHeader : IPHeader) (tcpheader : TCPHeader) (segMax : Int)
    (rounds : Nat) :
    pumpStaged ipHeader tcpheader segMax rounds connection = connection := by
  have nothing : ¬ connection.session.hasReceivedData = true := by
    rw [Session.hasReceivedData, empty]
    exact Bool.false_ne_true
  cases rounds with
  | zero => rfl
  | succ rounds => rw [pumpStaged, if_neg nothing]

/-- What window and `segMax` allow goes out in one segment. -/
private theorem pumpStaged_whole {connection : TcpConnection} {segMax : Int}
    (staged : connection.session.receivingStream ≠ [])
    (within :
      (connection.session.receivingStream.length : Int) ≤
        connection.session.clientWindow -
          unsigned32
            (connection.session.sendNext - connection.session.sendUnack))
    (few : (connection.session.receivingStream.length : Int) ≤ segMax)
    (ipHeader : IPHeader) (tcpheader : TCPHeader) (rounds : Nat) :
    pumpStaged ipHeader tcpheader segMax (rounds + 1) connection =
      sendSegment ipHeader tcpheader connection.session.receivingStream
        { connection with
          session := { connection.session with receivingStream := [] } } := by
  have some := List.length_pos_of_ne_nil staged
  have received : connection.session.hasReceivedData = true :=
    decide_eq_true some
  rw [pumpStaged, if_pos received]
  dsimp only
  rw [if_neg (by omega), Session.getReceivedData]
  have whole :
      connection.session.receivingStream.length ≤
        (min
          (connection.session.clientWindow -
            unsigned32
              (connection.session.sendNext - connection.session.sendUnack))
          segMax).toNat := by
    omega
  dsimp only
  rw [List.take_of_length_le whole, List.drop_of_length_le whole,
    if_neg (by simpa using staged)]
  exact pumpStaged_empty rfl _ _ _ _

/-- What has reached the client, what is staged, and what has been read. -/
def arrival (connection : TcpConnection) :
    List UInt8 × List UInt8 × List UInt8 :=
  (emitted connection.delivered, connection.session.receivingStream,
    connection.channel.received)

/-- A packet without data, or too long, brings the client no byte. -/
private theorem arrival_write {sender : Sender} {packet : Packet}
    {connection : TcpConnection}
    (nothing : packet.data = [] ∨ ¬ Small packet) :
    arrival (connection.write sender packet) = arrival connection := by
  have delivered :
      emitted (connection.write sender packet).delivered =
        emitted connection.delivered := by
    rw [TcpConnection.delivered, TcpConnection.write]
    dsimp only
    rw [List.filter_append, emitted, List.flatMap_append, emitted,
      TcpConnection.delivered, List.append_right_eq_self,
      List.filter_singleton]
    by_cases small : Small packet
    · have empty := nothing.resolve_right (not_not_intro small)
      have kept :
          WrittenPacket.size ⟨sender, packet, connection.session⟩ ≤
            maxWritePacketSize := small
      simp [kept, empty]
    · have dropped :
          ¬ WrittenPacket.size ⟨sender, packet, connection.session⟩ ≤
              maxWritePacketSize := small
      simp [dropped]
  rw [arrival, delivered]
  rfl

private theorem arrival_afterPump (ipHeader : IPHeader)
    (tcpheader : TCPHeader)
    (connection : TcpConnection) :
    arrival (afterPump ipHeader tcpheader connection) =
      arrival connection := by
  rw [afterPump]
  split
  · exact arrival_write (Or.inl rfl)
  · split
    · rfl
    · rfl

/-- Staged bytes that go out in one segment which is too long are lost. -/
theorem oversized_segment_lost {connection : TcpConnection}
    {ipHeader : IPHeader} {tcpheader : TCPHeader}
    (lastIp : connection.session.lastIpHeader = some ipHeader)
    (lastTcp : connection.session.lastTcpHeader = some tcpheader)
    (staged : connection.session.receivingStream ≠ [])
    (within :
      (connection.session.receivingStream.length : Int) ≤
        connection.session.clientWindow -
          unsigned32
            (connection.session.sendNext - connection.session.sendUnack))
    (few :
      (connection.session.receivingStream.length : Int) ≤
        maxSegment connection.session)
    (oversized :
      maxWritePacketSize <
        headersLength ipHeader tcpheader +
          connection.session.receivingStream.length) :
    arrival (pumpToClient connection) =
      (emitted connection.delivered, [], connection.channel.received) := by
  obtain ⟨rounds, size_eq⟩ :=
    Nat.exists_eq_succ_of_ne_zero
      (List.length_pos_of_ne_nil staged).ne'
  rw [pumpToClient, lastIp, lastTcp]
  dsimp only
  rw [Session.receivingStreamSize, size_eq,
    pumpStaged_whole staged within few, arrival_afterPump, sendSegment]
  refine (arrival_write (Or.inr ?_)).trans rfl
  rw [Small, headersLength_createResponsePacketData]
  exact Nat.not_le.mpr oversized

/-- A SYN that announces the largest segments a `short` can hold, and the
largest window. -/
def jumboSyn : ClientSegment :=
  { ClientSegment.plain 0x02 7 0 (-1) [] with
    tcpheader :=
      { (ClientSegment.plain 0x02 7 0 (-1) []).tcpheader with
        dataOffset := 6
        maxSegmentSize := 32767 }
    dataOffset_le := by decide
    sequenceNumber_ge := by decide
    sequenceNumber_lt := by decide
    ackNumber_ge := by decide
    ackNumber_lt := by decide }

/-- The bytes of a full segment of its session. -/
def jumboBytes : List UInt8 :=
  List.replicate 32707 0

private theorem length_jumboBytes : jumboBytes.length = 32707 :=
  List.length_replicate

def jumboChunk : Chunk where
  bytes := jumboBytes
  bytes_ne_nil := by
    apply ne_of_apply_ne List.length
    rw [length_jumboBytes]
    decide
  length_le := by
    rw [length_jumboBytes]
    decide

/-- A read of one chunk stages it and pumps. -/
private theorem arrival_readTCP {connection : TcpConnection}
    (notAborting : connection.session.abortingConnection = false)
    (empty : connection.session.receivingStream = [])
    (notAtEnd : connection.channel.atEnd = false) (chunk : Chunk) :
    arrival (readTCP [.data chunk] connection).1 =
      arrival
        (sendToRequester chunk
          { connection with
            channel :=
              { connection.channel with
                received := connection.channel.received ++ chunk.bytes } }) := by
  have room :
      ¬ stagingCap ≤ connection.session.receivingStreamSize := by
    rw [Session.receivingStreamSize, empty]
    decide
  have answered :
      connection.channel.read (.data chunk) =
        (.data chunk,
          { connection.channel with
            received := connection.channel.received ++ chunk.bytes }) :=
    if_neg (Bool.eq_false_iff.mp notAtEnd)
  rw [readTCP, notAborting, if_neg Bool.false_ne_true, readLoop,
    if_neg room]
  dsimp only
  rw [answered]
  dsimp only
  rw [readLoop]
  split
  · rfl
  · rfl

/-- As many bytes as a full segment holds go out in a packet of 32751 bytes,
and are lost. -/
private theorem arrival_jumbo {chunk : Chunk}
    (length_eq : chunk.bytes.length = 32707) :
    arrival
        (readTCP [.data chunk]
          (SessionHandler.replySynAck jumboSyn
            { random := 100, currentTime := 0, connected := true })).1 =
      ([], [], chunk.bytes) := by
  rw [arrival_readTCP rfl rfl rfl, sendToRequester]
  refine
    @oversized_segment_lost _ jumboSyn.ipHeader jumboSyn.tcpheader rfl rfl
      chunk.bytes_ne_nil ?_ ?_ ?_
  · change (chunk.bytes.length : Int) ≤ 65535 - unsigned32 (101 - 100)
    rw [length_eq]
    decide
  · change (chunk.bytes.length : Int) ≤ 32707
    rw [length_eq]
    decide
  · change 30000 < 44 + chunk.bytes.length
    rw [length_eq]
    decide

private theorem not_integrity_jumbo {chunk : Chunk}
    (length_eq : chunk.bytes.length = 32707) :
    ¬ Integrity
      (serverIsn jumboSyn
        { random := 100, currentTime := 0, connected := true })
      (run downloadCall
        (SessionHandler.replySynAck jumboSyn
          { random := 100, currentTime := 0, connected := true })
        [.readTCP [.data chunk]]).delivered
      (run downloadCall
        (SessionHandler.replySynAck jumboSyn
          { random := 100, currentTime := 0, connected := true })
        [.readTCP [.data chunk]]) := by
  intro integrity
  have conserved := integrity.conserved
  have arrived := arrival_jumbo length_eq
  have nothing := congrArg (fun view => view.1 ++ view.2.1) arrived
  have everything := congrArg (fun view => view.2.2) arrived
  have lost := nothing.symm.trans (conserved.trans everything)
  exact chunk.bytes_ne_nil lost.symm

/-- A client that announces 32767 bytes never gets the first 32707. -/
theorem jumbo_segment_dropped :
    ¬ Integrity
      (serverIsn jumboSyn
        { random := 100, currentTime := 0, connected := true })
      (run downloadCall
        (SessionHandler.replySynAck jumboSyn
          { random := 100, currentTime := 0, connected := true })
        [.readTCP [.data jumboChunk]]).delivered
      (run downloadCall
        (SessionHandler.replySynAck jumboSyn
          { random := 100, currentTime := 0, connected := true })
        [.readTCP [.data jumboChunk]]) :=
  not_integrity_jumbo length_jumboBytes

end LanShield.Vpn.DownloadIntegrity
