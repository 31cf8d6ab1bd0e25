import LanShield.Vpn.DownloadProgress

/-!
# What the pump leaves staged

The pump sends what the client's window has room for.  A read event that
starts with `total` bytes in front of the window therefore leaves the excess
over its room staged after every chunk, whatever the sizes of the chunks.
-/

namespace LanShield.Vpn.SocketChannelReader

open LanShield.Library LanShield.Transport DownloadProgress

/-- The room the client's window has for more bytes.  The pump counts the
bytes in flight modulo `2 ^ 32`, so that a window as large is never full. -/
def room (session : Session) : Option Nat :=
  if 2 ^ 32 ≤ session.clientWindow then
    none
  else
    some
      (session.clientWindow -
        unsigned32 (session.sendNext - session.sendUnack)).toNat

/-- What the room has no place for. -/
def excess : Option Nat → Nat → Nat
  | none, _ => 0
  | some room, total => total - room

/-- The room that is left. -/
def remaining (room : Option Nat) (total : Nat) : Option Nat :=
  room.map fun room => room - total

private theorem excess_le (room : Option Nat) (total : Nat) :
    excess room total ≤ total := by
  cases room with
  | none => exact Nat.zero_le total
  | some room => exact Nat.sub_le total room

/-- Filling a room in two steps or in one. -/
private theorem excess_add (room : Option Nat) (total more : Nat) :
    excess (remaining room total) (excess room total + more) =
      excess room (total + more) := by
  cases room with
  | none => rfl
  | some room =>
      simp only [remaining, Option.map_some, excess]
      omega

private theorem remaining_add (room : Option Nat) (total more : Nat) :
    remaining (remaining room total) (excess room total + more) =
      remaining room (total + more) := by
  cases room with
  | none => rfl
  | some room =>
      simp only [remaining, Option.map_some, excess, Option.some.injEq]
      omega

/-- `count` bytes are taken from the staging buffer and sent. -/
def sendStaged (count : Nat) (session : Session) : Session :=
  { session with
    receivingStream := session.receivingStream.drop count
    sendNext := session.sendNext + count }

private theorem sendStaged_zero (session : Session) :
    sendStaged 0 session = session := by
  simp [sendStaged]

private theorem sendStaged_sendStaged (count more : Nat) (session : Session) :
    sendStaged more (sendStaged count session) =
      sendStaged (count + more) session := by
  simp [sendStaged, List.drop_drop, Int.add_assoc]

/-- Bytes that fit into the window take their room. -/
private theorem room_sendStaged {session : Session} {count : Nat}
    (fits : excess (room session) count = 0) :
    room (sendStaged count session) = remaining (room session) count := by
  by_cases large : 2 ^ 32 ≤ session.clientWindow
  · rw [room, room, if_pos large, if_pos (by exact large)]
    rfl
  · rw [room, if_neg large] at fits
    rw [room, room, if_neg large, if_neg (by exact large)]
    simp only [excess] at fits
    simp only [remaining, Option.map_some, Option.some.injEq, sendStaged,
      unsigned32] at fits ⊢
    omega

/-- The loop of the pump sends all that is staged but the excess over the room
of the window. -/
private theorem pumpStaged_session
    (ipHeader : IPHeader) (tcpheader : TCPHeader) {segMax : Int}
    (segMax_pos : 1 ≤ segMax) (rounds : Nat) (connection : TcpConnection)
    (enough : connection.session.receivingStream.length ≤ rounds) :
    (pumpStaged ipHeader tcpheader segMax rounds connection).session =
      sendStaged
        (connection.session.receivingStream.length -
          excess (room connection.session)
            connection.session.receivingStream.length)
        connection.session := by
  induction rounds generalizing connection with
  | zero =>
      rw [pumpStaged, Nat.le_zero.mp enough, Nat.zero_sub, sendStaged_zero]
  | succ rounds inductionHypothesis =>
      rw [pumpStaged]
      split
      · next hasData =>
        have hasData := of_decide_eq_true hasData
        dsimp only [Session.getReceivedData]
        split
        · next noRoom =>
          have full : room connection.session = some 0 := by
            rw [room, if_neg]
            · congr 1
              omega
            · rw [unsigned32] at noRoom
              omega
          rw [full, excess, Nat.sub_zero, Nat.sub_self, sendStaged_zero]
        · next open_ =>
          generalize chunk_eq :
            (min
              (connection.session.clientWindow -
                unsigned32
                  (connection.session.sendNext -
                    connection.session.sendUnack))
              segMax).toNat = chunk
          generalize taken_eq :
            min chunk connection.session.receivingStream.length = taken
          have taken_pos : 1 ≤ taken := by
            omega
          have fits : excess (room connection.session) taken = 0 := by
            rw [room]
            split
            · rfl
            · simp only [excess]
              omega
          split
          · next nothing =>
            have nothing :=
              congrArg List.length (List.isEmpty_iff.mp nothing)
            rw [List.length_take, List.length_nil] at nothing
            omega
          · have sent :
                (sendSegment ipHeader tcpheader
                    (connection.session.receivingStream.take chunk)
                    { connection with
                      session :=
                        { connection.session with
                          receivingStream :=
                            connection.session.receivingStream.drop
                              chunk } }).session =
                  sendStaged taken connection.session := by
              have dropped :
                  connection.session.receivingStream.drop chunk =
                    connection.session.receivingStream.drop taken := by
                rw [List.drop_eq_drop_iff]
                omega
              simp [sendSegment, TcpConnection.write, sendStaged, dropped,
                taken_eq]
            rw [inductionHypothesis _ (by
                rw [sent, sendStaged, List.length_drop]
                omega),
              sent, sendStaged_sendStaged, room_sendStaged fits]
            have left :
                (sendStaged taken
                    connection.session).receivingStream.length =
                  connection.session.receivingStream.length - taken := by
              rw [sendStaged, List.length_drop]
            have whole :=
              excess_add (room connection.session) taken
                (connection.session.receivingStream.length - taken)
            rw [fits, Nat.zero_add, Nat.add_sub_cancel' (by omega)] at whole
            have bound :=
              excess_le
                (remaining (room connection.session) taken)
                (connection.session.receivingStream.length - taken)
            rw [left, whole] at *
            congr 1
            omega
      · next empty =>
        have nothing : connection.session.receivingStream.length = 0 := by
          by_contra some
          exact empty (decide_eq_true (Nat.pos_of_ne_zero some))
        rw [nothing, Nat.zero_sub, sendStaged_zero]

/-- A read event has staged or sent `total` bytes in front of a window that
had `window` room at its start; the upstream stream goes on. -/
structure Reading (window : Option Nat) (total : Nat)
    (connection : TcpConnection) : Prop where
  atEnd : connection.channel.atEnd = false
  upstreamEof : connection.session.upstreamEof = false
  running : connection.session.abortingConnection = false
  known : HeadersKnown connection.session
  staged :
    connection.session.receivingStream.length = excess window total
  room_eq : room connection.session = remaining window total

section Pumping

variable {window : Option Nat} {total : Nat} {connection : TcpConnection}

private theorem pumpToClient_channel (connection : TcpConnection) :
    (pumpToClient connection).channel = connection.channel := by
  refine
    @Effects.view_eq _ PumpEffect TcpConnection.channel ?_ _ _
      (pumpToClient_effects connection)
  intro before after effect
  cases effect with
  | segment => rfl
  | finish => rfl
  | interest => rfl

/-- The session in front of `afterPump`. -/
private theorem pumpToClient_eq (known : HeadersKnown connection.session) :
    ∃ ipHeader tcpheader pumped,
      pumpToClient connection = afterPump ipHeader tcpheader pumped ∧
        pumped.session =
          sendStaged
            (connection.session.receivingStream.length -
              excess (room connection.session)
                connection.session.receivingStream.length)
            connection.session := by
  obtain ⟨ipHeader, ip_eq⟩ := Option.ne_none_iff_exists'.mp known.1
  obtain ⟨tcpheader, tcp_eq⟩ := Option.ne_none_iff_exists'.mp known.2
  refine
    ⟨ipHeader, tcpheader,
      pumpStaged ipHeader tcpheader (maxSegment connection.session)
        connection.session.receivingStreamSize connection, ?_, ?_⟩
  · rw [pumpToClient, ip_eq, tcp_eq]
  · exact
      pumpStaged_session ipHeader tcpheader
        (maxSegment_pos connection.session) _ connection (le_refl _)

/-- What the pump leaves staged, and the room it leaves. -/
private theorem sendStaged_excess (session : Session) :
    let sent :=
      sendStaged
        (session.receivingStream.length -
          excess (room session) session.receivingStream.length)
        session
    sent.receivingStream.length =
        excess (room session) session.receivingStream.length ∧
      room sent = remaining (room session) session.receivingStream.length := by
  have bound := excess_le (room session) session.receivingStream.length
  constructor
  · rw [sendStaged, List.length_drop]
    omega
  · rw [room_sendStaged]
    · cases window : room session with
      | none => rfl
      | some room =>
          simp only [remaining, Option.map_some, excess, Option.some.injEq]
          omega
    · cases window : room session with
      | none => rfl
      | some room =>
          simp only [excess]
          omega

/-- As long as the upstream stream goes on, the pump sends what the window
has room for, and at most subscribes for reading. -/
private theorem pumpToClient_open (known : HeadersKnown connection.session)
    (open_ : connection.session.upstreamEof = false) :
    ∃ key,
      (pumpToClient connection).session =
        { sendStaged
            (connection.session.receivingStream.length -
              excess (room connection.session)
                connection.session.receivingStream.length)
            connection.session with
          selectionkey := key } := by
  obtain ⟨ipHeader, tcpheader, pumped, pump_eq, session_eq⟩ :=
    pumpToClient_eq known
  have stillOpen : pumped.session.upstreamEof = false := by
    rw [session_eq]
    exact open_
  rw [pump_eq, afterPump, if_neg (by simp [stillOpen])]
  split
  · exact ⟨_, congrArg (Session.subscribeKey .read) session_eq⟩
  · exact ⟨_, session_eq⟩

/-- Behind the end of the upstream stream the pump finishes if the window has
room for all that is staged. -/
private theorem pumpToClient_ended (known : HeadersKnown connection.session)
    (ended : connection.session.upstreamEof = true)
    (running : connection.session.abortingConnection = false) :
    let left :=
      excess (room connection.session)
        connection.session.receivingStream.length
    let after := (pumpToClient connection).session
    after.upstreamEof = true ∧ after.receivingStream.length = left ∧
      after.abortingConnection = decide (left = 0) := by
  intro left
  obtain ⟨ipHeader, tcpheader, pumped, pump_eq, session_eq⟩ :=
    pumpToClient_eq known
  have left_eq : pumped.session.receivingStream.length = left := by
    rw [session_eq]
    exact (sendStaged_excess connection.session).1
  have ended : pumped.session.upstreamEof = true := by
    rw [session_eq]
    exact ended
  have running : pumped.session.abortingConnection = false := by
    rw [session_eq]
    exact running
  rw [pump_eq, afterPump]
  by_cases drained : left = 0
  · have nothing : pumped.session.hasReceivedData = false := by
      simp [Session.hasReceivedData, left_eq, drained]
    rw [if_pos (by simp [ended, running, nothing])]
    exact ⟨ended, left_eq, (decide_eq_true drained).symm⟩
  · have some : pumped.session.hasReceivedData = true := by
      simp only [Session.hasReceivedData, left_eq, decide_eq_true_eq]
      omega
    rw [if_neg (by simp [some]), if_neg (by simp [ended])]
    exact ⟨ended, left_eq, running.trans (decide_eq_false drained).symm⟩

/-- What `sendToRequester` does in front of the pump. -/
def stageChunk (chunk : Chunk) (session : Session) : Session :=
  { session with
    hasReceivedLastSegment :=
      decide (chunk.bytes.length < maxReceiveBufferSize)
    receivingStream := session.receivingStream ++ chunk.bytes }

private theorem sendToRequester_eq (chunk : Chunk)
    (connection : TcpConnection) :
    sendToRequester chunk connection =
      pumpToClient (connection.updateSession (stageChunk chunk)) :=
  rfl

/-- Reading a chunk stages it and sends as much as the window has room
for. -/
theorem Reading.chunk (reading : Reading window total connection)
    (chunk : Chunk) {channel : SocketChannel}
    (goesOn : channel.atEnd = false) :
    Reading window (total + chunk.bytes.length)
      (sendToRequester chunk { connection with channel }) := by
  have sameRoom :
      room (stageChunk chunk connection.session) =
        remaining window total :=
    reading.room_eq
  have stagedNow :
      (stageChunk chunk connection.session).receivingStream.length =
        excess window total + chunk.bytes.length := by
    rw [stageChunk, List.length_append, reading.staged]
  obtain ⟨left, roomAfter⟩ :=
    sendStaged_excess (stageChunk chunk connection.session)
  obtain ⟨key, session_eq⟩ :=
    @pumpToClient_open
      { connection with
        channel
        session := stageChunk chunk connection.session }
      reading.known reading.upstreamEof
  rw [sendToRequester_eq]
  refine ⟨?_, ?_, ?_, ?_, ?_, ?_⟩
  · rw [pumpToClient_channel]
    exact goesOn
  all_goals
    rw [TcpConnection.updateSession]
    dsimp only
    rw [session_eq]
  · exact reading.upstreamEof
  · exact reading.running
  · exact reading.known
  · refine left.trans ?_
    rw [sameRoom, stagedNow, excess_add]
  · refine roomAfter.trans ?_
    rw [sameRoom, stagedNow, remaining_add]

/-- The end of the upstream stream ends the session if all that was read fits
into the window. -/
theorem Reading.ended (reading : Reading window total connection)
    (channel : SocketChannel) :
    let after := (endUpstream { connection with channel }).session
    after.upstreamEof = true ∧
      after.receivingStream.length ≤
        connection.session.receivingStream.length ∧
      after.abortingConnection = decide (excess window total = 0) := by
  obtain ⟨ended, left, aborting⟩ :=
    @pumpToClient_ended
      { connection with
        channel
        session := { connection.session with upstreamEof := true } }
      reading.known rfl reading.running
  have left_eq :
      excess (room { connection.session with upstreamEof := true })
          connection.session.receivingStream.length =
        excess window total := by
    have sameRoom :
        room { connection.session with upstreamEof := true } =
          remaining window total :=
      reading.room_eq
    rw [sameRoom, reading.staged]
    exact excess_add window total 0
  refine ⟨ended, ?_, aborting.trans ?_⟩
  · exact left.trans_le (excess_le _ _)
  · rw [left_eq]

/-- The number of bytes in front of the window when a read event reaches the
end of the stream, if it does. -/
def endTotal (window : Option Nat) : List ReadOutcome → Nat → Option Nat
  | [], _ => none
  | .data chunk :: later, total =>
      if stagingCap ≤ excess window total then
        none
      else
        endTotal window later (total + chunk.bytes.length)
  | .endOfStream :: _, total =>
      if stagingCap ≤ excess window total then none else some total
  | .nothing :: _, _ => none
  | .failure _ :: _, _ => none

/-- A read event notes the end of the stream where it reaches it, and aborts
the connection there if all that was read fits into the window. -/
theorem readLoop_endTotal (outcomes : List ReadOutcome) :
    ∀ {total : Nat} {connection : TcpConnection},
      Reading window total connection →
        let after := (readLoop outcomes connection).1.session
        after.upstreamEof = (endTotal window outcomes total).isSome ∧
          ∀ reached, endTotal window outcomes total = some reached →
            after.receivingStream.length < stagingCap ∧
              after.abortingConnection =
                decide (excess window reached = 0) := by
  induction outcomes with
  | nil =>
      intro total connection reading
      rw [readLoop]
      split
      · exact ⟨reading.upstreamEof, by simp [endTotal]⟩
      · exact ⟨reading.upstreamEof, by simp [endTotal]⟩
  | cons outcome later inductionHypothesis =>
      intro total connection reading
      have staged := reading.staged
      rw [readLoop]
      by_cases full :
          stagingCap ≤ connection.session.receivingStreamSize
      · rw [if_pos full]
        rw [Session.receivingStreamSize, staged] at full
        have unreached : endTotal window (outcome :: later) total = none := by
          cases outcome <;> simp [endTotal, full]
        rw [unreached]
        exact ⟨reading.upstreamEof, by simp⟩
      · rw [if_neg full]
        rw [Session.receivingStreamSize, staged] at full
        cases outcome with
        | data chunk =>
            have returned :
                connection.channel.read (.data chunk) =
                  (.data chunk,
                    { connection.channel with
                      received :=
                        connection.channel.received ++ chunk.bytes }) := by
              simp [SocketChannel.read, reading.atEnd]
            simp only [returned, endTotal, if_neg full]
            exact inductionHypothesis (reading.chunk chunk reading.atEnd)
        | nothing =>
            simp only [SocketChannel.read, reading.atEnd, endTotal]
            exact ⟨reading.upstreamEof, by simp⟩
        | endOfStream =>
            simp only [SocketChannel.read, endTotal, if_neg full]
            obtain ⟨ended, left, aborting⟩ :=
              reading.ended { connection.channel with atEnd := true }
            refine ⟨ended, fun reached same => ?_⟩
            cases same
            exact ⟨left.trans_lt (by omega), aborting⟩
        | failure exception =>
            simp only [SocketChannel.read, endTotal]
            refine ⟨?_, by simp⟩
            cases exception <;> exact reading.upstreamEof

end Pumping

end LanShield.Vpn.SocketChannelReader
