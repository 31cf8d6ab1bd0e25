import LanShield.Vpn.UploadOrder

/-!
# What the engine acknowledges

A byte that is acknowledged and was not appended is lost: the client will
not send it again.  The engine acknowledges the end of a segment that it
rejects, and whatever stands before a segment that it accepts.
-/

namespace LanShield.Vpn.AckSoundness

open LanShield.Library

/-- Byte `index` of the client's stream was in an appended payload. -/
def Covered (isn : Int) (appended : List (Int × List UInt8))
    (index : Nat) : Prop :=
  ∃ entry ∈ appended,
    unsigned32 entry.1 ≤ isn + 1 + index ∧
      isn + 1 + index < unsigned32 entry.1 + entry.2.length

/-- Every byte of the stream below `number` was in an appended payload. -/
def CompleteBelow (isn : Int) (stream : List UInt8)
    (appended : List (Int × List UInt8)) (number : Int) : Prop :=
  ∀ index < stream.length,
    isn + 1 + index < number → Covered isn appended index

/-- No packet written to the client acknowledges a byte of the stream that
has not been appended. -/
def AcksSound (isn : Int) (stream : List UInt8)
    (connection : TcpConnection) : Prop :=
  ∀ ack ∈ connection.acknowledgments,
    CompleteBelow isn stream connection.appended (unsigned32 ack.number)

/-- The payload is a slice of the stream, and a FIN stands behind the last
byte. -/
structure Consistent (isn : Int) (stream : List UInt8)
    (segment : ClientSegment) : Prop where
  slice : UploadOrder.CarriesSlice isn stream segment
  fin_last :
    segment.tcpheader.isFIN = true →
      unsigned32 segment.tcpheader.sequenceNumber + segment.dataLength =
        isn + 1 + stream.length

def ConsistentStep (isn : Int) (stream : List UInt8) : AtomicStep → Prop
  | .handleTCPPacket segment _ => Consistent isn stream segment
  | .processSelectionKey _ => True

/-- Nothing the engine acknowledges because of the segment lies ahead of
`recSequence`: a payload that is appended stands at `recSequence`; a payload
that is not ends there or before; the number of an empty segment that is
taken over, or of a FIN that is acknowledged, is not ahead of it. -/
structure NothingAhead (connection : TcpConnection)
    (segment : ClientSegment) : Prop where
  appends :
    Appends connection segment →
      unsigned32 segment.tcpheader.sequenceNumber =
        unsigned32 connection.session.recSequence
  rejects :
    SessionHandler.Reaches connection segment →
      0 < segment.dataLength →
        ¬ SessionHandler.Accepts connection.session
            segment.tcpheader.sequenceNumber →
          unsigned32 segment.tcpheader.sequenceNumber +
              segment.dataLength ≤
            unsigned32 connection.session.recSequence
  renumbers :
    Renumbers connection segment →
      unsigned32 segment.tcpheader.sequenceNumber ≤
        unsigned32 connection.session.recSequence
  finishes :
    SessionHandler.Reaches connection segment →
      segment.dataLength = 0 →
        segment.tcpheader.isPSH = false →
          segment.tcpheader.isFIN = true →
            unsigned32 segment.tcpheader.sequenceNumber ≤
              unsigned32 connection.session.recSequence
  unknown :
    connection.tracked = false →
      segment.tcpheader.isSYN = false →
        segment.tcpheader.isFIN = true →
          unsigned32 segment.tcpheader.sequenceNumber +
              segment.dataLength ≤
            unsigned32 connection.session.recSequence

def NothingAheadStep (connection : TcpConnection) : AtomicStep → Prop
  | .handleTCPPacket segment _ => NothingAhead connection segment
  | .processSelectionKey _ => True

theorem CompleteBelow.mono
    {isn : Int} {stream : List UInt8}
    {appended : List (Int × List UInt8)} {number smaller : Int}
    (complete : CompleteBelow isn stream appended number)
    (le : smaller ≤ number) :
    CompleteBelow isn stream appended smaller :=
  fun index inside below => complete index inside (below.trans_le le)

theorem CompleteBelow.append
    {isn : Int} {stream : List UInt8}
    {appended : List (Int × List UInt8)} {number : Int}
    (complete : CompleteBelow isn stream appended number)
    (entry : Int × List UInt8) :
    CompleteBelow isn stream (appended ++ [entry]) number := by
  intro index inside below
  obtain ⟨earlier, member, bounds⟩ := complete index inside below
  exact ⟨earlier, List.mem_append_left _ member, bounds⟩

/-- A payload behind a complete part extends it. -/
private theorem CompleteBelow.extend
    {isn : Int} {stream : List UInt8}
    {appended : List (Int × List UInt8)} {sequenceNumber : Int}
    (complete :
      CompleteBelow isn stream appended (unsigned32 sequenceNumber))
    (payload : List UInt8) :
    CompleteBelow isn stream (appended ++ [(sequenceNumber, payload)])
      (unsigned32 sequenceNumber + payload.length) := by
  intro index inside below
  by_cases before : isn + 1 + index < unsigned32 sequenceNumber
  · exact complete.append _ index inside before
  · exact
      ⟨_, List.mem_append_right _ List.mem_cons_self,
        Int.not_lt.mp before, below⟩

/-- Behind the last byte there is nothing to acknowledge. -/
private theorem CompleteBelow.past_end
    {isn : Int} {stream : List UInt8}
    {appended : List (Int × List UInt8)} {number : Int}
    (complete : CompleteBelow isn stream appended number)
    (atEnd : isn + 1 + stream.length ≤ number) (further : Int) :
    CompleteBelow isn stream appended further := by
  intro index inside _
  refine complete index inside ?_
  omega

/-- What holds of a session in every reachable state. -/
structure Acknowledging (isn : Int) (stream : List UInt8)
    (connection : TcpConnection) : Prop where
  received :
    CompleteBelow isn stream connection.appended
      (unsigned32 connection.session.recSequence)
  sound : AcksSound isn stream connection

/-- What was complete stays complete, and what is new is complete. -/
theorem Acknowledging.further
    {isn : Int} {stream : List UInt8} {before after : TcpConnection}
    {more : List Acknowledgment}
    (acknowledging : Acknowledging isn stream before)
    (kept :
      ∀ number, CompleteBelow isn stream before.appended number →
        CompleteBelow isn stream after.appended number)
    (received :
      CompleteBelow isn stream after.appended
        (unsigned32 after.session.recSequence))
    (acks : after.acknowledgments = before.acknowledgments ++ more)
    (sound :
      ∀ ack ∈ more,
        CompleteBelow isn stream after.appended
          (unsigned32 ack.number)) :
    Acknowledging isn stream after := by
  refine ⟨received, ?_⟩
  intro ack member
  rw [acks] at member
  rcases List.mem_append.mp member with earlier | later
  · exact kept _ (acknowledging.sound ack earlier)
  · exact sound ack later

theorem Acknowledging.repeats
    {isn : Int} {stream : List UInt8} {before after : TcpConnection}
    (acknowledging : Acknowledging isn stream before)
    (repeats : Repeats before after) :
    Acknowledging isn stream after := by
  obtain ⟨more, acks, known⟩ := repeats.acknowledged
  refine acknowledging.further ?_ ?_ acks ?_
  · rw [repeats.appended]
    exact fun _ complete => complete
  · rw [repeats.appended, repeats.recSequence]
    exact acknowledging.received
  · intro ack member
    rw [repeats.appended, (known ack member).1]
    exact acknowledging.received

theorem Acknowledging.fin
    {isn : Int} {stream : List UInt8} {segment : ClientSegment}
    {before after : TcpConnection}
    (acknowledging : Acknowledging isn stream before)
    (acknowledges : AcknowledgesFin segment before after)
    (complete :
      CompleteBelow isn stream before.appended
        (unsigned32 segment.tcpheader.sequenceNumber + 1)) :
    Acknowledging isn stream after := by
  obtain ⟨sender, acks⟩ := acknowledges.acknowledged
  refine acknowledging.further ?_ ?_ acks ?_
  · rw [acknowledges.appended]
    exact fun _ complete => complete
  · rw [acknowledges.appended, acknowledges.recSequence]
    exact acknowledging.received
  · intro ack member
    rw [acknowledges.appended, List.mem_singleton.mp member]
    exact complete.mono (unsigned32_add_le _ 1)

theorem Acknowledging.accepted
    {isn : Int} {stream : List UInt8} {segment : ClientSegment}
    (currentTime : Int) {connection : TcpConnection}
    (acknowledging : Acknowledging isn stream connection)
    (hasData : 0 < segment.dataLength)
    (accepts :
      SessionHandler.Accepts connection.session
        segment.tcpheader.sequenceNumber)
    (atNext :
      unsigned32 segment.tcpheader.sequenceNumber =
        unsigned32 connection.session.recSequence) :
    let handled :=
      SessionHandler.handleData segment currentTime connection
    Acknowledging isn stream handled ∧
      CompleteBelow isn stream handled.appended
        (unsigned32 segment.tcpheader.sequenceNumber +
          segment.dataLength) := by
  obtain ⟨appended, recSequence, acks⟩ :=
    handleData_accepted currentTime hasData accepts
  have before :
      CompleteBelow isn stream connection.appended
        (unsigned32 segment.tcpheader.sequenceNumber) := by
    rw [atNext]
    exact acknowledging.received
  have complete := before.extend segment.payload
  rw [segment.length_payload, ← appended] at complete
  have received :
      CompleteBelow isn stream
        (SessionHandler.handleData segment currentTime
          connection).appended
        (unsigned32
          (connection.session.recSequence + segment.dataLength)) := by
    rw [atNext] at complete
    exact complete.mono (unsigned32_add_le _ _)
  refine ⟨acknowledging.further ?_ ?_ acks ?_, complete⟩
  · rw [appended]
    exact fun _ known => known.append _
  · rw [recSequence]
    exact received
  · intro ack member
    rw [List.mem_singleton.mp member]
    exact received

theorem Acknowledging.rejected
    {isn : Int} {stream : List UInt8} {segment : ClientSegment}
    (currentTime : Int) {connection : TcpConnection}
    (acknowledging : Acknowledging isn stream connection)
    (rejects :
      ¬ SessionHandler.Accepts connection.session
          segment.tcpheader.sequenceNumber)
    (notAhead :
      unsigned32 segment.tcpheader.sequenceNumber + segment.dataLength ≤
        unsigned32 connection.session.recSequence) :
    let handled :=
      SessionHandler.handleData segment currentTime connection
    Acknowledging isn stream handled ∧
      CompleteBelow isn stream handled.appended
        (unsigned32 segment.tcpheader.sequenceNumber +
          segment.dataLength) := by
  obtain ⟨appended, recSequence, acks⟩ :=
    handleData_rejected currentTime rejects
  have complete := acknowledging.received.mono notAhead
  rw [← appended] at complete
  refine ⟨acknowledging.further ?_ ?_ acks ?_, complete⟩
  · rw [appended]
    exact fun _ known => known
  · rw [appended, recSequence]
    exact acknowledging.received
  · intro ack member
    rw [List.mem_singleton.mp member]
    exact complete.mono (unsigned32_add_le _ _)

theorem Acknowledging.empty
    {isn : Int} {stream : List UInt8} {segment : ClientSegment}
    (currentTime : Int) {connection : TcpConnection}
    (acknowledging : Acknowledging isn stream connection)
    (notClosing : connection.session.closingConnection = false)
    (notAhead :
      SessionHandler.Advances connection.session segment.tcpheader →
        unsigned32 segment.tcpheader.sequenceNumber ≤
          unsigned32 connection.session.recSequence) :
    let handled := SessionHandler.handleAck segment currentTime connection
    Acknowledging isn stream handled ∧
      handled.appended = connection.appended := by
  obtain ⟨appended, written, recSequence⟩ :=
    handleAck_recSequence segment currentTime notClosing
  have acks :
      (SessionHandler.handleAck segment currentTime
          connection).acknowledgments =
        connection.acknowledgments ++ [] := by
    unfold TcpConnection.acknowledgments
    rw [written, List.append_nil]
  refine ⟨acknowledging.further ?_ ?_ acks fun _ => nofun, appended⟩
  · rw [appended]
    exact fun _ known => known
  · rw [appended, recSequence]
    split
    · next advances =>
      exact acknowledging.received.mono (notAhead advances)
    · exact acknowledging.received

/-- The monitor block down to the flags. -/
theorem Acknowledging.body
    {isn : Int} {stream : List UInt8} {segment : ClientSegment}
    (currentTime : Int) {connection : TcpConnection}
    (acknowledging : Acknowledging isn stream connection)
    (notClosing : connection.session.closingConnection = false)
    (reaches : SessionHandler.Reaches connection segment)
    (consistent : Consistent isn stream segment)
    (nothingAhead : NothingAhead connection segment) :
    let body := SessionHandler.handleBody segment currentTime connection
    Acknowledging isn stream body ∧
      (segment.tcpheader.isPSH = false →
        segment.tcpheader.isFIN = true →
          CompleteBelow isn stream body.appended
            (unsigned32 segment.tcpheader.sequenceNumber + 1)) := by
  have noted :
      Acknowledging isn stream
        (connection.updateSession
          (SessionHandler.noteSegment segment)) :=
    acknowledging.repeats (.of_same rfl rfl rfl)
  rw [SessionHandler.handleBody]
  dsimp only
  by_cases hasData : 0 < segment.dataLength
  · rw [if_pos hasData]
    have handled :
        let handled :=
          SessionHandler.handleData segment currentTime
            (connection.updateSession
              (SessionHandler.noteSegment segment))
        Acknowledging isn stream handled ∧
          CompleteBelow isn stream handled.appended
            (unsigned32 segment.tcpheader.sequenceNumber +
              segment.dataLength) := by
      by_cases accepts :
          SessionHandler.Accepts connection.session
            segment.tcpheader.sequenceNumber
      · exact
          noted.accepted currentTime hasData accepts
            (nothingAhead.appends ⟨reaches, hasData, accepts⟩)
      · exact
          noted.rejected currentTime accepts
            (nothingAhead.rejects reaches hasData accepts)
    refine ⟨handled.1, fun _ _ => handled.2.mono ?_⟩
    omega
  · rw [if_neg hasData]
    have noData : segment.dataLength = 0 := Nat.eq_zero_of_not_pos hasData
    obtain ⟨handled, appended⟩ :=
      @Acknowledging.empty isn stream segment currentTime _ noted
        notClosing
        fun advances =>
          nothingAhead.renumbers ⟨reaches, noData, advances⟩
    refine ⟨handled, fun notPsh fin => ?_⟩
    have notAhead := nothingAhead.finishes reaches noData notPsh fin
    have atEnd := consistent.fin_last fin
    rw [appended]
    refine (acknowledging.received.mono notAhead).past_end ?_ _
    omega

/-- A FIN of a session that is no longer in the table. -/
theorem Acknowledging.unknown
    {isn : Int} {stream : List UInt8} {segment : ClientSegment}
    {connection : TcpConnection}
    (acknowledging : Acknowledging isn stream connection)
    (consistent : Consistent isn stream segment)
    (fin : segment.tcpheader.isFIN = true)
    (notAhead :
      unsigned32 segment.tcpheader.sequenceNumber + segment.dataLength ≤
        unsigned32 connection.session.recSequence) :
    CompleteBelow isn stream connection.appended
      (unsigned32 segment.tcpheader.sequenceNumber + 1) :=
  (acknowledging.received.mono notAhead).past_end
    (consistent.fin_last fin).ge _

theorem handleTCPPacket_acknowledging
    {isn : Int} {stream : List UInt8} {segment : ClientSegment}
    (currentTime : Int) {connection : TcpConnection}
    (acknowledging : Acknowledging isn stream connection)
    (notClosing : connection.session.closingConnection = false)
    (consistent : Consistent isn stream segment)
    (nothingAhead : NothingAhead connection segment) :
    Acknowledging isn stream
      (SessionHandler.handleTCPPacket segment currentTime
        connection) := by
  by_cases reaches : SessionHandler.Reaches connection segment
  · rw [SessionHandler.handleTCPPacket_reaches reaches]
    obtain ⟨body, complete⟩ :=
      acknowledging.body currentTime notClosing reaches consistent
        nothingAhead
    refine Acknowledging.repeats ?_ (repeats_finishSegment _)
    by_cases pushedOrOpen :
        segment.tcpheader.isPSH = true ∨ segment.tcpheader.isFIN = false
    · exact
        body.repeats (repeats_handleFlags currentTime _ pushedOrOpen)
    · obtain ⟨pushed, notOpen⟩ := not_or.mp pushedOrOpen
      have notPsh : segment.tcpheader.isPSH = false :=
        Bool.eq_false_iff.mpr pushed
      have fin : segment.tcpheader.isFIN = true :=
        Bool.not_eq_false _ ▸ notOpen
      exact
        body.fin (acknowledgesFin_handleFlags currentTime _ notPsh fin)
          (complete notPsh fin)
  · rcases handleTCPPacket_outside currentTime reaches with
      repeats | ⟨untracked, notSyn, fin, acknowledges⟩
    · exact acknowledging.repeats repeats
    · exact
        acknowledging.fin acknowledges
          (acknowledging.unknown consistent fin
            (nothingAhead.unknown untracked notSyn fin))

private theorem atomicStep_acknowledging
    {isn : Int} {stream : List UInt8} (connection : TcpConnection)
    (step : AtomicStep)
    (guarded :
      ConsistentStep isn stream step ∧ NothingAheadStep connection step)
    (carried :
      Sound connection ∧ Acknowledging isn stream connection) :
    Sound (atomicStep connection step) ∧
      Acknowledging isn stream (atomicStep connection step) := by
  obtain ⟨sound, acknowledging⟩ := carried
  refine ⟨sound.effects (atomicStep_effects sound step), ?_⟩
  cases step with
  | handleTCPPacket segment currentTime =>
      exact
        handleTCPPacket_acknowledging currentTime acknowledging
          sound.notClosing guarded.1 guarded.2
  | processSelectionKey ready =>
      exact
        acknowledging.repeats
          (repeats_selected
            (SocketNIODataService.runSelectedKey_selected ready
              connection)
            sound.noted)

theorem acknowledging_replySynAck
    (syn : ClientSegment) (opening : SessionHandler.Opening)
    (stream : List UInt8) :
    Acknowledging (unsigned32 syn.tcpheader.sequenceNumber) stream
      (SessionHandler.replySynAck syn opening) := by
  have nothing :
      CompleteBelow (unsigned32 syn.tcpheader.sequenceNumber) stream []
        (unsigned32 (syn.tcpheader.sequenceNumber + 1)) := by
    intro index _ below
    have bound :
        unsigned32 (syn.tcpheader.sequenceNumber + 1) ≤
          unsigned32 syn.tcpheader.sequenceNumber + 1 :=
      unsigned32_add_le _ 1
    omega
  refine ⟨nothing, ?_⟩
  intro ack member
  rw [List.mem_singleton.mp member]
  exact nothing

/-- As long as nothing that makes the engine acknowledge lies ahead of
`recSequence`, no packet acknowledges a byte that has not been appended. -/
theorem acks_sound
    (syn : ClientSegment) (opening : SessionHandler.Opening)
    (stream : List UInt8) (steps : List AtomicStep)
    (consistent :
      ∀ step ∈ steps,
        ConsistentStep (unsigned32 syn.tcpheader.sequenceNumber) stream
          step)
    (guarded :
      StepsMeet atomicStep NothingAheadStep
        (SessionHandler.replySynAck syn opening) steps)
    (visited : List AtomicStep) (isPrefix : visited <+: steps) :
    AcksSound (unsigned32 syn.tcpheader.sequenceNumber) stream
      (run atomicStep (SessionHandler.replySynAck syn opening)
        visited) :=
  (run_guarded_invariant atomicStep_acknowledging visited
    ⟨sound_replySynAck syn opening,
      acknowledging_replySynAck syn opening stream⟩
    ((StepsMeet.and_forall consistent guarded).of_isPrefix
      isPrefix)).2.sound

/-- The second segment repeats byte 1 and brings byte 2: it is rejected, and
its end is acknowledged. -/
theorem overlap_acknowledged_unappended :
    let first := ClientSegment.plain 0x18 1 101 1000 [1, 2]
    let overlap := ClientSegment.plain 0x18 2 101 1000 [2, 3]
    (Consistent 0 [1, 2, 3] first ∧ Consistent 0 [1, 2, 3] overlap) ∧
      ¬ AcksSound 0 [1, 2, 3]
          (run atomicStep (SessionHandler.openedConnection 0)
            [.handleTCPPacket first 0, .handleTCPPacket overlap 0]) := by
  refine
    ⟨⟨⟨fun _ => ⟨0, rfl, by decide⟩, nofun⟩,
      ⟨fun _ => ⟨1, rfl, by decide⟩, nofun⟩⟩, ?_⟩
  intro sound
  have covered :
      Covered 0 [((1 : Int), [1, 2])] 2 :=
    sound ⟨.sendAckForDisorder, 4⟩ (by decide) 2 (by decide) (by decide)
  obtain ⟨entry, member, _, upper⟩ := covered
  rw [List.mem_singleton.mp member] at upper
  exact absurd upper (by decide)

theorem acks_sound_in_order :
    AcksSound 0 [1, 2]
      (run atomicStep (SessionHandler.openedConnection 0)
        [.handleTCPPacket (ClientSegment.plain 0x18 1 101 1000 [1]) 0,
          .handleTCPPacket
            (ClientSegment.plain 0x18 1 101 1000 [1]) 0]) := by
  refine
    acks_sound (ClientSegment.plain 0x02 0 0 1000 [])
      { random := 100, currentTime := 0, connected := true } [1, 2]
      [.handleTCPPacket (ClientSegment.plain 0x18 1 101 1000 [1]) 0,
        .handleTCPPacket (ClientSegment.plain 0x18 1 101 1000 [1]) 0]
      ?_
      ⟨⟨fun _ => by decide, fun _ _ rejects => absurd rejects (by decide),
          fun renumbers => absurd renumbers (by decide), nofun, nofun⟩,
        ⟨fun appends => absurd appends (by decide),
          fun _ _ _ => by decide,
          fun renumbers => absurd renumbers (by decide), nofun, nofun⟩,
        trivial⟩
      _ List.prefix_rfl
  intro step member
  rcases List.mem_pair.mp member with rfl | rfl
  · exact ⟨fun _ => ⟨0, rfl, by decide⟩, nofun⟩
  · exact ⟨fun _ => ⟨0, rfl, by decide⟩, nofun⟩

end LanShield.Vpn.AckSoundness
