import LanShield.Vpn.ClientEffects

/-!
# The order of uploaded bytes

The acceptance test compares a segment's number with `recSequence` from one
side only: it also lets segments behind a gap through, and segments that
were appended before when an empty segment has moved `recSequence` back.
-/

namespace LanShield.Vpn.UploadOrder

open LanShield.Library

/-- The payload is the slice of the client's stream at the segment's
number; `isn` is the initial sequence number. -/
def CarriesSlice (isn : Int) (stream : List UInt8)
    (segment : ClientSegment) : Prop :=
  0 < segment.dataLength →
    ∃ offset : Nat,
      unsigned32 segment.tcpheader.sequenceNumber = isn + 1 + offset ∧
        segment.payload <+: stream.drop offset

def Consistent (isn : Int) (stream : List UInt8) : AtomicStep → Prop
  | .handleTCPPacket segment _ => CarriesSlice isn stream segment
  | .processSelectionKey _ => True

/-- A segment whose payload is appended, or whose number is taken over,
carries the number `recSequence`. -/
structure InOrder (connection : TcpConnection) (segment : ClientSegment) :
    Prop where
  appends :
    Appends connection segment →
      segment.tcpheader.sequenceNumber = connection.session.recSequence
  renumbers :
    Renumbers connection segment →
      segment.tcpheader.sequenceNumber = connection.session.recSequence

def InOrderStep (connection : TcpConnection) : AtomicStep → Prop
  | .handleTCPPacket segment _ => InOrder connection segment
  | .processSelectionKey _ => True

theorem prefix_append {appended payload stream : List UInt8}
    (isPrefix : appended <+: stream)
    (next : payload <+: stream.drop appended.length) :
    appended ++ payload <+: stream := by
  obtain ⟨rest, rfl⟩ := isPrefix
  rw [List.drop_left] at next
  obtain ⟨later, rfl⟩ := next
  exact ⟨later, List.append_assoc _ _ _⟩

/-- The appended bytes are the first bytes of the stream, and `recSequence`
counts them. -/
structure Ordered (isn : Int) (stream : List UInt8)
    (connection : TcpConnection) : Prop where
  recSequence :
    connection.session.recSequence =
      isn + 1 + connection.appendedBytes.length
  appended_isPrefix : connection.appendedBytes <+: stream

theorem Ordered.of_same
    {isn : Int} {stream : List UInt8} {before after : TcpConnection}
    (ordered : Ordered isn stream before)
    (appended : after.appended = before.appended)
    (recSequence :
      after.session.recSequence = before.session.recSequence) :
    Ordered isn stream after := by
  have bytes : after.appendedBytes = before.appendedBytes := by
    unfold TcpConnection.appendedBytes
    rw [appended]
  refine ⟨?_, ?_⟩
  · rw [recSequence, bytes]
    exact ordered.recSequence
  · rw [bytes]
    exact ordered.appended_isPrefix

/-- Numbers below `2 ^ 32` tell the offset of a byte. -/
theorem offset_eq_length
    {isn : Int} {segment : ClientSegment} {offset length : Nat}
    (isn_ge : -2 ^ 31 ≤ isn)
    (wire :
      unsigned32 segment.tcpheader.sequenceNumber =
        unsigned32 isn + 1 + offset)
    (number : segment.tcpheader.sequenceNumber = isn + 1 + length) :
    offset = length := by
  have upper := segment.sequenceNumber_lt
  rw [number] at wire upper
  unfold unsigned32 at wire
  omega

theorem handleTCPPacket_ordered
    {isn : Int} (isn_ge : -2 ^ 31 ≤ isn) {stream : List UInt8}
    {segment : ClientSegment} (currentTime : Int)
    {connection : TcpConnection}
    (ordered : Ordered isn stream connection)
    (notClosing : connection.session.closingConnection = false)
    (slice : CarriesSlice (unsigned32 isn) stream segment)
    (inOrder : InOrder connection segment) :
    Ordered isn stream
      (SessionHandler.handleTCPPacket segment currentTime
        connection) := by
  cases handleTCPPacket_takes segment currentTime notClosing with
  | payload appends appended recSequence =>
      have number :
          segment.tcpheader.sequenceNumber =
            isn + 1 + connection.appendedBytes.length :=
        (inOrder.appends appends).trans ordered.recSequence
      obtain ⟨offset, wire, isPrefix⟩ := slice appends.2.1
      have atNext := offset_eq_length isn_ge wire number
      rw [atNext] at isPrefix
      have bytes :
          (SessionHandler.handleTCPPacket segment currentTime
              connection).appendedBytes =
            connection.appendedBytes ++ segment.payload := by
        unfold TcpConnection.appendedBytes
        rw [appended, List.flatMap_append, List.flatMap_singleton]
      refine ⟨?_, ?_⟩
      · rw [recSequence, bytes, List.length_append,
          segment.length_payload, ordered.recSequence]
        omega
      · rw [bytes]
        exact prefix_append ordered.appended_isPrefix isPrefix
  | number renumbers appended recSequence =>
      exact
        ordered.of_same appended
          (recSequence.trans (inOrder.renumbers renumbers))
  | nothing appended recSequence =>
      exact ordered.of_same appended recSequence

private theorem atomicStep_ordered
    {isn : Int} (isn_ge : -2 ^ 31 ≤ isn) {stream : List UInt8}
    (connection : TcpConnection) (step : AtomicStep)
    (guarded :
      Consistent (unsigned32 isn) stream step ∧
        InOrderStep connection step)
    (carried : Sound connection ∧ Ordered isn stream connection) :
    Sound (atomicStep connection step) ∧
      Ordered isn stream (atomicStep connection step) := by
  obtain ⟨sound, ordered⟩ := carried
  refine ⟨sound.effects (atomicStep_effects sound step), ?_⟩
  cases step with
  | handleTCPPacket segment currentTime =>
      exact
        handleTCPPacket_ordered isn_ge currentTime ordered
          sound.notClosing guarded.1 guarded.2
  | processSelectionKey ready =>
      have repeats :=
        repeats_selected
          (SocketNIODataService.runSelectedKey_selected ready connection)
          sound.noted
      exact ordered.of_same repeats.appended repeats.recSequence

/-- As long as no payload ahead of `recSequence` arrives and no empty
segment moves `recSequence`, the appended bytes are a prefix of the client's
stream. -/
theorem appended_prefix
    (syn : ClientSegment) (opening : SessionHandler.Opening)
    (stream : List UInt8) (steps : List AtomicStep)
    (consistent :
      ∀ step ∈ steps,
        Consistent (unsigned32 syn.tcpheader.sequenceNumber) stream step)
    (guarded :
      StepsMeet atomicStep InOrderStep
        (SessionHandler.replySynAck syn opening) steps)
    (visited : List AtomicStep) (isPrefix : visited <+: steps) :
    (run atomicStep (SessionHandler.replySynAck syn opening)
      visited).appendedBytes <+: stream := by
  have opened :
      Ordered syn.tcpheader.sequenceNumber stream
        (SessionHandler.replySynAck syn opening) :=
    ⟨(Int.add_zero _).symm, List.nil_prefix⟩
  have preserved :=
    run_guarded_invariant (atomicStep_ordered syn.sequenceNumber_ge)
      visited ⟨sound_replySynAck syn opening, opened⟩
      ((StepsMeet.and_forall consistent guarded).of_isPrefix isPrefix)
  exact preserved.2.appended_isPrefix

theorem appended_behind_gap :
    let segment := ClientSegment.plain 0x18 2 101 1000 [2]
    CarriesSlice 0 [1, 2] segment ∧
      ¬ (run atomicStep (SessionHandler.openedConnection 0)
          [.handleTCPPacket segment 0]).appendedBytes <+: [1, 2] := by
  refine ⟨fun _ => ⟨1, rfl, by decide⟩, by decide⟩

theorem appended_prefix_in_order :
    (run atomicStep (SessionHandler.openedConnection 0)
      [.handleTCPPacket
        (ClientSegment.plain 0x18 1 101 1000 [1]) 0]).appendedBytes <+:
      [1, 2] := by
  refine
    appended_prefix (ClientSegment.plain 0x02 0 0 1000 [])
      { random := 100, currentTime := 0, connected := true } [1, 2]
      [.handleTCPPacket (ClientSegment.plain 0x18 1 101 1000 [1]) 0,
        .handleTCPPacket (ClientSegment.plain 0x18 1 101 1000 [1]) 0]
      ?_
      ⟨⟨fun _ => by decide, fun renumbers => absurd renumbers (by decide)⟩,
        ⟨fun appends => absurd appends (by decide),
          fun renumbers => absurd renumbers (by decide)⟩, trivial⟩
      _
      ⟨[.handleTCPPacket (ClientSegment.plain 0x18 1 101 1000 [1]) 0],
        rfl⟩
  intro step member
  rcases List.mem_pair.mp member with rfl | rfl
  · exact fun _ => ⟨0, rfl, by decide⟩
  · exact fun _ => ⟨0, rfl, by decide⟩

end LanShield.Vpn.UploadOrder
