import LanShield.Vpn.ClientEffects

/-!
# A client that sends in order

`recSequence` is a 64-bit counter, but it is compared with the signed 32-bit
number of a segment.  Once it has counted past `2 ^ 31` the next segment of
a well-behaved client counts as old: its payload is not appended, and it is
acknowledged all the same.
-/

namespace LanShield.Vpn.UploadCompleteness

open LanShield.Library

def payload : AtomicStep → List UInt8
  | .handleTCPPacket segment _ => segment.payload
  | .processSelectionKey _ => []

/-- The wire numbers that acknowledge the data of a step. -/
def expectedAcks : AtomicStep → List Int
  | .handleTCPPacket segment _ =>
      if 0 < segment.dataLength then
        [unsigned32
          (segment.tcpheader.sequenceNumber + segment.dataLength)]
      else
        []
  | .processSelectionKey _ => []

/-- The payload bytes of the client's segments, in order. -/
def uploaded (handled : List AtomicStep) : List UInt8 :=
  handled.flatMap payload

/-- The next segment of a client that sends in order, with ACK and without
SYN, FIN and RST; `isn` is the initial sequence number. -/
structure SendsNext (isn : Int) (handled : List AtomicStep)
    (segment : ClientSegment) : Prop where
  isACK : segment.tcpheader.isACK = true
  notSYN : segment.tcpheader.isSYN = false
  notFIN : segment.tcpheader.isFIN = false
  notRST : segment.tcpheader.isRST = false
  sequenceNumber :
    segment.tcpheader.sequenceNumber =
      signed32 (isn + 1 + (uploaded handled).length)

def WellBehaved (isn : Int) (handled : List AtomicStep) :
    AtomicStep → Prop
  | .handleTCPPacket segment _ => SendsNext isn handled segment
  | .processSelectionKey _ => True

/-- The table maps the session's key to it. -/
def Tracked (connection : TcpConnection) (_ : AtomicStep) : Prop :=
  connection.tracked = true

def Acknowledgment.forData (ack : Acknowledgment) : Bool :=
  decide (ack.sender = .sendAck ∨ ack.sender = .sendAckForDisorder)

/-- The wire numbers of the acknowledgments written for data segments. -/
def dataAcks (connection : TcpConnection) : List Int :=
  (connection.acknowledgments.filter Acknowledgment.forData).map
    fun ack => unsigned32 ack.number

/-- Every payload has been appended once and in order, and every data
segment has been acknowledged with the number behind it. -/
structure Delivered (handled : List AtomicStep)
    (connection : TcpConnection) : Prop where
  appended : connection.appendedBytes = uploaded handled
  acknowledged : dataAcks connection = handled.flatMap expectedAcks

/-- A data segment is handled while `recSequence` is below `2 ^ 31`. -/
def BelowSign (connection : TcpConnection) : AtomicStep → Prop
  | .handleTCPPacket segment _ =>
      0 < segment.dataLength →
        connection.session.recSequence < 2 ^ 31
  | .processSelectionKey _ => True

private theorem dataAcks_append
    {before after : TcpConnection} {more : List Acknowledgment}
    (acks : after.acknowledgments = before.acknowledgments ++ more) :
    dataAcks after =
      dataAcks before ++
        (more.filter Acknowledgment.forData).map
          fun ack => unsigned32 ack.number := by
  unfold dataAcks
  rw [acks, List.filter_append, List.map_append]

private theorem dataAcks_repeats {before after : TcpConnection}
    (repeats : Repeats before after) :
    dataAcks after = dataAcks before := by
  obtain ⟨more, acks, known⟩ := repeats.acknowledged
  have others : more.filter Acknowledgment.forData = [] := by
    refine List.filter_eq_nil_iff.mpr ?_
    intro ack member
    simpa [Acknowledgment.forData] using (known ack member).2
  rw [dataAcks_append acks, others]
  exact List.append_nil _

private theorem dataAcks_sendAck
    {before after : TcpConnection} {number : Int}
    (acks :
      after.acknowledgments =
        before.acknowledgments ++ [⟨.sendAck, number⟩]) :
    dataAcks after = dataAcks before ++ [unsigned32 number] :=
  dataAcks_append acks

private theorem appendedBytes_congr {before after : TcpConnection}
    (appended : after.appended = before.appended) :
    after.appendedBytes = before.appendedBytes := by
  unfold TcpConnection.appendedBytes
  rw [appended]

/-- Without a FIN, only the body of the monitor block acknowledges data. -/
private theorem handleTCPPacket_repeats
    {segment : ClientSegment} (currentTime : Int)
    {connection : TcpConnection}
    (reaches : SessionHandler.Reaches connection segment)
    (notFin : segment.tcpheader.isFIN = false) :
    Repeats (SessionHandler.handleBody segment currentTime connection)
      (SessionHandler.handleTCPPacket segment currentTime
        connection) := by
  rw [SessionHandler.handleTCPPacket_reaches reaches]
  exact
    (repeats_handleFlags currentTime _ (Or.inr notFin)).trans
      (repeats_finishSegment _)

private theorem handleTCPPacket_accepted
    {segment : ClientSegment} (currentTime : Int)
    {connection : TcpConnection}
    (notFin : segment.tcpheader.isFIN = false)
    (appends : Appends connection segment) :
    let handled :=
      SessionHandler.handleTCPPacket segment currentTime connection
    handled.appendedBytes = connection.appendedBytes ++ segment.payload ∧
      handled.session.recSequence =
        connection.session.recSequence + segment.dataLength ∧
      dataAcks handled =
        dataAcks connection ++
          [unsigned32
            (connection.session.recSequence + segment.dataLength)] := by
  obtain ⟨reaches, hasData, accepts⟩ := appends
  have repeats := handleTCPPacket_repeats currentTime reaches notFin
  obtain ⟨appended, recSequence, acks⟩ :=
    @handleData_accepted segment currentTime
      (connection.updateSession (SessionHandler.noteSegment segment))
      hasData accepts
  have body :
      SessionHandler.handleBody segment currentTime connection =
        SessionHandler.handleData segment currentTime
          (connection.updateSession
            (SessionHandler.noteSegment segment)) :=
    if_pos hasData
  rw [body] at repeats
  refine ⟨?_, repeats.recSequence.trans recSequence, ?_⟩
  · rw [appendedBytes_congr repeats.appended]
    rw [TcpConnection.appendedBytes]
    rw [appended, List.flatMap_append, List.flatMap_singleton]
    rfl
  · rw [dataAcks_repeats repeats]
    exact dataAcks_sendAck acks

private theorem handleTCPPacket_empty
    {segment : ClientSegment} (currentTime : Int)
    {connection : TcpConnection}
    (notClosing : connection.session.closingConnection = false)
    (notFin : segment.tcpheader.isFIN = false)
    (noData : segment.dataLength = 0) :
    dataAcks
        (SessionHandler.handleTCPPacket segment currentTime connection) =
      dataAcks connection := by
  by_cases reaches : SessionHandler.Reaches connection segment
  · have body :
        SessionHandler.handleBody segment currentTime connection =
          SessionHandler.handleAck segment currentTime
            (connection.updateSession
              (SessionHandler.noteSegment segment)) :=
      if_neg (by omega)
    obtain ⟨_, written, _⟩ :=
      @handleAck_recSequence segment currentTime
        (connection.updateSession (SessionHandler.noteSegment segment))
        notClosing
    rw [dataAcks_repeats
      (handleTCPPacket_repeats currentTime reaches notFin), body]
    rw [dataAcks, TcpConnection.acknowledgments]
    rw [written]
    rfl
  · rcases handleTCPPacket_outside currentTime reaches with
      repeats | ⟨_, _, fin, _⟩
    · exact dataAcks_repeats repeats
    · exact absurd fin (Bool.eq_false_iff.mp notFin)

/-- `recSequence` is congruent to the client's position, and not behind its
signed value. -/
structure Counts (isn : Int) (handled : List AtomicStep)
    (connection : TcpConnection) : Prop where
  sound : Sound connection
  congruent :
    unsigned32 connection.session.recSequence =
      unsigned32 (isn + 1 + (uploaded handled).length)
  ahead :
    signed32 (isn + 1 + (uploaded handled).length) ≤
      connection.session.recSequence

private theorem uploaded_append (handled : List AtomicStep)
    (step : AtomicStep) :
    uploaded (handled ++ [step]) = uploaded handled ++ payload step := by
  unfold uploaded
  rw [List.flatMap_append, List.flatMap_singleton]

/-- A data segment is handled while its session is in the table and
`recSequence` is below `2 ^ 31`. -/
def Accepting (connection : TcpConnection) : AtomicStep → Prop
  | .handleTCPPacket segment _ =>
      0 < segment.dataLength →
        connection.tracked = true ∧
          connection.session.recSequence < 2 ^ 31
  | .processSelectionKey _ => True

private theorem appends_iff
    {isn : Int} {handled : List AtomicStep} {segment : ClientSegment}
    {connection : TcpConnection}
    (counts : Counts isn handled connection)
    (sends : SendsNext isn handled segment)
    (hasData : 0 < segment.dataLength) :
    Appends connection segment ↔
      connection.tracked = true ∧
        connection.session.recSequence < 2 ^ 31 := by
  have compared :=
    le_signed32_iff_lt counts.congruent counts.ahead
  rw [← sends.sequenceNumber] at compared
  constructor
  · rintro ⟨⟨tracked, _, _⟩, _, zero | notBehind⟩
    · rw [zero]
      exact ⟨tracked, by decide⟩
    · exact ⟨tracked, compared.mp notBehind⟩
  · rintro ⟨tracked, below⟩
    exact
      ⟨⟨tracked, sends.notSYN, sends.isACK⟩, hasData,
        Or.inr (compared.mpr below)⟩

theorem Counts.of_same
    {isn : Int} {handled : List AtomicStep} {before after : TcpConnection}
    {step : AtomicStep} (counts : Counts isn handled before)
    (sound : Sound after) (nothing : payload step = [])
    (recSequence :
      after.session.recSequence = before.session.recSequence) :
    Counts isn (handled ++ [step]) after := by
  refine ⟨sound, ?_, ?_⟩
  · rw [uploaded_append, nothing, List.append_nil, recSequence]
    exact counts.congruent
  · rw [uploaded_append, nothing, List.append_nil, recSequence]
    exact counts.ahead

private theorem handleTCPPacket_counts
    {isn : Int} {handled : List AtomicStep} {segment : ClientSegment}
    (currentTime : Int) {connection : TcpConnection}
    (counts : Counts isn handled connection)
    (sends : SendsNext isn handled segment)
    (accepting :
      Accepting connection (.handleTCPPacket segment currentTime)) :
    Counts isn (handled ++ [.handleTCPPacket segment currentTime])
      (SessionHandler.handleTCPPacket segment currentTime
        connection) := by
  have sound :
      Sound
        (SessionHandler.handleTCPPacket segment currentTime
          connection) :=
    counts.sound.effects
      (atomicStep_effects counts.sound
        (.handleTCPPacket segment currentTime))
  have length_eq :
      (uploaded
          (handled ++ [.handleTCPPacket segment currentTime])).length =
        (uploaded handled).length + segment.dataLength := by
    rw [uploaded_append, List.length_append]
    exact congrArg _ segment.length_payload
  rcases Nat.eq_zero_or_pos segment.dataLength with noData | hasData
  · have nothing :
        payload (.handleTCPPacket segment currentTime) = [] :=
      List.length_eq_zero_iff.mp (segment.length_payload.trans noData)
    cases handleTCPPacket_takes segment currentTime
        counts.sound.notClosing with
    | payload appends => exact absurd appends.2.1 (by omega)
    | number _ _ recSequence =>
        refine ⟨sound, ?_, ?_⟩
        · rw [recSequence, sends.sequenceNumber, length_eq, noData]
          exact unsigned32_signed32 _
        · rw [recSequence, sends.sequenceNumber, length_eq, noData]
          exact le_refl _
    | nothing _ recSequence =>
        exact counts.of_same sound nothing recSequence
  · have appends :=
      (appends_iff counts sends hasData).mpr (accepting hasData)
    obtain ⟨_, recSequence, _⟩ :=
      handleTCPPacket_accepted currentTime sends.notFIN appends
    have congruent := counts.congruent
    have ahead := counts.ahead
    refine ⟨sound, ?_, ?_⟩
    · rw [recSequence, length_eq, Nat.cast_add, ← add_assoc]
      exact unsigned32_add_congr congruent _
    · rw [recSequence, length_eq, Nat.cast_add, ← add_assoc]
      exact (signed32_add_le _ _).trans (by omega)

private theorem handleTCPPacket_delivered_iff
    {isn : Int} {handled : List AtomicStep} {segment : ClientSegment}
    (currentTime : Int) {connection : TcpConnection}
    (counts : Counts isn handled connection)
    (delivered : Delivered handled connection)
    (sends : SendsNext isn handled segment) :
    Delivered (handled ++ [.handleTCPPacket segment currentTime])
        (SessionHandler.handleTCPPacket segment currentTime
          connection) ↔
      Accepting connection (.handleTCPPacket segment currentTime) := by
  have takes :=
    handleTCPPacket_takes segment currentTime counts.sound.notClosing
  rcases Nat.eq_zero_or_pos segment.dataLength with noData | hasData
  · have nothing :
        payload (.handleTCPPacket segment currentTime) = [] :=
      List.length_eq_zero_iff.mp (segment.length_payload.trans noData)
    have noAcks :
        expectedAcks (.handleTCPPacket segment currentTime) = [] :=
      if_neg (by omega)
    have appended := takes.appended_eq fun appends => by
      have := appends.2.1
      omega
    refine ⟨fun _ positive => absurd positive (by omega), fun _ => ⟨?_, ?_⟩⟩
    · rw [appendedBytes_congr appended, uploaded_append, nothing,
        List.append_nil]
      exact delivered.appended
    · rw [handleTCPPacket_empty currentTime counts.sound.notClosing
          sends.notFIN noData,
        List.flatMap_append, List.flatMap_singleton, noAcks,
        List.append_nil]
      exact delivered.acknowledged
  · have accepted := appends_iff counts sends hasData
    constructor
    · intro later _
      refine accepted.mp ?_
      by_contra rejected
      have appended := takes.appended_eq rejected
      have bytes := later.appended
      rw [appendedBytes_congr appended, uploaded_append,
        delivered.appended, List.self_eq_append_right] at bytes
      have length_eq : segment.dataLength = 0 :=
        segment.length_payload.symm.trans
          (List.length_eq_zero_iff.mpr bytes)
      omega
    · intro accepting
      obtain ⟨bytes, _, acks⟩ :=
        handleTCPPacket_accepted currentTime sends.notFIN
          (accepted.mpr (accepting hasData))
      have expected :
          expectedAcks (.handleTCPPacket segment currentTime) =
            [unsigned32
              (connection.session.recSequence + segment.dataLength)] := by
        have number :
            unsigned32 segment.tcpheader.sequenceNumber =
              unsigned32 connection.session.recSequence := by
          rw [sends.sequenceNumber, unsigned32_signed32,
            counts.congruent]
        refine (if_pos hasData).trans ?_
        rw [unsigned32_add_congr number]
      refine ⟨?_, ?_⟩
      · rw [bytes, uploaded_append, delivered.appended]
        rfl
      · rw [acks, delivered.acknowledged, List.flatMap_append,
          List.flatMap_singleton, expected]

private theorem delivered_step_iff
    (isn : Int) (handled : List AtomicStep) (connection : TcpConnection)
    (step : AtomicStep) (wellBehaved : WellBehaved isn handled step)
    (counts : Counts isn handled connection)
    (delivered : Delivered handled connection) :
    Delivered (handled ++ [step]) (atomicStep connection step) ↔
      Accepting connection step := by
  cases step with
  | handleTCPPacket segment currentTime =>
      exact
        handleTCPPacket_delivered_iff currentTime counts delivered
          wellBehaved
  | processSelectionKey ready =>
      have repeats :=
        repeats_selected
          (SocketNIODataService.runSelectedKey_selected ready connection)
          counts.sound.noted
      refine ⟨fun _ => trivial, fun _ => ⟨?_, ?_⟩⟩
      · rw [uploaded_append, payload, List.append_nil]
        exact
          (appendedBytes_congr repeats.appended).trans delivered.appended
      · rw [List.flatMap_append, List.flatMap_singleton, expectedAcks,
          List.append_nil]
        exact (dataAcks_repeats repeats).trans delivered.acknowledged

private theorem counts_step
    (isn : Int) (handled : List AtomicStep) (connection : TcpConnection)
    (step : AtomicStep) (wellBehaved : WellBehaved isn handled step)
    (counts : Counts isn handled connection)
    (accepting : Accepting connection step) :
    Counts isn (handled ++ [step]) (atomicStep connection step) := by
  cases step with
  | handleTCPPacket segment currentTime =>
      exact
        handleTCPPacket_counts currentTime counts wellBehaved accepting
  | processSelectionKey ready =>
      have repeats :=
        repeats_selected
          (SocketNIODataService.runSelectedKey_selected ready connection)
          counts.sound.noted
      exact
        counts.of_same
          (counts.sound.effects
            (atomicStep_effects counts.sound (.processSelectionKey ready)))
          rfl repeats.recSequence

private theorem accepting_iff_belowSign
    (connection : TcpConnection) (step : AtomicStep)
    (tracked : Tracked connection step) :
    Accepting connection step ↔ BelowSign connection step := by
  cases step with
  | handleTCPPacket segment currentTime =>
      exact forall_congr' fun _ => and_iff_right tracked
  | processSelectionKey ready => exact Iff.rfl

/-- A client that sends in order to a session in the table has every payload
appended and acknowledged exactly when each of its data segments is handled
while `recSequence` is below `2 ^ 31`. -/
theorem upload_complete_iff
    (syn : ClientSegment) (opening : SessionHandler.Opening)
    (steps : List AtomicStep)
    (wellBehaved :
      Along (WellBehaved syn.tcpheader.sequenceNumber) [] steps)
    (established :
      StepsMeet atomicStep Tracked
        (SessionHandler.replySynAck syn opening) steps) :
    (∀ visited, visited <+: steps →
        Delivered visited
          (run atomicStep (SessionHandler.replySynAck syn opening)
            visited)) ↔
      StepsMeet atomicStep BelowSign
        (SessionHandler.replySynAck syn opening) steps := by
  have lower :
      -2 ^ 31 ≤ syn.tcpheader.sequenceNumber + 1 + ((0 : Nat) : Int) := by
    have := syn.sequenceNumber_ge
    omega
  have counted :
      Counts syn.tcpheader.sequenceNumber []
        (SessionHandler.replySynAck syn opening) := by
    refine ⟨sound_replySynAck syn opening, ?_, ?_⟩
    · exact congrArg unsigned32 (Int.add_zero _).symm
    · exact (signed32_le lower).trans (Int.add_zero _).le
  have exactly :=
    forall_prefix_iff_stepsMeet
      (delivered_step_iff syn.tcpheader.sequenceNumber)
      (counts_step syn.tcpheader.sequenceNumber) steps []
      (SessionHandler.replySynAck syn opening) wellBehaved counted
      ⟨rfl, rfl⟩
  exact exactly.trans (established.congr accepting_iff_belowSign)

/-- Four bytes up to number `2 ^ 31 + 1`, and the byte behind them. -/
def crossingSign : List AtomicStep :=
  [.handleTCPPacket
      (ClientSegment.plain 0x18 (2 ^ 31 - 2) 101 1000 [1, 2, 3, 4]) 0,
    .handleTCPPacket
      (ClientSegment.plain 0x18 (2 ^ 31 + 2) 101 1000 [5]) 0]

theorem upload_lost_past_sign :
    let start := SessionHandler.openedConnection (2 ^ 31 - 3)
    (Along (WellBehaved (2 ^ 31 - 3)) [] crossingSign ∧
      StepsMeet atomicStep Tracked start crossingSign) ∧
      (run atomicStep start crossingSign).appendedBytes = [1, 2, 3, 4] ∧
      ¬ ∀ visited, visited <+: crossingSign →
          Delivered visited (run atomicStep start visited) := by
  have appended :
      (run atomicStep (SessionHandler.openedConnection (2 ^ 31 - 3))
        crossingSign).appendedBytes = [1, 2, 3, 4] := by
    decide
  refine
    ⟨⟨⟨⟨rfl, rfl, rfl, rfl, by decide⟩, ⟨rfl, rfl, rfl, rfl, by decide⟩,
      trivial⟩, ⟨rfl, rfl, trivial⟩⟩, appended, ?_⟩
  intro everywhere
  have delivered := everywhere crossingSign List.prefix_rfl
  exact absurd (appended.symm.trans delivered.appended) (by decide)

theorem upload_complete_below_sign :
    let steps : List AtomicStep :=
      [.handleTCPPacket (ClientSegment.plain 0x18 1 101 1000 [1, 2]) 0,
        .handleTCPPacket (ClientSegment.plain 0x10 3 101 1000 []) 0,
        .handleTCPPacket (ClientSegment.plain 0x18 3 101 1000 [3]) 0]
    (∀ visited, visited <+: steps →
        Delivered visited
          (run atomicStep (SessionHandler.openedConnection 0)
            visited)) ↔
      StepsMeet atomicStep BelowSign (SessionHandler.openedConnection 0)
        steps :=
  upload_complete_iff (ClientSegment.plain 0x02 0 0 1000 [])
    { random := 100, currentTime := 0, connected := true } _
    ⟨⟨rfl, rfl, rfl, rfl, by decide⟩, ⟨rfl, rfl, rfl, rfl, by decide⟩,
      ⟨rfl, rfl, rfl, rfl, by decide⟩, trivial⟩
    ⟨rfl, rfl, rfl, trivial⟩

end LanShield.Vpn.UploadCompleteness
