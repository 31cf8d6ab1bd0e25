import LanShield.Library.Runs
import LanShield.Vpn.SessionHandler
import LanShield.Vpn.SocketChannelWriter

/-!
# Upload bytes across partial socket writes

Client payloads are appended to a session's sending stream and written to
the upstream channel, which may take fewer bytes than it is given.  What it
leaves goes through `ByteBuffer.compact` back into the sending stream.
-/

namespace LanShield.Vpn.UploadConservation

open LanShield.Library LanShield.Java SocketChannelWriter

/-- An append of a payload, or an execution of `writePendingData` in which
the successive writes accept at most the given numbers of bytes. -/
inductive UploadStep where
  | addClientData (sequenceNumber : Int) (buffer : ByteBuffer)
  | writePendingData (counts : List Nat)

def uploadStep (connection : TcpConnection) : UploadStep → TcpConnection
  | .addClientData sequenceNumber buffer =>
      (connection.addClientData sequenceNumber buffer).2
  | .writePendingData counts =>
      (SocketChannelWriter.writePendingData
        (counts.map WriteOutcome.accepted) connection).1

/-- The concatenation of the appended payloads. -/
def appendedBytes (steps : List UploadStep) : List UInt8 :=
  steps.flatMap fun
    | .addClientData _ buffer => buffer.unread
    | .writePendingData _ => []

/-- The bytes the channel has taken and the bytes left in the sending
stream are what there was at the start and what has been appended since. -/
def Conserved (start : TcpConnection) (steps : List UploadStep)
    (connection : TcpConnection) : Prop :=
  connection.channel.sent ++ connection.session.sendingStream =
    start.channel.sent ++ start.session.sendingStream ++
      appendedBytes steps

instance (start : TcpConnection) (steps : List UploadStep)
    (connection : TcpConnection) :
    Decidable (Conserved start steps connection) :=
  inferInstanceAs (Decidable (_ = _))

/-- The number of bytes successive writes accept of `remaining` bytes; a
write that accepts nothing ends the attempt. -/
def acceptedTotal : (counts : List Nat) → (remaining : Nat) → Nat
  | [], _ => 0
  | count :: later, remaining =>
      if min count remaining = 0 then
        0
      else
        min count remaining +
          acceptedTotal later (remaining - min count remaining)

theorem acceptedTotal_le (counts : List Nat) (remaining : Nat) :
    acceptedTotal counts remaining ≤ remaining := by
  induction counts generalizing remaining with
  | nil =>
      exact Nat.zero_le _
  | cons count later inductionHypothesis =>
      rw [acceptedTotal]
      split
      · exact Nat.zero_le _
      · have rest :=
          inductionHypothesis (remaining - min count remaining)
        have := Nat.min_le_right count remaining
        omega

/-- The step leaves the sending stream in order: an append always does, a
write when the channel takes everything or exactly half. -/
def KeepsOrder (connection : TcpConnection) : UploadStep → Prop
  | .addClientData _ _ => True
  | .writePendingData counts =>
      let pending := connection.session.sendingStream.length
      let taken := acceptedTotal counts pending
      taken = pending ∨ 2 * taken = pending

theorem writeLoop_accepted
    (counts : List Nat) (buffer : ByteBuffer) (channel : SocketChannel) :
    writeLoop (counts.map WriteOutcome.accepted) buffer channel =
      (buffer.advance (acceptedTotal counts buffer.remaining),
        { channel with
          sent :=
            channel.sent ++
              buffer.unread.take
                (acceptedTotal counts buffer.remaining) },
        none) := by
  induction counts generalizing buffer channel with
  | nil =>
      simp [writeLoop, acceptedTotal]
  | cons count later inductionHypothesis =>
      rw [List.map_cons, writeLoop, acceptedTotal]
      by_cases left : buffer.hasRemaining = true
      · rw [if_pos left]
        by_cases nothing : min count buffer.remaining = 0
        · simp [nothing]
        · have taken_eq :
              buffer.unread.take count =
                buffer.unread.take (min count buffer.remaining) := by
            rw [← buffer.length_unread, List.take_eq_take_min]
          simp only [if_neg nothing]
          rw [← ByteBuffer.advance_min, taken_eq, inductionHypothesis,
            ByteBuffer.remaining_advance, ByteBuffer.advance_advance,
            ByteBuffer.unread_advance, List.append_assoc,
            ← List.take_add]
      · have none_left : buffer.remaining = 0 := by
          rw [ByteBuffer.hasRemaining_iff] at left
          omega
        simp [left, none_left]

/-- What an execution of `writePendingData` leaves in the sending stream
when the channel takes `taken` of the pending bytes. -/
def leftBehind (pending : List UInt8) (taken : Nat) : List UInt8 :=
  if taken < pending.length then
    pending.drop (pending.length - taken)
  else
    []

private theorem settleBuffer_tcp
    {session : Session} (tcp : session.protocol = .tcp)
    (empty : session.sendingStream = []) (pending : List UInt8)
    (taken : Nat) :
    let settled :=
      settleBuffer ((ByteBuffer.wrap pending).advance taken) session
    settled.sendingStream = leftBehind pending taken ∧
      settled.protocol = .tcp := by
  intro settled
  have remaining_eq :
      ((ByteBuffer.wrap pending).advance taken).remaining =
        pending.length - taken := by
    rw [ByteBuffer.remaining_advance, ByteBuffer.remaining_wrap]
  by_cases short : taken < pending.length
  · have left :
        ((ByteBuffer.wrap pending).advance taken).hasRemaining = true := by
      rw [ByteBuffer.hasRemaining_iff, remaining_eq]
      omega
    have settled_eq :
        settled =
          ({ session with
              sendingStream :=
                session.sendingStream ++
                  ((ByteBuffer.wrap pending).advance
                    taken).compact.unread }).subscribeKey .write := by
      simp only [settled, settleBuffer, if_pos left,
        Session.setSendingData_tcp tcp]
    rw [settled_eq]
    refine ⟨?_, tcp⟩
    change session.sendingStream ++ _ = _
    rw [empty, ByteBuffer.unread_compact, remaining_eq, leftBehind,
      if_pos short]
    rfl
  · have none_left :
        ¬ ((ByteBuffer.wrap pending).advance taken).hasRemaining =
          true := by
      rw [ByteBuffer.hasRemaining_iff, remaining_eq]
      omega
    have settled_eq :
        settled =
          { session with isDataForSendingReady := false }.unsubscribeKey
            .write := by
      simp only [settled, settleBuffer, if_neg none_left]
    rw [settled_eq]
    refine ⟨?_, tcp⟩
    rw [leftBehind, if_neg short]
    exact empty

theorem writePendingData_accepted
    {connection : TcpConnection} (tcp : connection.session.protocol = .tcp)
    (counts : List Nat) :
    let pending := connection.session.sendingStream
    let taken := acceptedTotal counts pending.length
    let written := uploadStep connection (.writePendingData counts)
    written.channel.sent = connection.channel.sent ++ pending.take taken ∧
      written.session.sendingStream = leftBehind pending taken ∧
      written.session.protocol = .tcp := by
  intro pending taken written
  have written_eq :
      written =
        (SocketChannelWriter.writePendingData
          (counts.map WriteOutcome.accepted) connection).1 :=
    rfl
  rw [SocketChannelWriter.writePendingData] at written_eq
  by_cases some_pending : 0 < pending.length
  · have hasData : connection.session.hasDataToSend = true := by
      simp only [Session.hasDataToSend, tcp]
      exact decide_eq_true some_pending
    rw [if_pos hasData] at written_eq
    simp only [Session.getSendingData, writeLoop_accepted,
      ByteBuffer.remaining_wrap, ByteBuffer.unread_wrap] at written_eq
    rw [written_eq]
    have settled :=
      @settleBuffer_tcp { connection.session with sendingStream := [] }
        tcp rfl pending taken
    exact ⟨rfl, settled⟩
  · have hasData : ¬ connection.session.hasDataToSend = true := by
      simp only [Session.hasDataToSend, tcp]
      simpa using some_pending
    have empty : connection.session.sendingStream = [] :=
      List.length_eq_zero_iff.mp (Nat.eq_zero_of_not_pos some_pending)
    have taken_eq : taken = 0 :=
      Nat.le_zero.mp
        ((acceptedTotal_le counts pending.length).trans
          (Nat.not_lt.mp some_pending))
    rw [if_neg hasData] at written_eq
    rw [written_eq, taken_eq]
    refine ⟨?_, ?_, tcp⟩
    · simp
    · simp [leftBehind, pending, empty]

/-- Taking a prefix and putting back what `leftBehind` puts back rebuilds
the pending bytes in two cases only. -/
theorem take_append_leftBehind_iff {pending : List UInt8} {taken : Nat}
    (bounded : taken ≤ pending.length) :
    pending.take taken ++ leftBehind pending taken = pending ↔
      taken = pending.length ∨ 2 * taken = pending.length := by
  rw [leftBehind]
  by_cases short : taken < pending.length
  · rw [if_pos short]
    constructor
    · intro same
      have length_eq := congrArg List.length same
      rw [List.length_append, List.length_take, List.length_drop]
        at length_eq
      omega
    · intro condition
      have half : pending.length - taken = taken := by omega
      rw [half, List.take_append_drop]
  · have all : taken = pending.length := by omega
    rw [if_neg short, List.append_nil, all, List.take_length]
    simp

private theorem uploadStep_addClientData
    {connection : TcpConnection} (tcp : connection.session.protocol = .tcp)
    (sequenceNumber : Int) (buffer : ByteBuffer) :
    let appended :=
      uploadStep connection (.addClientData sequenceNumber buffer)
    appended.channel = connection.channel ∧
      appended.session.sendingStream =
        connection.session.sendingStream ++ buffer.unread ∧
      appended.session.protocol = .tcp := by
  rw [uploadStep]
  dsimp only
  rcases Nat.eq_zero_or_pos buffer.remaining with nothing | hasData
  · have empty : buffer.unread = [] :=
      List.length_eq_zero_iff.mp (buffer.length_unread.trans nothing)
    rw [connection.addClientData_nothing sequenceNumber nothing, empty,
      List.append_nil]
    exact ⟨rfl, rfl, tcp⟩
  · rw [TcpConnection.addClientData_tcp tcp sequenceNumber hasData]
    exact ⟨rfl, rfl, tcp⟩

private theorem uploadStep_protocol
    {connection : TcpConnection} (tcp : connection.session.protocol = .tcp)
    (event : UploadStep) :
    (uploadStep connection event).session.protocol = .tcp := by
  cases event with
  | addClientData sequenceNumber buffer =>
      exact (uploadStep_addClientData tcp sequenceNumber buffer).2.2
  | writePendingData counts =>
      exact (writePendingData_accepted tcp counts).2.2

private theorem appendedBytes_append (earlier later : List UploadStep) :
    appendedBytes (earlier ++ later) =
      appendedBytes earlier ++ appendedBytes later :=
  List.flatMap_append

private theorem conserved_step_iff
    {start connection : TcpConnection} {handled : List UploadStep}
    (tcp : connection.session.protocol = .tcp)
    (conserved : Conserved start handled connection) (event : UploadStep) :
    Conserved start (handled ++ [event]) (uploadStep connection event) ↔
      KeepsOrder connection event := by
  rw [Conserved] at *
  rw [appendedBytes_append, ← List.append_assoc, ← conserved]
  cases event with
  | addClientData sequenceNumber buffer =>
      obtain ⟨channel_eq, stream_eq, -⟩ :=
        uploadStep_addClientData tcp sequenceNumber buffer
      rw [channel_eq, stream_eq]
      simp [KeepsOrder, appendedBytes, List.append_assoc]
  | writePendingData counts =>
      obtain ⟨sent_eq, stream_eq, -⟩ :=
        writePendingData_accepted tcp counts
      rw [sent_eq, stream_eq, KeepsOrder,
        ← take_append_leftBehind_iff (acceptedTotal_le _ _),
        List.append_assoc, List.append_assoc, List.append_cancel_left_eq]
      simp [appendedBytes]

/-- A run keeps the upload bytes in every state it visits exactly when, in
every execution of `writePendingData`, the channel takes all pending bytes
or exactly half of them. -/
theorem upload_conserved_iff
    (start : TcpConnection) (tcp : start.session.protocol = .tcp)
    (steps : List UploadStep) :
    (∀ visited, visited <+: steps →
        Conserved start visited (run uploadStep start visited)) ↔
      StepsMeet uploadStep KeepsOrder start steps := by
  have initially : Conserved start [] start := by
    simp [Conserved, appendedBytes]
  exact
    @forall_prefix_iff_stepsMeet TcpConnection UploadStep uploadStep
      KeepsOrder (fun _ _ => True)
      (fun _ connection => connection.session.protocol = .tcp)
      (fun handled connection => Conserved start handled connection)
      (fun _ _ event _ carried conserved =>
        conserved_step_iff carried conserved event)
      (fun _ _ event _ carried _ => uploadStep_protocol carried event)
      steps [] start (Along.of_forall (fun _ _ => trivial) steps [])
      tcp initially

/-- Four bytes, of which the channel takes one. -/
def partialWrite : List UploadStep :=
  [.addClientData 1 (ByteBuffer.wrap [1, 2, 3, 4]),
    .writePendingData [1, 0]]

theorem upload_lost_in_partial_write :
    let start := SessionHandler.openedConnection 0
    start.session.protocol = .tcp ∧
      (run uploadStep start partialWrite).channel.sent = [1] ∧
      (run uploadStep start partialWrite).session.sendingStream = [4] ∧
      ¬ (∀ visited, visited <+: partialWrite →
          Conserved start visited (run uploadStep start visited)) := by
  refine ⟨rfl, rfl, rfl, ?_⟩
  intro everywhere
  exact
    absurd (everywhere partialWrite (List.prefix_refl _)) (by decide)

theorem upload_conserved_in_half_write :
    let start := SessionHandler.openedConnection 0
    let steps : List UploadStep :=
      [.addClientData 1 (ByteBuffer.wrap [1, 2, 3, 4]),
        .writePendingData [2, 0], .writePendingData [9]]
    (∀ visited, visited <+: steps →
        Conserved start visited (run uploadStep start visited)) ↔
      StepsMeet uploadStep KeepsOrder start steps :=
  upload_conserved_iff (SessionHandler.openedConnection 0) rfl _

end LanShield.Vpn.UploadConservation
