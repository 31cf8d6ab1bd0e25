import LanShield.Vpn.EndOfStream

/-!
# The key of a session behind the end of its upstream stream

A channel at its end stays readable, so its key must not wait for reads.  The
pump keeps to this, but `read` and `processConnectedSelection` subscribe again
whatever they have read: the key is quiet only if it is cancelled by the event
that reaches the end.
-/

namespace LanShield.Vpn.QuietAfterEof

open LanShield.Library LanShield.Transport SocketChannelReader
open SocketNIODataService DownloadProgress

/-- Behind the end of the upstream stream the key does not wait for reads. -/
def Quiet (session : Session) : Prop :=
  session.upstreamEof = true →
    session.selectionkey.isValid = true →
      session.selectionkey.interestRead = false

/-- The selected key is processed as that of a connected channel. -/
def processedConnected (ready : Readiness) (connection : TcpConnection) :
    Bool :=
  if !connection.session.isConnected && ready.isConnectable then
    connection.channel.isConnectionPending &&
      ready.connected.any fun connected =>
        connected || connection.channel.isConnected
  else
    connection.channel.isConnected

/-- The bytes staged before an event and read in it up to the end of the
stream, if it reaches the end. -/
def eofTotal (ready : Readiness) (connection : TcpConnection) :
    Option Nat :=
  if ready.isReadable && !connection.session.abortingConnection then
    endTotal (room connection.session) ready.reads
      connection.session.receivingStream.length
  else
    none

/-- If the event reaches the end of the stream, the client's window has room
for all that is staged then, or the pending write fails. -/
def Drains (ready : Readiness) (connection : TcpConnection) : Prop :=
  ∀ total ∈ eofTotal ready connection,
    excess (room connection.session) total = 0 ∨
      pendingWriteFails ready connection = true

instance (ready : Readiness) (connection : TcpConnection) :
    Decidable (Drains ready connection) :=
  inferInstanceAs (Decidable (∀ _ ∈ _, _))

private theorem drains_congr {ready : Readiness}
    {connection other : TcpConnection}
    (sameTotal : eofTotal ready other = eofTotal ready connection)
    (sameRoom : room other.session = room connection.session)
    (samePending : pending other.session = pending connection.session) :
    Drains ready other ↔ Drains ready connection := by
  rw [Drains, Drains, sameTotal, sameRoom,
    pendingWriteFails_congr ready samePending]

/-- A session whose upstream stream goes on, between two atomic steps. -/
structure Streaming (connection : TcpConnection) : Prop
    extends Filled connection.session where
  noted : EndNoted connection
  upstreamEof : connection.session.upstreamEof = false

section Events

variable {connection : TcpConnection}

/-- Staged bytes only wait for a window without room. -/
private theorem Streaming.room_filled (streaming : Streaming connection)
    (running : connection.session.abortingConnection = false) :
    let staged := connection.session.receivingStream.length
    staged = excess (room connection.session) staged ∧
      room connection.session = remaining (room connection.session) staged := by
  by_cases empty : connection.session.receivingStream = []
  · rw [empty]
    cases room connection.session with
    | none => exact ⟨rfl, rfl⟩
    | some room => simp [excess, remaining]
  · have filled := streaming.filled running empty
    have full : room connection.session = some 0 := by
      rw [room, if_neg]
      · congr 1
        omega
      · rw [unsigned32] at filled
        omega
    rw [full]
    simp [excess, remaining]

theorem Streaming.reading (streaming : Streaming connection)
    (running : connection.session.abortingConnection = false) :
    Reading (room connection.session)
      connection.session.receivingStream.length connection where
  atEnd := streaming.noted.symm.trans streaming.upstreamEof
  upstreamEof := streaming.upstreamEof
  running := running
  known := streaming.known
  staged := (streaming.room_filled running).1
  room_eq := (streaming.room_filled running).2

/-- The key is cancelled once the upstream stream has ended. -/
def Cancelled (session : Session) : Prop :=
  session.upstreamEof = true → session.selectionkey.isValid = false

/-- An event that reaches the end subscribes for reading, unless it cancels
the key. -/
structure Resubscribed (drains : Prop) (session : Session) : Prop where
  interested :
    session.upstreamEof = true →
      session.selectionkey.isValid = true →
        session.selectionkey.interestRead = true
  cancelled_iff : Cancelled session ↔ drains

private theorem Resubscribed.quiet_iff {drains : Prop} {session : Session}
    (resubscribed : Resubscribed drains session) :
    Quiet session ↔ drains := by
  rw [← resubscribed.cancelled_iff]
  constructor
  · intro quiet ended
    by_contra valid
    have valid := Bool.not_eq_false _ ▸ valid
    have interested := resubscribed.interested ended valid
    exact absurd (interested.symm.trans (quiet ended valid)) (by decide)
  · intro cancelled ended valid
    exact absurd ((cancelled ended).symm.trans valid) (by decide)

private theorem resubscribed_of_open {drains : Prop} {session : Session}
    (open_ : session.upstreamEof = false) (holds : drains) :
    Resubscribed drains session where
  interested ended := by
    rw [open_] at ended
    cases ended
  cancelled_iff := by
    refine iff_of_true (fun ended => ?_) holds
    rw [open_] at ended
    cases ended

private theorem resubscribed_of_invalid {drains : Prop} {session : Session}
    (invalid : session.selectionkey.isValid = false) (holds : drains) :
    Resubscribed drains session where
  interested _ valid := by
    rw [invalid] at valid
    cases valid
  cancelled_iff := iff_of_true (fun _ => invalid) holds

/-- Where the key waits for reads behind a read event, the pending write
decides. -/
private theorem resubscribed_processPendingWrite {ready : Readiness}
    (ended : connection.session.upstreamEof = true)
    (valid : connection.session.selectionkey.isValid = true)
    (interested : connection.session.selectionkey.interestRead = true)
    (running : connection.session.abortingConnection = false)
    (known : HeadersKnown connection.session) :
    Resubscribed (pendingWriteFails ready connection = true)
      (processPendingWrite ready connection).session := by
  cases outcome : pendingWriteFails ready connection with
  | true =>
      exact
        resubscribed_of_invalid
          (processPendingWrite_fails outcome valid known) rfl
  | false =>
      have kept := processPendingWrite_succeeds outcome running
      have endedStill := (congrArg ReadSide.upstreamEof kept).trans ended
      have validStill := (congrArg ReadSide.isValid kept).trans valid
      have interestedStill :=
        (congrArg ReadSide.interestRead kept).trans interested
      refine ⟨fun _ _ => interestedStill, ?_⟩
      refine iff_of_false (fun cancelled => ?_) (by simp)
      have invalid := cancelled endedStill
      exact absurd (invalid.symm.trans validStill) (by decide)

/-- What the read part of an event leaves when it has reached the end of the
stream after `total` bytes. -/
structure Ended (ready : Readiness) (before : TcpConnection) (total : Nat)
    (after : TcpConnection) : Prop where
  upstreamEof : after.session.upstreamEof = true
  isValid :
    after.session.selectionkey.isValid =
      !decide (excess (room before.session) total = 0)
  known : HeadersKnown after.session
  interested :
    after.session.selectionkey.isValid = true →
      after.session.selectionkey.interestRead = true
  running :
    after.session.selectionkey.isValid = true →
      after.session.abortingConnection = false
  pending :
    pendingWriteFails ready after = pendingWriteFails ready before

private theorem read_eofTotal {ready : Readiness}
    (streaming : Streaming connection)
    (valid : connection.session.selectionkey.isValid = true)
    (readable : ready.isReadable = true) :
    (read ready.reads connection).1.session.upstreamEof =
        (eofTotal ready connection).isSome ∧
      ∀ total, eofTotal ready connection = some total →
        Ended ready connection total (read ready.reads connection).1 := by
  cases aborting : connection.session.abortingConnection with
  | true =>
      have unread : eofTotal ready connection = none := by
        simp [eofTotal, aborting]
      rw [unread, read_notReached ready.reads aborting]
      exact ⟨streaming.upstreamEof, by simp⟩
  | false =>
      have total_eq :
          eofTotal ready connection =
            endTotal (room connection.session) ready.reads
              connection.session.receivingStream.length :=
        if_pos (by simp [readable, aborting])
      obtain ⟨eof, ended⟩ :=
        read_endTotal ready.reads (streaming.reading aborting)
          streaming.noted valid
      rw [← total_eq] at eof ended
      refine ⟨eof, fun total reached => ?_⟩
      obtain ⟨validAfter, interested⟩ := ended total reached
      exact
        { upstreamEof := eof.trans (by rw [reached]; rfl)
          isValid := validAfter
          known := (read_settles ready.reads streaming.toFilled).known
          interested := interested
          running := read_valid
          pending :=
            pendingWriteFails_congr ready
              (read_pending ready.reads streaming.noted) }

private theorem processSelectorRead_eofTotal {ready : Readiness}
    (streaming : Streaming connection)
    (valid : connection.session.selectionkey.isValid = true) :
    (processSelectorRead ready connection).session.upstreamEof =
        (eofTotal ready connection).isSome ∧
      ∀ total, eofTotal ready connection = some total →
        Ended ready connection total
          (processSelectorRead ready connection) := by
  rw [processSelectorRead]
  by_cases readable : ready.isReadable = true
  · rw [if_pos (by simp [valid, readable])]
    obtain ⟨eof, ended⟩ := read_eofTotal streaming valid readable
    generalize read ready.reads connection = outcome at eof ended ⊢
    refine ⟨eof, fun total reached => ?_⟩
    obtain ⟨eof, isValid, known, interested, running, pending⟩ :=
      ended total reached
    exact
      ⟨eof, isValid, known, interested, running,
        (pendingWriteFails_congr ready rfl).trans pending⟩
  · have unread : eofTotal ready connection = none := by
      simp [eofTotal, readable]
    rw [if_neg (by simp [readable]), unread]
    exact ⟨streaming.upstreamEof, by simp⟩

/-- Reading and the pending write cancel the key at the end of the stream
exactly when they drain the session, or the write fails. -/
private theorem resubscribed_selectorRead {ready : Readiness}
    (streaming : Streaming connection)
    (valid : connection.session.selectionkey.isValid = true) :
    Resubscribed (Drains ready connection)
      (processPendingWrite ready
        (processSelectorRead ready connection)).session := by
  obtain ⟨eof, ended⟩ :=
    @processSelectorRead_eofTotal connection ready streaming valid
  generalize processSelectorRead ready connection = after at eof ended ⊢
  cases reached : eofTotal ready connection with
  | none =>
      rw [reached] at eof
      refine resubscribed_of_open ?_ (by simp [Drains, reached])
      exact (processPendingWrite_upstreamEof ready after).trans eof
  | some total =>
      have ended := ended total reached
      have drains_iff :
          Drains ready connection ↔
            excess (room connection.session) total = 0 ∨
              pendingWriteFails ready connection = true := by
        simp [Drains, reached]
      rw [drains_iff, ← ended.pending]
      by_cases fits : excess (room connection.session) total = 0
      · have invalid : after.session.selectionkey.isValid = false := by
          rw [ended.isValid, decide_eq_true fits]
          rfl
        exact
          resubscribed_of_invalid
            (processPendingWrite_invalid ready invalid) (Or.inl fits)
      · have validAfter :
            after.session.selectionkey.isValid = true := by
          rw [ended.isValid, decide_eq_false fits]
          rfl
        have resubscribed :=
          @resubscribed_processPendingWrite after ready ended.upstreamEof
            validAfter (ended.interested validAfter)
            (ended.running validAfter) ended.known
        simpa [fits] using resubscribed

private theorem resubscribed_processConnectedSelection {ready : Readiness}
    (streaming : Streaming connection)
    (valid : connection.session.selectionkey.isValid = true) :
    Resubscribed (Drains ready connection)
      (processConnectedSelection ready connection).session := by
  have validStill :=
    ((SelectionKey.isValid_changeInterest .read true _).trans
      (SelectionKey.isValid_changeInterest .connect false
        connection.session.selectionkey)).trans valid
  have resubscribed :=
    @resubscribed_selectorRead
      (connection.updateSession fun session =>
        (session.unsubscribeKey .connect).subscribeKey .read)
      ready
      ⟨⟨streaming.known, streaming.filled⟩, streaming.noted,
        streaming.upstreamEof⟩
      validStill
  have same :
      Drains ready
          (connection.updateSession fun session =>
            (session.unsubscribeKey .connect).subscribeKey .read) ↔
        Drains ready connection :=
    drains_congr rfl rfl rfl
  rw [same] at resubscribed
  exact resubscribed

private theorem resubscribed_connectAnswered {ready : Readiness}
    (connected : Bool) (streaming : Streaming connection)
    (valid : connection.session.selectionkey.isValid = true) :
    Resubscribed (Drains ready connection)
      (processConnectedSelection ready
        (connectAnswered connected connection)).session := by
  have noted : EndNoted (connectAnswered connected connection) := by
    cases connected with
    | true => exact streaming.noted
    | false => exact streaming.noted
  have resubscribed :=
    @resubscribed_processConnectedSelection
      (connectAnswered connected connection) ready
      ⟨⟨streaming.known, streaming.filled⟩, noted, streaming.upstreamEof⟩
      valid
  have same :
      Drains ready (connectAnswered connected connection) ↔
        Drains ready connection :=
    drains_congr rfl rfl rfl
  rw [same] at resubscribed
  exact resubscribed

/-- A connected selection that reaches the end of the stream drains the
session, or its write fails. -/
def DrainsAtEof (connection : TcpConnection) : AtomicStep → Prop
  | .handleTCPPacket _ _ => True
  | .processSelectionKey ready =>
      connection.session.selectionkey.isValid = true →
        processedConnected ready connection = true →
          Drains ready connection

instance DrainsAtEof.decidable (connection : TcpConnection) :
    ∀ step, Decidable (DrainsAtEof connection step)
  | .handleTCPPacket _ _ => isTrue trivial
  | .processSelectionKey _ => inferInstanceAs (Decidable (_ → _ → _))

private theorem resubscribed_runSelectedKey {ready : Readiness}
    (streaming : Streaming connection)
    (valid : connection.session.selectionkey.isValid = true) :
    Resubscribed (DrainsAtEof connection (.processSelectionKey ready))
      (runSelectedKey ready connection).session := by
  have guard_iff :
      DrainsAtEof connection (.processSelectionKey ready) ↔
        (processedConnected ready connection = true →
          Drains ready connection) := by
    simp [DrainsAtEof, valid]
  rw [guard_iff, processedConnected, runSelectedKey, processSelectionKey,
    if_pos valid]
  by_cases connects :
      (!connection.session.isConnected && ready.isConnectable) = true
  · rw [if_pos connects, if_pos connects, finishConnecting]
    by_cases pending : connection.channel.isConnectionPending = true
    · rw [if_pos pending]
      cases answer : ready.connected with
      | none =>
          exact resubscribed_of_open streaming.upstreamEof (by simp)
      | some connected =>
          have answered :
              (connected || connection.channel.isConnected) =
                (connectAnswered connected
                  connection).channel.isConnected := by
            cases connected <;> rfl
          simp only [pending, Bool.true_and, Option.any_some, answered]
          by_cases reached :
              (connectAnswered connected
                connection).channel.isConnected = true
          · simp only [reached, forall_const]
            exact
              resubscribed_connectAnswered connected streaming valid
          · simp only [reached]
            exact resubscribed_of_open streaming.upstreamEof (by simp)
    · rw [if_neg pending]
      exact
        resubscribed_of_open streaming.upstreamEof (by simp [pending])
  · rw [if_neg connects, if_neg connects]
    by_cases reached : connection.channel.isConnected = true
    · simp only [reached, forall_const]
      exact resubscribed_processConnectedSelection streaming valid
    · simp only [reached]
      exact resubscribed_of_open streaming.upstreamEof (by simp)

end Events

/-- What holds between two atomic steps, as long as every event so far drained
its session at the end of the stream. -/
structure Drained (connection : TcpConnection) : Prop where
  settled : Settled connection.session
  sound : Sound connection
  cancelled : Cancelled connection.session

section Runs

variable {connection : TcpConnection}

theorem Drained.streaming (drained : Drained connection)
    (open_ : connection.session.upstreamEof = false) :
    Streaming connection where
  toFilled := drained.settled.toFilled
  noted := drained.sound.noted
  upstreamEof := open_

/-- One atomic step: the key is quiet behind it, and cancelled, exactly when
the step drains the session at the end of the stream. -/
theorem Drained.resubscribed (drained : Drained connection)
    (step : AtomicStep) :
    Resubscribed (DrainsAtEof connection step)
      (atomicStep connection step).session := by
  cases open_ : connection.session.upstreamEof with
  | true =>
      have invalid := drained.cancelled open_
      cases step with
      | handleTCPPacket segment currentTime =>
          have kept :=
            KeepsEof.handleTCPPacket connection segment currentTime
          refine resubscribed_of_invalid ?_ trivial
          cases valid :
              (atomicStep connection
                (.handleTCPPacket segment
                  currentTime)).session.selectionkey.isValid with
          | false => rfl
          | true =>
              exact absurd (invalid.symm.trans (kept.isValid valid)) (by decide)
      | processSelectionKey ready =>
          have same : runSelectedKey ready connection = connection := by
            rw [runSelectedKey, processSelectionKey,
              if_neg (by simp [invalid])]
          rw [atomicStep, same]
          exact resubscribed_of_invalid invalid (by simp [DrainsAtEof, invalid])
  | false =>
      cases step with
      | handleTCPPacket segment currentTime =>
          have kept :=
            KeepsEof.handleTCPPacket connection segment currentTime
          exact
            resubscribed_of_open (kept.upstreamEof.trans open_) trivial
      | processSelectionKey ready =>
          cases valid : connection.session.selectionkey.isValid with
          | true =>
              exact
                resubscribed_runSelectedKey (drained.streaming open_) valid
          | false =>
              have same : runSelectedKey ready connection = connection := by
                rw [runSelectedKey, processSelectionKey,
                  if_neg (by simp [valid])]
              rw [atomicStep, same]
              exact resubscribed_of_open open_ (by simp [DrainsAtEof, valid])

theorem Drained.step (drained : Drained connection)
    {step : AtomicStep} (drains : DrainsAtEof connection step) :
    Drained (atomicStep connection step) := by
  have flow :=
    @run_downloadCall_preserves (fun _ => True)
      (fun _ _ _ _ _ => trivial) [.atomic step] connection drained.sound
      trivial
  exact
    ⟨atomicStep_settles connection step drained.settled, flow.1,
      (drained.resubscribed step).cancelled_iff.mpr drains⟩

private theorem drained_replySynAck (syn : ClientSegment)
    (opening : SessionHandler.Opening) :
    Drained (SessionHandler.replySynAck syn opening) where
  settled := settled_replySynAck syn opening
  sound := sound_replySynAck syn opening
  cancelled ended := by
    cases ended

end Runs

/-- In every state of a run the key behind the end of the upstream stream does
not wait for reads, exactly when every event that reaches the end finds room
for all that is staged in the client's window, or cancels the key with a
failed write. -/
theorem quiet_after_eof_iff (syn : ClientSegment)
    (opening : SessionHandler.Opening) (steps : List AtomicStep) :
    (∀ visited, visited <+: steps →
        Quiet
          (run atomicStep (SessionHandler.replySynAck syn opening)
            visited).session) ↔
      StepsMeet atomicStep DrainsAtEof
        (SessionHandler.replySynAck syn opening) steps := by
  have exactly :=
    @forall_prefix_iff_stepsMeet _ _ atomicStep DrainsAtEof
      (fun _ _ => True)
      (fun _ connection => Drained connection)
      (fun _ connection => Quiet connection.session)
      (fun _ _ step _ drained _ => (drained.resubscribed step).quiet_iff)
      (fun _ _ _ _ drained drains => drained.step drains)
      steps [] (SessionHandler.replySynAck syn opening)
      (Along.of_forall (fun _ _ => trivial) steps [])
      (drained_replySynAck syn opening)
      (fun ended => by cases ended)
  exact exactly

/-- Three bytes and the end of the stream are read at once. -/
def lastRead : Readiness where
  isConnectable := false
  isReadable := true
  isWritable := false
  connected := none
  reads :=
    [.data ⟨[1, 2, 3], threeBytes_ne_nil, threeBytes_fit⟩, .endOfStream]
  writes := []

/-- A wide window has room for the three bytes. -/
example :
    StepsMeet atomicStep DrainsAtEof
      (SessionHandler.replySynAck (ClientSegment.plain 0x02 7 0 1000 [])
        { random := 100, currentTime := 0, connected := true })
      [.processSelectionKey lastRead] := by
  decide

/-- A window with room for one byte leaves two of the three staged. -/
theorem busy_after_eof_narrow_window :
    ¬ Quiet
      (run atomicStep
        (SessionHandler.replySynAck (ClientSegment.plain 0x02 7 0 2 [])
          { random := 100, currentTime := 0, connected := true })
        [.processSelectionKey lastRead]).session := by
  intro quiet
  exact absurd (quiet (by decide) (by decide)) (by decide)

end LanShield.Vpn.QuietAfterEof
