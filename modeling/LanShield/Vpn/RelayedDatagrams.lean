import LanShield.Vpn.AddressedSessions

/-!
# Every datagram of a client is relayed

The datagrams of the packets that are handled go to sessions of their own
5-tuples, each once and in order, and from the queues of these on to their
channels.  Only a failing call of the platform can lose one.
-/

namespace LanShield.Vpn

open LanShield.Library LanShield.Java LanShield.Transport Program

/-- The datagram a packet is parsed as. -/
def clientDatagram (stream : ByteBuffer) : Option UdpDatagram :=
  match createIPHeader stream.rewind with
  | .ok (ipHeader, behindIp) =>
      match ipHeader.getProtocol,
        UDPPacketFactory.createUDPHeader behindIp with
      | some .udp, .ok (udpheader, data) =>
          some { ipHeader, udpheader, data }
      | _, _ => none
  | .error _ => none

/-- The datagram the packet thread is still to hand over. -/
def PacketThread.waiting : PacketThread → List UdpDatagram
  | .createUdp datagram | .enterUdp datagram _ _ => datagram.filled
  | .idle | .keepUdp _ | .createTcp .. | .resendAck _ | .populate ..
  | .enterTcp .. | .keepFin _ | .abort _ => []

/-- The session it hands a datagram over to next. -/
def PacketThread.handsOver : PacketThread → List (Nat × UdpDatagram)
  | .enterUdp datagram _ id =>
      datagram.filled.map fun datagram => (id, datagram)
  | .idle | .createUdp _ | .keepUdp _ | .createTcp .. | .resendAck _
  | .populate .. | .enterTcp .. | .keepFin _ | .abort _ => []

namespace Engine

/-- The datagrams the packet thread takes up. -/
def taken (engine : Engine) : EngineEvent → List UdpDatagram
  | .handlePacket stream _ =>
      if engine.packetThread = .idle then
        (clientDatagram stream).elim [] UdpDatagram.filled
      else
        []
  | .proceed _ | .select .. => []

/-- The datagrams it hands over to sessions. -/
def handedOver (engine : Engine) : EngineEvent → List (Nat × UdpDatagram)
  | .proceed _ => engine.packetThread.handsOver
  | .handlePacket .. | .select .. => []

end Engine

namespace EngineEvent

/-- No call for a new session fails. -/
def Opens : EngineEvent → Prop
  | .proceed answers => answers.failure = none
  | .handlePacket .. | .select .. => True

/-- The channel of the session does not throw when it is written to. -/
def Sends (id : Nat) : EngineEvent → Prop
  | .select ready other => other = id → ChannelWorks ready.writes
  | .handlePacket .. | .proceed _ => True

end EngineEvent

namespace PacketHandling

/-- Where the thread has no datagram to hand over. -/
abbrev WaitsNot (thread : PacketThread) : Prop :=
  thread.waiting = []

private theorem waitsNot_handleTCPPacket (segment : TcpSegment)
    (answers : Answers) :
    Continues WaitsNot (handleTCPPacket segment answers) := by
  rw [handleTCPPacket]
  split
  · exact .after fun _ _ => ends_pure rfl
  split
  · refine .after fun session => ?_
    split
    · exact fun _ => ends_pure rfl
    · exact .after fun _ _ => ends_pure rfl
  split
  · refine .after fun session => ?_
    split
    · exact fun _ => ends_pure rfl
    · exact .after fun _ _ => ends_pure rfl
  split
  · refine .after fun session => ?_
    split
    · exact fun _ => ends_pure rfl
    · exact fun _ => ends_pure rfl
  · exact fun _ => ends_pure rfl

/-- Only a datagram that still has no session waits on. -/
private theorem waitsNot_proceed {thread : PacketThread}
    (created : ∀ datagram, thread ≠ .createUdp datagram)
    (answers : Answers) : Continues WaitsNot (proceed answers thread) := by
  cases thread with
  | createUdp datagram => exact absurd rfl (created datagram)
  | createTcp syn packet data =>
      refine .after fun id => .after fun session => ?_
      split
      · exact fun _ => ends_pure rfl
      · exact fun _ => ends_pure rfl
  | idle => exact fun _ => ends_pure rfl
  | enterUdp | keepUdp | resendAck | populate | enterTcp | keepFin
  | abort => exact .after fun _ _ => ends_pure rfl

private theorem waiting_runPacketStep {program : Running PacketThread}
    {engine : Engine} {datagrams : List UdpDatagram}
    (ends :
      Ends (fun next _ => next.waiting = datagrams)
        (fun _ => datagrams = []) program engine) :
    (runPacketStep program engine).packetThread.waiting = datagrams := by
  rw [Ends] at ends
  rw [runPacketStep]
  rcases ended : program.outcome engine with ⟨exception | thread, after⟩
  · rw [ended] at ends
    exact ends.symm
  · rw [ended] at ends
    exact ends

private theorem waiting_of_continues {program : Running PacketThread}
    (waitsNot : Continues WaitsNot program) (engine : Engine) :
    (runPacketStep program engine).packetThread.waiting = [] :=
  waiting_runPacketStep
    ((waitsNot engine).imp (fun _ _ waits => waits) fun _ _ => rfl)

/-- The datagram waits for its session, or for a new one. -/
private theorem ends_handleUDPPacket (datagram : UdpDatagram)
    (engine : Engine) :
    Ends (fun next _ => next.waiting = datagram.filled) (fun _ => False)
      (handleUDPPacket datagram) engine := by
  apply ends_getSession
  cases engine.table datagram.sessionKey with
  | none => exact ends_pure rfl
  | some id => exact ends_pure rfl

/-- The thread keeps the datagram of the packet it has handled. -/
private theorem waiting_handlePacket (stream : ByteBuffer) (answers : Answers)
    (engine : Engine) :
    (runPacketStep (handlePacket stream answers)
        engine).packetThread.waiting =
      (clientDatagram stream).elim [] UdpDatagram.filled := by
  apply waiting_runPacketStep
  rw [handlePacket, clientDatagram]
  refine ends_parsed (fun ipHeader behindIp readIp => ?_)
    fun exception failed => ?_
  · rw [readIp]
    dsimp only
    cases ipHeader.getProtocol with
    | none => exact ends_pure rfl
    | some kind =>
        cases kind with
        | icmp | unknown => exact ends_pure rfl
        | tcp =>
            refine ends_parsed (fun tcpheader data _ => ?_) fun _ _ => rfl
            exact
              (waitsNot_handleTCPPacket _ answers engine).imp
                (fun _ _ waits => waits) fun _ _ => rfl
        | udp =>
            refine ends_parsed (fun udpheader data readUdp => ?_)
              fun exception failed => ?_
            · rw [readUdp]
              exact
                (ends_handleUDPPacket _ engine).imp (fun _ _ waits => waits)
                  fun _ => False.elim
            · rw [failed]
              rfl
  · rw [failed]
    rfl

/-- A call throws only if it fails. -/
private theorem ends_call {Last : Type} {call : OpeningCall}
    {answers : Answers}
    {next : Unit → Running Last} {returns : Last → Engine → Prop}
    {engine : Engine}
    (right :
      Ends returns (fun _ => answers.failure ≠ none) (next ()) engine) :
    Ends returns (fun _ => answers.failure ≠ none)
      (platformCall call answers >>= next) engine := by
  rw [platformCall]
  by_cases fails : answers.failure = some call
  · rw [if_pos fails]
    apply ends_throw
    rw [fails]
    exact Option.some_ne_none call
  · rw [if_neg fails]
    exact right

/-- A session is created unless a call fails. -/
private theorem ends_createUdp (datagram : UdpDatagram) (answers : Answers)
    (engine : Engine) :
    Ends (fun next _ => next.waiting = datagram.filled)
      (fun _ => answers.failure ≠ none)
      (proceed answers (.createUdp datagram)) engine := by
  have created :
      Ends (fun _ _ => True) (fun _ => answers.failure ≠ none)
        (createNewUDPSession datagram.sessionKey
          datagram.ipHeader.getTotalLength answers)
        engine := by
    rw [createNewUDPSession]
    apply ends_getSession
    cases engine.table datagram.sessionKey with
    | some id => exact ends_pure trivial
    | none =>
        apply ends_call
        apply ends_allocateSession
        apply ends_call
        apply ends_call
        apply ends_modify_bind
        apply ends_modify_bind
        apply ends_modify_bind
        apply ends_call
        exact ends_pure trivial
  exact created.bind fun _ _ _ => ends_pure rfl

/-- What waits, is taken up and is handed over in a step of the thread. -/
private theorem passed_taken (engine : Engine) (event : EngineEvent) :
    Passed event.Opens
      (engine.packetThread.waiting ++ engine.taken event)
      ((engine.handedOver event).map Prod.snd ++
        (engineStep engine event).packetThread.waiting) := by
  cases event with
  | handlePacket stream answers =>
      rw [Engine.taken, Engine.handedOver, engineStep]
      by_cases idle : engine.packetThread = .idle
      · rw [if_pos idle, if_pos idle, waiting_handlePacket, idle]
        exact .refl _
      · rw [if_neg idle, if_neg idle, List.append_nil]
        exact .refl _
  | proceed answers =>
      rw [Engine.taken, List.append_nil, Engine.handedOver, engineStep]
      by_cases creates :
          ∃ datagram, engine.packetThread = .createUdp datagram
      · obtain ⟨datagram, thread⟩ := creates
        rw [thread]
        have created := ends_createUdp datagram answers engine
        rw [Ends] at created
        rw [runPacketStep]
        rcases ended :
            (proceed answers (.createUdp datagram)).outcome engine with
          ⟨exception | next, after⟩
        · rw [ended] at created
          exact ⟨List.nil_sublist _, fun opens => absurd opens created⟩
        · rw [ended] at created
          exact .of_eq created
      · have waits :=
          waiting_of_continues
            (waitsNot_proceed
              (fun datagram thread => creates ⟨datagram, thread⟩) answers)
            engine
        rw [waits, List.append_nil]
        cases thread : engine.packetThread with
        | createUdp datagram => exact absurd ⟨datagram, thread⟩ creates
        | enterUdp datagram newSession id =>
            apply Passed.of_eq
            rw [PacketThread.handsOver, List.map_map]
            exact List.map_id _
        | idle | keepUdp | createTcp | resendAck | populate | enterTcp
        | keepFin | abort => exact .refl _
  | select ready id =>
      have origins := @origins_select engine ready id
      rw [origins.packetThread, Engine.taken, List.append_nil]
      exact .refl _

end PacketHandling

namespace Engine

variable {engine : Engine} {id : Nat}

/-- What a datagram session has of its client's data. -/
def uploaded (id : Nat) (engine : Engine) : List (List UInt8) :=
  if (engine.getSessionKey id).protocol = .udp then
    (engine.sessions id).recorded.uploads []
  else
    []

/-- The data that is handed over to a session. -/
def handedTo (id : Nat) (uploads : List (Nat × UdpDatagram)) :
    List (List UInt8) :=
  (uploads.filter fun upload => upload.1 = id).map fun upload =>
    upload.2.data.unread

private theorem handedTo_append (id : Nat)
    (first second : List (Nat × UdpDatagram)) :
    handedTo id (first ++ second) =
      handedTo id first ++ handedTo id second := by
  rw [handedTo, List.filter_append, List.map_append, handedTo, handedTo]

/-- All of it is for the session that is entered. -/
private theorem handedTo_handsOver (id : Nat) (datagram : UdpDatagram)
    (newSession : Bool) :
    handedTo id (PacketThread.handsOver (.enterUdp datagram newSession id)) =
      datagram.filled.map fun datagram => datagram.data.unread := by
  rw [PacketThread.handsOver, handedTo, List.filter_map]
  have all :
      datagram.filled.filter
          ((fun upload : Nat × UdpDatagram => upload.1 = id) ∘
            fun datagram => (id, datagram)) =
        datagram.filled := by
    apply List.filter_eq_self.mpr
    intro _ _
    exact decide_eq_true rfl
  rw [all, List.map_map]
  rfl

/-- No other session is handed any of it. -/
private theorem handedTo_handsOver_ne {session : Nat}
    (different : session ≠ id)
    (datagram : UdpDatagram) (newSession : Bool) :
    handedTo id
        (PacketThread.handsOver (.enterUdp datagram newSession session)) =
      [] := by
  rw [PacketThread.handsOver, handedTo, List.filter_map]
  have none :
      datagram.filled.filter
          ((fun upload : Nat × UdpDatagram => upload.1 = id) ∘
            fun datagram => (session, datagram)) =
        [] := by
    apply List.filter_eq_nil_iff.mpr
    intro _ _ same
    exact different (of_decide_eq_true same)
  rw [none]
  rfl

/-- A step that records nothing of the session. -/
private theorem Addressed.uploaded_kept (addressed : engine.Addressed)
    {event : EngineEvent} (other : ¬ Touches engine event id) :
    uploaded id (engineStep engine event) = uploaded id engine := by
  have openings := openings_step engine event
  rw [uploaded, uploaded, addressed.recorded openings other]
  by_cases older : id < engine.allocated
  · rw [openings.older id older]
  · have blank := addressed.blank id (Nat.le_of_not_lt older)
    have none : (engine.sessions id).recorded.uploads [] = [] := by
      rw [blank]
      rfl
    rw [none, ite_self, ite_self]

/-- Only a datagram session that is entered is handed a datagram. -/
private theorem Addressed.handedTo_eq_nil (addressed : engine.Addressed)
    {event : EngineEvent}
    (other :
      (engine.getSessionKey id).protocol = .udp →
        ¬ Touches engine event id) :
    handedTo id (engine.handedOver event) = [] := by
  cases event with
  | handlePacket | select => rfl
  | proceed answers =>
      have aims := addressed.aims
      rw [Touches] at other
      rw [handedOver]
      cases thread : engine.packetThread with
      | enterUdp datagram newSession session =>
          rw [thread] at aims other
          have different : session ≠ id := by
            rintro rfl
            refine other ?_ rfl
            rw [aims.2.key_eq]
            rfl
          exact handedTo_handsOver_ne different datagram newSession
      | idle | createUdp | keepUdp | createTcp | resendAck | populate
      | enterTcp | keepFin | abort => rfl

/-- The packet thread queues a datagram behind the others. -/
private theorem Addressed.uploaded_enters (addressed : engine.Addressed)
    (enters : engine.packetThread.Enters id)
    (isUdp : (engine.getSessionKey id).protocol = .udp)
    (answers : Answers) :
    uploaded id (engineStep engine (.proceed answers)) =
      uploaded id engine ++
        handedTo id (engine.handedOver (.proceed answers)) := by
  obtain ⟨datagram, newSession, thread, has⟩ :=
    Aims.enterUdp addressed.aims enters isUdp
  have recorded :=
    @recorded_enterUdp engine datagram newSession id has answers
  have older :=
    (openings_step engine (.proceed answers)).older id has.allocated
  rw [uploaded, if_pos (older ▸ isUdp), uploaded, if_pos isUdp, handedOver,
    thread, handedTo_handsOver, engineStep, sessions_runPacketStep, thread,
    recorded, SessionRecord.uploads, SessionRecord.uploads,
    List.append_assoc _ _ (datagram.filled.map _)]

/-- The NIO thread moves the queue of the session on. -/
private theorem Addressed.uploaded_select {kept : Prop}
    (addressed : engine.Addressed) (ordered : Ordered kept True engine)
    (isUdp : (engine.getSessionKey id).protocol = .udp)
    (ready : SocketNIODataService.Readiness) :
    Passed (ChannelWorks ready.writes) (uploaded id engine)
      (uploaded id (engineStep engine (.select ready id))) := by
  by_cases selected :
      engine.nioThread = .running ∧
        (engine.sessions id).isRegistered = true
  · have older :=
      (openings_step engine (.select ready id)).older id
        (addressed.created ordered selected.2)
    obtain ⟨service, rfl, -, writes, rfl, holds⟩ :=
      @addressed.served _ _ ordered ready id selected isUdp
    rw [uploaded, if_pos isUdp, uploaded, if_pos (older ▸ isUdp), ← writes]
    exact holds.uploads
  · rw [engineStep, if_neg selected]
    exact .refl _

/-- A session of which something is recorded keeps its 5-tuple. -/
private theorem Addressed.key_of_touches {kept : Prop}
    (addressed : engine.Addressed) (ordered : Ordered kept True engine)
    {event : EngineEvent} (touches : Touches engine event id) :
    (engineStep engine event).getSessionKey id = engine.getSessionKey id := by
  cases event with
  | handlePacket => exact touches.elim
  | proceed answers =>
      exact
        (openings_step engine _).older id
          (Aims.created addressed.aims touches)
  | select ready other =>
      cases touches
      by_cases registered : (engine.sessions id).isRegistered = true
      · exact
          (openings_step engine _).older id
            (addressed.created ordered registered)
      · rw [engineStep, if_neg fun selected => registered selected.2]

/-- What a datagram session has and is handed in a step it has afterwards. -/
private theorem Addressed.passed_uploads {kept : Prop}
    (addressed : engine.Addressed) (ordered : Ordered kept True engine)
    (id : Nat) (event : EngineEvent) :
    Passed (event.Sends id)
      (uploaded id engine ++ handedTo id (engine.handedOver event))
      (uploaded id (engineStep engine event)) := by
  by_cases touches : Touches engine event id
  · by_cases isUdp : (engine.getSessionKey id).protocol = .udp
    · cases event with
      | handlePacket => exact touches.elim
      | proceed answers =>
          exact .of_eq (addressed.uploaded_enters touches isUdp answers)
      | select ready other =>
          cases touches
          rw [handedOver, handedTo, List.filter_nil, List.map_nil,
            List.append_nil]
          exact
            (addressed.uploaded_select ordered isUdp ready).imp
              fun sends => sends rfl
    · have isUdpAfter :
          ((engineStep engine event).getSessionKey id).protocol ≠ .udp := by
        rw [addressed.key_of_touches ordered touches]
        exact isUdp
      rw [addressed.handedTo_eq_nil fun udp => absurd udp isUdp, uploaded,
        if_neg isUdp, uploaded, if_neg isUdpAfter]
      exact .refl _
  · rw [addressed.handedTo_eq_nil fun _ => touches, List.append_nil,
      addressed.uploaded_kept touches]
    exact .refl _

/-- A datagram is handed over to a session of its own 5-tuple. -/
private theorem Addressed.handedOver_has (addressed : engine.Addressed)
    (event : EngineEvent) :
    ∀ upload ∈ engine.handedOver event,
      (engineStep engine event).Has upload.1 upload.2.sessionKey := by
  intro upload inside
  cases event with
  | handlePacket => cases inside
  | select => cases inside
  | proceed answers =>
      have aims := addressed.aims
      rw [handedOver] at inside
      cases thread : engine.packetThread with
      | enterUdp datagram newSession session =>
          rw [thread, PacketThread.handsOver] at inside
          rw [thread] at aims
          obtain ⟨upload, isFilled, rfl⟩ := List.mem_map.mp inside
          rw [UdpDatagram.filled] at isFilled
          split at isFilled
          · rw [List.mem_singleton.mp isFilled]
            exact aims.2.openings (openings_step engine _)
          · cases isFilled
      | idle | createUdp | keepUdp | createTcp | resendAck | populate
      | enterTcp | keepFin | abort =>
          rw [thread] at inside
          cases inside

end Engine

/-- What the states of a guarded run are like. -/
private theorem addressed_along {events : List EngineEvent}
    {packetIds : Nat → Int}
    (room :
      StepsMeet engineStep HeadersHaveRoom (Engine.start packetIds)
        events) :
    StepsMeet engineStep
      (fun engine event =>
        HeadersHaveRoom engine event ∧
          Ordered False True engine ∧ engine.Addressed)
      (Engine.start packetIds) events :=
  room.with_invariant
    (fun _ event room holds =>
      ⟨ordered_engineStep holds.1 room.ready, holds.2.step holds.1 event⟩)
    ⟨ordered_start packetIds, Engine.addressed_start packetIds⟩

section Relayed

variable (packetIds : Nat → Int) (events : List EngineEvent)

/-- Every datagram of a client is relayed.  In every run in which only
headers with room reach a session: the datagrams of the packets handled are
handed over to sessions in order, each at most once and to a session of its
5-tuple, and all of them but for one that waits unless a call for a new
session fails; and what a datagram session has been handed is in order with
its channel and in its queue, all of it unless a write of the channel fails.
-/
theorem datagrams_relayed
    (room :
      StepsMeet engineStep HeadersHaveRoom (Engine.start packetIds)
        events) :
    Passed (∀ event ∈ events, event.Opens)
        (emitted engineStep Engine.taken (Engine.start packetIds) events)
        ((emitted engineStep Engine.handedOver (Engine.start packetIds)
              events).map Prod.snd ++
          (run engineStep (Engine.start packetIds)
            events).packetThread.waiting) ∧
      (∀ upload ∈
          emitted engineStep Engine.handedOver (Engine.start packetIds)
            events,
        (run engineStep (Engine.start packetIds) events).getSessionKey
            upload.1 =
          upload.2.sessionKey) ∧
        ∀ id,
          ((run engineStep (Engine.start packetIds) events).getSessionKey
              id).protocol =
            .udp →
          Passed (∀ event ∈ events, event.Sends id)
            (Engine.handedTo id
              (emitted engineStep Engine.handedOver
                (Engine.start packetIds) events))
            (((run engineStep (Engine.start packetIds) events).sessions
                id).recorded.sent ++
              ((run engineStep (Engine.start packetIds) events).sessions
                id).recorded.queued) := by
  have along := addressed_along room
  refine ⟨?_, ?_, ?_⟩
  · have passed :=
      @passed_run _ _ _ engineStep Engine.taken
        (fun engine event => (engine.handedOver event).map Prod.snd)
        (fun engine => engine.packetThread.waiting) EngineEvent.Opens events
        (Engine.start packetIds)
        (.of_forall PacketHandling.passed_taken events _)
    rw [emitted_image rfl (fun _ _ => List.map_append)]
    exact passed
  · have has :=
      @forall_emitted _ _ _ engineStep Engine.handedOver
        (fun engine upload => engine.Has upload.1 upload.2.sessionKey)
        (fun engine event _ has =>
          has.openings (Engine.openings_step engine event))
        events (Engine.start packetIds)
        (along.imp fun _ event holds => holds.2.2.handedOver_has event)
    intro upload inside
    exact (has upload inside).key_eq
  · intro id isUdp
    have passed :=
      @passed_run _ _ _ engineStep
        (fun engine event => Engine.handedTo id (engine.handedOver event))
        (fun _ _ => []) (Engine.uploaded id) (EngineEvent.Sends id) events
        (Engine.start packetIds)
        (along.imp fun _ event holds =>
          holds.2.2.passed_uploads holds.2.1 id event)
    have uploaded :
        Engine.uploaded id
            (run engineStep (Engine.start packetIds) events) =
          ((run engineStep (Engine.start packetIds) events).sessions
              id).recorded.sent ++
            ((run engineStep (Engine.start packetIds) events).sessions
              id).recorded.queued := by
      rw [Engine.uploaded, if_pos isUdp, SessionRecord.uploads,
        List.append_nil]
    rw [emitted_nil, uploaded] at passed
    rw [emitted_image rfl (Engine.handedTo_append id)]
    exact passed

end Relayed

/-- A UDP packet with the byte 65 from port 4000 of `10.0.0.2` to port 53 of
`10.0.0.1`. -/
def filledQuery : ByteBuffer :=
  ByteBuffer.wrap
    [0x45, 0, 0, 29, 0, 0, 0, 0, 64, 17, 0, 0, 10, 0, 0, 2, 10, 0, 0, 1,
      0x0F, 0xA0, 0, 53, 0, 9, 0, 0, 65]

/-- The channel takes one datagram. -/
def datagramTaken : SocketNIODataService.Readiness :=
  { byteRead with
    isWritable := true
    writes := [.accepted 1] }

/-- Two queries with data open a session, and one of them goes out. -/
def queriesRun : List EngineEvent :=
  [.handlePacket filledQuery quickAnswers, .proceed quickAnswers,
    .proceed quickAnswers, .proceed quickAnswers,
    .handlePacket filledQuery quickAnswers, .proceed quickAnswers,
    .select datagramTaken 0, .handlePacket filledQuery quickAnswers]

theorem datagrams_relayed_queriesRun :
    ((run engineStep (Engine.start fun _ => 0) queriesRun).sessions
          0).recorded.sent =
        [[65]] ∧
      ((run engineStep (Engine.start fun _ => 0) queriesRun).sessions
          0).recorded.queued =
        [[65]] ∧
      Passed (∀ event ∈ queriesRun, event.Sends 0)
        (Engine.handedTo 0
          (emitted engineStep Engine.handedOver (Engine.start fun _ => 0)
            queriesRun))
        (((run engineStep (Engine.start fun _ => 0) queriesRun).sessions
            0).recorded.sent ++
          ((run engineStep (Engine.start fun _ => 0) queriesRun).sessions
            0).recorded.queued) :=
  ⟨by decide +kernel, by decide +kernel,
    (datagrams_relayed (fun _ => 0) queriesRun (by decide +kernel)).2.2 0
      (by decide +kernel)⟩

end LanShield.Vpn
