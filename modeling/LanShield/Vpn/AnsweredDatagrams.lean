import LanShield.Vpn.AddressedSessions

/-!
# Every datagram is answered to its client

What the channel of a datagram session returns goes to the session's client,
in order and once, whatever both threads do in between.
-/

namespace LanShield.Vpn

open LanShield.Library LanShield.Java LanShield.Transport Program

/-- The session whose key the NIO thread handles. -/
def EngineEvent.selected : EngineEvent → Option Nat
  | .select _ id => some id
  | .handlePacket .. | .proceed _ => none

/-- What is written to the client while an event is handled. -/
def Engine.writtenBy (engine : Engine) (event : EngineEvent) :
    List (List UInt8) :=
  (engineStep engine event).written.drop engine.written.length

/-- The replies among this, while the key of the session is handled. -/
def Engine.repliesIn (id : Nat) (engine : Engine) (event : EngineEvent) :
    List (List UInt8) :=
  if event.selected = some id then engine.writtenBy event else []

/-- What the NIO thread writes to the client while it handles the key of the
session. -/
def repliesTo (id : Nat) (engine : Engine) (events : List EngineEvent) :
    List (List UInt8) :=
  emitted engineStep (Engine.repliesIn id) engine events

section Replies

variable {engine : Engine} {id : Nat} {key : SessionKey}

/-- The packet thread adds nothing to what the channel of the session it
enters has returned. -/
private theorem Engine.Addressed.received_enters
    (addressed : engine.Addressed)
    (isUdp : key.protocol = .udp)
    (key_eq : id < engine.allocated → engine.getSessionKey id = key)
    (enters : engine.packetThread.Enters id) (answers : Answers) :
    ((engineStep engine (.proceed answers)).sessions id).recorded.received =
      (engine.sessions id).recorded.received := by
  have own := key_eq (Engine.Aims.created addressed.aims enters)
  rw [← own] at isUdp
  obtain ⟨datagram, newSession, thread, has⟩ :=
    Engine.Aims.enterUdp addressed.aims enters isUdp
  have recorded :=
    @Engine.recorded_enterUdp engine datagram newSession id has answers
  rw [← thread] at recorded
  rw [engineStep, Engine.sessions_runPacketStep, recorded]

/-- The NIO thread answers what it receives for a session. -/
private theorem Engine.Addressed.answered_select {kept : Prop}
    (addressed : engine.Addressed) (ordered : Ordered kept True engine)
    (isUdp : key.protocol = .udp)
    (key_eq : id < engine.allocated → engine.getSessionKey id = key)
    (ready : SocketNIODataService.Readiness) :
    ∃ datagrams,
      ((engineStep engine (.select ready id)).sessions
            id).recorded.received =
          (engine.sessions id).recorded.received ++ datagrams ∧
        Answered key datagrams (engine.writtenBy (.select ready id)) := by
  rw [Engine.writtenBy]
  by_cases selected :
      engine.nioThread = .running ∧
        (engine.sessions id).isRegistered = true
  · have own := key_eq (addressed.created ordered selected.2)
    subst own
    obtain ⟨service, rfl, serviceKey, -, rfl, holds⟩ :=
      addressed.served ordered selected isUdp
    obtain ⟨datagrams, packets, received, written, answered⟩ :=
      holds.served
    refine ⟨datagrams, received, ?_⟩
    rw [written, List.drop_left, ← serviceKey]
    exact answered
  · rw [engineStep, if_neg selected]
    refine ⟨[], (List.append_nil _).symm, ?_⟩
    rw [List.drop_length]
    exact .nil

/-- What a step adds to the datagrams of a session is answered in this step.
-/
theorem Engine.Addressed.answered {kept : Prop}
    (addressed : engine.Addressed) (ordered : Ordered kept True engine)
    (isUdp : key.protocol = .udp)
    (key_eq : id < engine.allocated → engine.getSessionKey id = key)
    (event : EngineEvent) :
    ∃ datagrams,
      ((engineStep engine event).sessions id).recorded.received =
          (engine.sessions id).recorded.received ++ datagrams ∧
        Answered key datagrams (engine.repliesIn id event) := by
  by_cases selected : event.selected = some id
  · rw [Engine.repliesIn, if_pos selected]
    cases event with
    | handlePacket => cases selected
    | proceed => cases selected
    | select ready other =>
        cases selected
        exact addressed.answered_select ordered isUdp key_eq ready
  · rw [Engine.repliesIn, if_neg selected]
    refine ⟨[], ?_, .nil⟩
    rw [List.append_nil]
    by_cases touches : Engine.Touches engine event id
    · cases event with
      | handlePacket => exact touches.elim
      | proceed answers =>
          exact addressed.received_enters isUdp key_eq touches answers
      | select ready other =>
          exact absurd (congrArg some touches.symm) selected
    · have openings := Engine.openings_step engine event
      rw [addressed.recorded openings touches]

/-- What a run adds is answered in this run. -/
private theorem answered_from (isUdp : key.protocol = .udp) :
    ∀ {events : List EngineEvent} {engine : Engine},
      Ordered False True engine → engine.Addressed →
        StepsMeet engineStep HeadersHaveRoom engine events →
          (run engineStep engine events).getSessionKey id = key →
            ∃ datagrams,
              ((run engineStep engine events).sessions
                    id).recorded.received =
                  (engine.sessions id).recorded.received ++ datagrams ∧
                Answered key datagrams (repliesTo id engine events) := by
  intro events
  induction events with
  | nil =>
      intro engine _ _ _ _
      exact ⟨[], (List.append_nil _).symm, .nil⟩
  | cons event later inductionHypothesis =>
      intro engine ordered addressed room last
      have key_eq (created : id < engine.allocated) :
          engine.getSessionKey id = key := by
        have has : engine.Has id (engine.getSessionKey id) := ⟨created, rfl⟩
        exact (has.run (event :: later)).key_eq.symm.trans last
      obtain ⟨first, received, answered⟩ :=
        addressed.answered ordered isUdp key_eq event
      obtain ⟨rest, receivedLater, answeredLater⟩ :=
        inductionHypothesis (ordered_engineStep ordered room.1.ready)
          (addressed.step ordered event) room.2 last
      refine ⟨first ++ rest, ?_, answered.append answeredLater⟩
      rw [← List.append_assoc, ← received]
      exact receivedLater

/-- In every run in which only headers with room reach a session, what the
NIO thread writes to the client for a datagram session are, in order, the
replies to the datagrams its channel has returned: over IPv4 each goes from
the session's peer to its client with the datagram's bytes, and only
datagrams that are too long for the link are left out. -/
theorem datagrams_answered (packetIds : Nat → Int)
    (events : List EngineEvent)
    (room :
      StepsMeet engineStep HeadersHaveRoom (Engine.start packetIds) events)
    (id : Nat)
    (isUdp :
      ((run engineStep (Engine.start packetIds) events).getSessionKey
          id).protocol =
        .udp) :
    Answered
      ((run engineStep (Engine.start packetIds) events).getSessionKey id)
      ((run engineStep (Engine.start packetIds) events).sessions
        id).recorded.received
      (repliesTo id (Engine.start packetIds) events) := by
  obtain ⟨datagrams, received, answered⟩ :=
    answered_from isUdp (ordered_start packetIds)
      (Engine.addressed_start packetIds) room rfl
  rw [received]
  exact answered

/-- A UDP packet from port 4000 of `10.0.0.2` to port 53 of `10.0.0.1`. -/
def sampleQuery : ByteBuffer :=
  ByteBuffer.wrap
    [0x45, 0, 0, 28, 0, 0, 0, 0, 64, 17, 0, 0, 10, 0, 0, 2, 10, 0, 0, 1,
      0x0F, 0xA0, 0, 53, 0, 8, 0, 0]

/-- Another datagram comes behind the byte. -/
def datagramsRead : SocketNIODataService.Readiness :=
  { byteRead with
    reads :=
      byteRead.reads ++ [.data ⟨[66, 67], by decide, by decide⟩] }

/-- A query opens a session, and datagrams arrive twice. -/
def queryRun : List EngineEvent :=
  [.handlePacket sampleQuery quickAnswers, .proceed quickAnswers,
    .proceed quickAnswers, .select datagramsRead 0, .proceed quickAnswers,
    .select byteRead 0]

theorem datagrams_answered_queryRun :
    (repliesTo 0 (Engine.start fun _ => 0) queryRun).length = 3 ∧
      Answered
        ((run engineStep (Engine.start fun _ => 0) queryRun).getSessionKey
          0)
        ((run engineStep (Engine.start fun _ => 0) queryRun).sessions
          0).recorded.received
        (repliesTo 0 (Engine.start fun _ => 0) queryRun) :=
  ⟨by decide +kernel,
    datagrams_answered (fun _ => 0) queryRun (by decide +kernel) 0
      (by decide +kernel)⟩

end Replies

end LanShield.Vpn
