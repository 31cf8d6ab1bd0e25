import LanShield.Vpn.DatagramService
import LanShield.Vpn.PacketOrigins
import LanShield.Vpn.StoredHeaders

/-!
# Datagram sessions keep to their client

Whatever both threads do in between, the last headers of a datagram session
are those of a datagram of its own client, and no empty datagram waits in its
queue.
-/

namespace LanShield.Vpn

open LanShield.Library LanShield.Java LanShield.Transport Program

/-- What the parsers tell of a datagram. -/
structure UdpDatagram.Parsed (datagram : UdpDatagram) : Prop where
  protocol :
    ∀ header, datagram.ipHeader = .v4 header → header.ipv4Protocol = 17
  sourcePort_small : datagram.udpheader.sourcePort < 65536
  destPort_small : datagram.udpheader.destinationPort < 65536

/-- What of the datagram `addClientData` queues: an empty one it drops. -/
def UdpDatagram.filled (datagram : UdpDatagram) : List UdpDatagram :=
  if 0 < datagram.data.remaining then [datagram] else []

private theorem UdpDatagram.unread_filled {datagram : UdpDatagram}
    {bytes : List UInt8}
    (inside :
      bytes ∈ datagram.filled.map fun datagram => datagram.data.unread) :
    bytes ≠ [] := by
  rw [filled] at inside
  split at inside
  · next remaining =>
    rw [List.mem_singleton.mp inside]
    apply List.ne_nil_of_length_pos
    rw [ByteBuffer.length_unread]
    exact remaining
  · cases inside

theorem UdpDatagram.Parsed.fromClient {datagram : UdpDatagram}
    (parsed : datagram.Parsed) :
    FromClient datagram.sessionKey datagram.ipHeader datagram.udpheader where
  isUdp := rfl
  protocol := parsed.protocol
  sourceIp := rfl
  destIp := rfl
  sourcePort := rfl
  destPort := rfl
  sourcePort_small := parsed.sourcePort_small
  destPort_small := parsed.destPort_small

/-- The last headers are of the client, and no empty datagram waits. -/
structure SessionRecord.FitsKey (recorded : SessionRecord)
    (key : SessionKey) : Prop where
  headers :
    ∀ ipHeader udpheader, recorded.lastIpHeader = some ipHeader →
      recorded.lastUdpHeader = some udpheader →
        FromClient key ipHeader udpheader
  filled : ∀ bytes ∈ recorded.queued, bytes ≠ []

/-- Nothing is recorded that could not fit. -/
private theorem SessionRecord.fitsKey_blank {recorded : SessionRecord}
    (key : SessionKey) (blank : recorded = ⟨none, none, [], [], []⟩) :
    recorded.FitsKey key := by
  subst blank
  refine ⟨?_, ?_⟩
  · intro ipHeader udpheader lastIp
    cases lastIp
  · intro bytes inside
    cases inside

namespace Engine

/-- The session has been created for the 5-tuple. -/
structure Has (engine : Engine) (id : Nat) (key : SessionKey) : Prop where
  allocated : id < engine.allocated
  key_eq : engine.getSessionKey id = key

/-- Where the packet thread stands before a session's monitor, the session is
for the 5-tuple of its packet. -/
def Aims (engine : Engine) : PacketThread → Prop
  | .createUdp datagram => datagram.Parsed
  | .enterUdp datagram _ id =>
      datagram.Parsed ∧ engine.Has id datagram.sessionKey
  | .populate syn _ _ id => engine.Has id syn.sessionKey
  | .enterTcp segment id => engine.Has id segment.sessionKey
  | .idle | .keepUdp _ | .createTcp .. | .resendAck _ | .keepFin _
  | .abort _ => True

/-- What is recorded of a datagram session fits its 5-tuple. -/
def Fits (engine : Engine) (id : Nat) : Prop :=
  (engine.getSessionKey id).protocol = .udp →
    (engine.sessions id).recorded.FitsKey (engine.getSessionKey id)

/-- What is recorded of all datagram sessions fits, and of sessions that are
still to be created nothing is recorded. -/
structure Addressed (engine : Engine) : Prop where
  fits : ∀ id, engine.Fits id
  blank : ∀ id, engine.allocated ≤ id → (engine.sessions id).IsBlank
  aims : engine.Aims engine.packetThread

section Openings

variable {allowed : SessionKey → Prop} {own : Nat → Prop}
  {before after : Engine}

theorem Has.openings {id : Nat} {key : SessionKey}
    (has : before.Has id key)
    (openings : Openings allowed own before after) : after.Has id key :=
  ⟨has.allocated.trans_le openings.grown,
    (openings.older id has.allocated).trans has.key_eq⟩

theorem Aims.openings {thread : PacketThread} (aims : before.Aims thread)
    (openings : Openings allowed own before after) : after.Aims thread := by
  cases thread with
  | createUdp datagram => exact aims
  | enterUdp datagram newSession id =>
      exact ⟨aims.1, Has.openings aims.2 openings⟩
  | populate syn packet data id => exact Has.openings aims openings
  | enterTcp segment id => exact Has.openings aims openings
  | idle | keepUdp | createTcp | resendAck | keepFin | abort => trivial

/-- Of a session that is not an own one nothing more is recorded. -/
theorem Addressed.recorded (addressed : before.Addressed)
    (openings : Openings allowed own before after) {id : Nat}
    (other : ¬ own id) :
    (after.sessions id).recorded = (before.sessions id).recorded := by
  apply openings.recorded id other
  by_cases created : id < before.allocated
  · exact Or.inl created
  · exact Or.inr (addressed.blank id (Nat.le_of_not_lt created))

/-- It remains to be shown that what is recorded of the own sessions fits.
-/
theorem Addressed.openings (addressed : before.Addressed)
    (openings : Openings allowed own before after)
    (created : ∀ id, own id → id < before.allocated)
    (fits : ∀ id, own id → after.Fits id)
    (aims : after.Aims after.packetThread) : after.Addressed where
  aims := aims
  fits := by
    intro id
    by_cases mine : own id
    · exact fits id mine
    · rw [Fits, addressed.recorded openings mine]
      by_cases older : id < before.allocated
      · rw [openings.older id older]
        exact addressed.fits id
      · intro _
        exact
          SessionRecord.fitsKey_blank _
            (addressed.blank id (Nat.le_of_not_lt older))
  blank := by
    intro id above
    have mine : ¬ own id := by
      intro mine
      exact
        absurd ((created id mine).trans_le openings.grown)
          (Nat.not_lt.mpr above)
    rw [SessionObject.IsBlank, addressed.recorded openings mine]
    exact addressed.blank id (openings.grown.trans above)

end Openings

end Engine

namespace PacketHandling

open Engine

/-- However the program ends, the thread then stands before a session of its
packet. -/
abbrev AimsNext (program : Running PacketThread) (engine : Engine) : Prop :=
  Ends (fun next after => after.Aims next) (fun _ => True) program engine

section Aiming

variable {engine : Engine}

/-- What comes first is of no importance. -/
theorem AimsNext.after {Value : Type} {first : Running Value}
    {next : Value → Running PacketThread}
    (right : ∀ value after, AimsNext (next value) after) :
    AimsNext (first >>= next) engine :=
  ends_after right

/-- The session the table has is for the 5-tuple. -/
private theorem has_of_table (placed : engine.Placed) {key : SessionKey}
    {id : Nat}
    (found : engine.table key = some id) : engine.Has id key :=
  ⟨(placed.placed key id found).2, (placed.placed key id found).1⟩

private theorem aimsNext_handleUDPPacket (placed : engine.Placed)
    {datagram : UdpDatagram} (parsed : datagram.Parsed) :
    AimsNext (handleUDPPacket datagram) engine := by
  apply ends_getSession
  cases found : engine.table datagram.sessionKey with
  | none => exact ends_pure parsed
  | some id => exact ends_pure ⟨parsed, has_of_table placed found⟩

private theorem aimsNext_handleTCPPacket (placed : engine.Placed)
    (segment : TcpSegment) (answers : Answers) :
    AimsNext (handleTCPPacket segment answers) engine := by
  rw [handleTCPPacket]
  split
  · exact AimsNext.after fun _ _ => ends_pure trivial
  split
  · apply ends_getSession
    cases found : engine.table segment.sessionKey with
    | none => exact AimsNext.after fun _ _ => ends_pure trivial
    | some id => exact ends_pure (has_of_table placed found)
  split
  · apply ends_getSession
    cases engine.table segment.sessionKey with
    | none => exact AimsNext.after fun _ _ => ends_pure trivial
    | some id => exact ends_pure trivial
  split
  · apply ends_getSession
    cases engine.table segment.sessionKey with
    | none => exact ends_pure trivial
    | some id => exact ends_pure trivial
  · exact ends_pure trivial

private theorem aimsNext_handlePacket (placed : engine.Placed)
    (stream : ByteBuffer) (answers : Answers) :
    AimsNext (handlePacket stream answers) engine := by
  rw [handlePacket]
  refine ends_parsed (fun ipHeader behindIp readIp => ?_) fun _ _ => trivial
  dsimp only
  split
  · refine ends_parsed (fun tcpheader data readTcp => ?_) fun _ _ => trivial
    exact aimsNext_handleTCPPacket placed _ answers
  · next udp =>
    refine ends_parsed (fun udpheader data readUdp => ?_) fun _ _ => trivial
    obtain ⟨source, destination⟩ :=
      UDPPacketFactory.createUDPHeader_ports readUdp
    apply aimsNext_handleUDPPacket placed
    refine ⟨?_, source, destination⟩
    rintro header rfl
    have number := createIPHeader_number4 readIp
    have isUdp : header.protocol = some .udp := udp
    rw [isUdp, IPv4Header.protocolOf, protocolOfNumber] at number
    split at number
    · cases number
    split at number
    · next seventeen => exact seventeen
    split at number
    · cases number
    · cases number
  · exact ends_pure trivial
  · exact ends_pure trivial
  · exact ends_pure trivial

private theorem aimsNext_proceed {kept guarded : Prop}
    (working : Working kept guarded engine) {thread : PacketThread}
    (aims : engine.Aims thread) (answers : Answers) :
    AimsNext (proceed answers thread) engine := by
  cases thread with
  | idle => exact ends_pure trivial
  | createUdp datagram =>
      have created :=
        @ends_createNewUDPSession kept guarded False datagram.sessionKey
          engine working rfl nofun datagram.ipHeader.getTotalLength answers
      apply
        (created.imp (fun _ _ created => created) fun _ _ => trivial).bind
      intro id after created
      exact
        ends_pure
          ⟨aims,
            ⟨(created.working.placed.placed _ id created.inTable).2,
              created.key_eq⟩⟩
  | createTcp syn packet data =>
      have created :=
        @ends_createNewTCPSession kept guarded False syn.sessionKey engine
          working rfl nofun syn.ipHeader.getTotalLength answers
      apply
        (created.imp (fun _ _ created => created) fun _ _ => trivial).bind
      intro id after created
      apply ends_readSession
      split
      · exact ends_pure trivial
      · exact
          ends_pure
            ⟨(created.working.placed.placed _ id created.inTable).2,
              created.key_eq⟩
  | enterUdp | keepUdp | resendAck | populate | enterTcp | keepFin
  | abort => exact AimsNext.after fun _ _ => ends_pure trivial

private theorem aims_runPacketStep {program : Running PacketThread}
    (aimsNext : AimsNext program engine) :
    (runPacketStep program engine).Aims
      (runPacketStep program engine).packetThread := by
  rw [AimsNext, Ends] at aimsNext
  rw [runPacketStep]
  rcases ended : program.outcome engine with ⟨exception | next, after⟩
  · trivial
  · rw [ended] at aimsNext
    cases next with
    | createUdp datagram => exact aimsNext
    | enterUdp datagram newSession id =>
        obtain ⟨parsed, has⟩ := aimsNext
        exact ⟨parsed, ⟨has.allocated, has.key_eq⟩⟩
    | populate syn packet data id =>
        have has : after.Has id syn.sessionKey := aimsNext
        exact ⟨has.allocated, has.key_eq⟩
    | enterTcp segment id =>
        have has : after.Has id segment.sessionKey := aimsNext
        exact ⟨has.allocated, has.key_eq⟩
    | idle | keepUdp | createTcp | resendAck | keepFin | abort => trivial

end Aiming

end PacketHandling

namespace Engine

variable {engine : Engine}

open PacketHandling

/-- A session of a segment is no datagram session. -/
private theorem fits_tcp {id : Nat} {segment : TcpSegment}
    (key : engine.getSessionKey id = segment.sessionKey) :
    engine.Fits id := by
  intro isUdp
  rw [key] at isUdp
  cases isUdp

/-- `addClientData` queues the data of a datagram unless there is none. -/
private theorem ends_addClientData_udp {datagram : UdpDatagram} {id : Nat}
    (has : engine.Has id datagram.sessionKey) :
    Ends
      (fun _ after =>
        id < after.allocated ∧
          (after.sessions id).recorded =
            { (engine.sessions id).recorded with
              queued :=
                (engine.sessions id).recorded.queued ++
                  datagram.filled.map fun datagram =>
                    datagram.data.unread })
      (fun _ => False) (addClientData datagram.data id) engine := by
  have isUdp : (engine.sessions id).session.protocol = .udp :=
    congrArg SessionKey.protocol has.key_eq
  by_cases remaining : 0 < datagram.data.remaining
  · have unread : ¬ datagram.data.limit ≤ datagram.data.position := by
      rw [ByteBuffer.remaining] at remaining
      omega
    rw [addClientData, if_neg unread, UdpDatagram.filled, if_pos remaining]
    apply ends_modify_bind
    apply ends_pure
    refine ⟨has.allocated, ?_⟩
    rw [updateObject_self, SessionObject.updateSession,
      Session.setSendingData_udp isUdp]
    rfl
  · have empty : datagram.data.limit ≤ datagram.data.position := by
      rw [ByteBuffer.remaining] at remaining
      omega
    rw [addClientData, if_pos empty, UdpDatagram.filled, if_neg remaining]
    apply ends_pure
    refine ⟨has.allocated, ?_⟩
    rw [List.map_nil, List.append_nil]

/-- The monitor block of `handleUDPPacket` records the headers of the
datagram and queues its data. -/
theorem recorded_enterUdp {datagram : UdpDatagram} {newSession : Bool}
    {id : Nat} (has : engine.Has id datagram.sessionKey)
    (answers : Answers) :
    (((proceed answers (.enterUdp datagram newSession id)).final
        engine).sessions id).recorded =
      { (engine.sessions id).recorded with
        lastIpHeader := some datagram.ipHeader
        lastUdpHeader := some datagram.udpheader
        queued :=
          (engine.sessions id).recorded.queued ++
            datagram.filled.map fun datagram => datagram.data.unread } := by
  have noted :
      (engine.updateObject id
        (SessionObject.updateSession (noteDatagram datagram))).Has id
          datagram.sessionKey := by
    refine ⟨has.allocated, ?_⟩
    rw [getSessionKey, updateObject_self]
    exact has.key_eq
  have queues := ends_addClientData_udp noted
  rw [updateObject_self] at queues
  obtain ⟨value, outcome, created, queued⟩ := queues.returned
  have announces :
      (handleDatagram datagram newSession answers id).final engine =
        (announceDatagram newSession answers id).final
          ((addClientData datagram.data id).final
            (engine.updateObject id
              (SessionObject.updateSession (noteDatagram datagram)))) :=
    final_bind outcome
  have announced :
      OpensOnly (fun _ => False) (fun _ => False)
        (announceDatagram newSession answers id) :=
    opensOnly_announceDatagram newSession answers
  rw [proceed, final_bind_pure, announces]
  exact
    ((announced _).recorded id not_false (Or.inl created)).trans queued

theorem Addressed.handlePacket (addressed : engine.Addressed)
    (placed : engine.Placed) (stream : ByteBuffer) (answers : Answers) :
    (runPacketStep (PacketHandling.handlePacket stream answers)
      engine).Addressed := by
  have origins :=
    @origins_handlePacket (fun _ => True) engine stream
      ⟨fun _ _ _ _ _ _ _ => trivial, fun _ _ _ _ _ _ _ => trivial⟩ answers
  exact
    addressed.openings origins.1 (fun _ mine => mine.elim)
      (fun _ mine => mine.elim)
      (aims_runPacketStep (aimsNext_handlePacket placed stream answers))

theorem Aims.created {thread : PacketThread} (aims : engine.Aims thread)
    {id : Nat} (enters : thread.Enters id) : id < engine.allocated := by
  cases thread with
  | enterUdp datagram newSession other =>
      cases enters
      exact aims.2.allocated
  | populate syn packet data other =>
      cases enters
      exact Has.allocated aims
  | enterTcp segment other =>
      cases enters
      exact Has.allocated aims
  | idle | createUdp | keepUdp | createTcp | resendAck | keepFin
  | abort => exact enters.elim

/-- A datagram session is entered with a datagram of its 5-tuple. -/
theorem Aims.enterUdp {thread : PacketThread} (aims : engine.Aims thread)
    {id : Nat} (enters : thread.Enters id)
    (isUdp : (engine.getSessionKey id).protocol = .udp) :
    ∃ datagram newSession, thread = .enterUdp datagram newSession id ∧
      engine.Has id datagram.sessionKey := by
  cases thread with
  | enterUdp datagram newSession other =>
      cases enters
      exact ⟨datagram, newSession, rfl, aims.2⟩
  | populate syn packet data other =>
      cases enters
      rw [Has.key_eq aims] at isUdp
      cases isUdp
  | enterTcp segment other =>
      cases enters
      rw [Has.key_eq aims] at isUdp
      cases isUdp
  | idle | createUdp | keepUdp | createTcp | resendAck | keepFin
  | abort => exact enters.elim

/-- Where the thread stands is no matter of the sessions. -/
theorem sessions_runPacketStep (program : Running PacketThread)
    (engine : Engine) :
    (runPacketStep program engine).sessions =
      (program.final engine).sessions := by
  rw [runPacketStep, final]
  rcases program.outcome engine with ⟨exception | next, after⟩
  · rfl
  · rfl

private theorem fits_runPacketStep {program : Running PacketThread} {id : Nat}
    (fit : (program.final engine).Fits id) :
    (runPacketStep program engine).Fits id := by
  rw [Fits, getSessionKey] at fit ⊢
  rw [sessions_runPacketStep]
  exact fit

/-- The thread records what comes from the session's own client. -/
theorem Aims.fits {thread : PacketThread} (aims : engine.Aims thread)
    {id : Nat} (enters : thread.Enters id) (before : engine.Fits id)
    (answers : Answers) :
    ((proceed answers thread).final engine).Fits id := by
  have key :=
    (opensOnly_proceed thread answers engine).older id (aims.created enters)
  cases thread with
  | enterUdp datagram newSession other =>
      cases enters
      have recorded :=
        @recorded_enterUdp engine datagram newSession id aims.2 answers
      have isUdp : (engine.getSessionKey id).protocol = .udp := by
        rw [aims.2.key_eq]
        rfl
      intro _
      rw [recorded, key]
      refine ⟨?_, ?_⟩
      · intro ipHeader udpheader lastIp lastUdp
        cases lastIp
        cases lastUdp
        rw [aims.2.key_eq]
        exact aims.1.fromClient
      · intro bytes inside
        rcases List.mem_append.mp inside with earlier | new
        · exact (before isUdp).filled bytes earlier
        · exact UdpDatagram.unread_filled new
  | populate syn packet data other =>
      cases enters
      exact fits_tcp (key.trans (Has.key_eq aims))
  | enterTcp segment other =>
      cases enters
      exact fits_tcp (key.trans (Has.key_eq aims))
  | idle | createUdp | keepUdp | createTcp | resendAck | keepFin
  | abort => exact enters.elim

theorem Addressed.proceed {kept guarded : Prop}
    (addressed : engine.Addressed) (working : Working kept guarded engine)
    (answers : Answers) :
    (engineStep engine (.proceed answers)).Addressed := by
  have origins := @origins_proceed (fun _ => True) engine answers
  exact
    addressed.openings origins.1
      (fun _ enters => Aims.created addressed.aims enters)
      (fun _ enters =>
        fits_runPacketStep
          (Aims.fits addressed.aims enters (addressed.fits _) answers))
      (aims_runPacketStep
        (aimsNext_proceed working addressed.aims answers))

/-- A registered session has been created. -/
theorem Addressed.created {kept guarded : Prop}
    (addressed : engine.Addressed) (ordered : Ordered kept guarded engine)
    {id : Nat} (registered : (engine.sessions id).isRegistered = true) :
    id < engine.allocated := by
  by_contra above
  have blank := addressed.blank id (Nat.le_of_not_lt above)
  have announced := ordered.placed.announced id registered
  have none : (engine.sessions id).session.lastIpHeader = none :=
    congrArg SessionRecord.lastIpHeader blank
  rw [none] at announced
  cases announced

/-- A registered datagram session is ready to be served. -/
theorem Addressed.service {kept : Prop} (addressed : engine.Addressed)
    (ordered : Ordered kept True engine) {id : Nat}
    (registered : (engine.sessions id).isRegistered = true)
    (isUdp : (engine.getSessionKey id).protocol = .udp)
    (writes : List WriteOutcome) :
    ∃ service : Service,
      service.id = id ∧ service.key = engine.getSessionKey id ∧
        service.writes = writes ∧ service.start = engine ∧
          service.Holds engine := by
  have sound := ordered.sound trivial id
  obtain ⟨ipHeader, lastIp⟩ :=
    Option.isSome_iff_exists.mp (sound.knownIp registered)
  obtain ⟨udpheader, lastUdp⟩ :=
    Option.isSome_iff_exists.mp (sound.knownUdp registered isUdp)
  have isDatagram : (engine.sessions id).channel.isSocket = false := by
    rw [(ordered.placed.wired id).kind, decide_eq_false_iff_not]
    intro tcp
    cases isUdp.symm.trans tcp
  have fits := addressed.fits id isUdp
  refine
    ⟨{ id
       key := engine.getSessionKey id
       ipHeader
       udpheader
       complete := sound.headers.ip _ lastIp
       fromClient := fits.headers ipHeader udpheader lastIp lastUdp
       writes
       start := engine },
      rfl, rfl, rfl, rfl,
      { isRegistered := registered
        isDatagram := isDatagram
        lastIpHeader := lastIp
        lastUdpHeader := lastUdp
        served := ⟨[], [], ?_, ?_, .nil⟩
        nonempty := fits.filled
        uploads := .refl _ }⟩
  · rw [List.append_nil]
  · rw [List.append_nil]

/-- What the NIO thread leaves of a selected datagram session. -/
theorem Addressed.served {kept : Prop} (addressed : engine.Addressed)
    (ordered : Ordered kept True engine)
    {ready : SocketNIODataService.Readiness} {id : Nat}
    (selected :
      engine.nioThread = .running ∧
        (engine.sessions id).isRegistered = true)
    (isUdp : (engine.getSessionKey id).protocol = .udp) :
    ∃ service : Service,
      service.id = id ∧ service.key = engine.getSessionKey id ∧
        service.writes = ready.writes ∧ service.start = engine ∧
          service.Holds (engineStep engine (.select ready id)) := by
  obtain ⟨service, rfl, key, writes, start, holds⟩ :=
    addressed.service ordered selected.2 isUdp ready.writes
  refine ⟨service, rfl, key, writes, start, ?_⟩
  rw [engineStep, if_pos selected]
  exact holds.runSelectedKey writes.symm

/-- The NIO thread records what it receives and sends, and no headers. -/
theorem Addressed.select {kept : Prop} (addressed : engine.Addressed)
    (ordered : Ordered kept True engine)
    (ready : SocketNIODataService.Readiness) (id : Nat) :
    (engineStep engine (.select ready id)).Addressed := by
  by_cases selected :
      engine.nioThread = .running ∧
        (engine.sessions id).isRegistered = true
  · have origins := @origins_select engine ready id
    have created := addressed.created ordered selected.2
    apply addressed.openings origins.toOpenings
    · rintro other rfl
      exact created
    · rintro other rfl isUdp
      have same := origins.older other created
      rw [same] at isUdp
      obtain ⟨service, rfl, key, -, -, holds⟩ :=
        addressed.served ordered selected isUdp
      rw [same, ← key]
      refine ⟨?_, holds.nonempty⟩
      intro ipHeader udpheader lastIp lastUdp
      rw [holds.lastIpHeader] at lastIp
      rw [holds.lastUdpHeader] at lastUdp
      cases lastIp
      cases lastUdp
      exact service.fromClient
    · rw [origins.packetThread]
      exact Aims.openings addressed.aims origins.toOpenings
  · rw [engineStep, if_neg selected]
    exact addressed

theorem Addressed.step {kept : Prop} (addressed : engine.Addressed)
    (ordered : Ordered kept True engine) (event : EngineEvent) :
    (engineStep engine event).Addressed := by
  cases event with
  | handlePacket stream answers =>
      dsimp only [engineStep]
      split
      · exact addressed.handlePacket ordered.placed stream answers
      · exact addressed
  | proceed answers => exact addressed.proceed ordered.working answers
  | select ready id => exact addressed.select ordered ready id

theorem addressed_start (packetIds : Nat → Int) :
    (Engine.start packetIds).Addressed where
  aims := trivial
  blank _ _ := rfl
  fits _ _ := SessionRecord.fitsKey_blank _ rfl

/-- The sessions of which a step may record something. -/
def Touches (engine : Engine) : EngineEvent → Nat → Prop
  | .handlePacket .. => fun _ => False
  | .proceed _ => engine.packetThread.Enters
  | .select _ id => (· = id)

/-- A step adds a session only where the packet thread stands before its
creation. -/
theorem openings_step (engine : Engine) (event : EngineEvent) :
    Openings (fun key => engine.packetThread.opening = some key)
      (Touches engine event) engine (engineStep engine event) := by
  cases event with
  | handlePacket stream answers =>
      dsimp only [engineStep]
      split
      · have origins :=
          (@origins_handlePacket (fun _ => True) engine stream
            ⟨fun _ _ _ _ _ _ _ => trivial, fun _ _ _ _ _ _ _ => trivial⟩
            answers).1
        exact
          ⟨origins.grown, origins.older,
            fun id above below => (origins.newer id above below).elim,
            origins.recorded⟩
      · exact (Std.Refl.refl engine : Origins _ _ engine engine).toOpenings
  | proceed answers =>
      exact (@origins_proceed (fun _ => True) engine answers).1
  | select ready id =>
      have origins := @origins_select engine ready id
      exact
        ⟨origins.grown, origins.older,
          fun id above below => (origins.newer id above below).elim,
          origins.recorded⟩

/-- A session keeps its 5-tuple. -/
theorem Has.run {id : Nat} {key : SessionKey} (has : engine.Has id key)
    (events : List EngineEvent) :
    (run engineStep engine events).Has id key :=
  @run_invariant _ _ engineStep (fun engine => engine.Has id key)
    (fun engine event has => has.openings (openings_step engine event))
    events engine has

end Engine

end LanShield.Vpn
