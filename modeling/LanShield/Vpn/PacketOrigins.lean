import LanShield.Vpn.SessionOrigins

/-!
# Where the packet thread creates sessions

The thread creates a session only where it stands before its creation, for
the 5-tuple it has come with, and it records headers only of the session it
enters.
-/

namespace LanShield.Vpn

open LanShield.Library LanShield.Java LanShield.Transport Program

/-- The 5-tuple the thread is about to create a session for. -/
def PacketThread.opening : PacketThread → Option SessionKey
  | .createUdp datagram => some datagram.sessionKey
  | .createTcp syn _ _ => some syn.sessionKey
  | .idle | .enterUdp .. | .keepUdp _ | .resendAck _ | .populate ..
  | .enterTcp .. | .keepFin _ | .abort _ => none

/-- The session whose monitor the thread is about to take to record headers
in it. -/
def PacketThread.Enters : PacketThread → Nat → Prop
  | .enterUdp _ _ session | .populate _ _ _ session | .enterTcp _ session =>
      (· = session)
  | .idle | .createUdp _ | .keepUdp _ | .createTcp .. | .resendAck _
  | .keepFin _ | .abort _ => fun _ => False

section Creation

variable {allowed : SessionKey → Prop} {own : Nat → Prop}

private theorem opensOnly_allocateSession {object : SessionObject}
    (permitted : allowed object.session.getSessionKey)
    (blank : object.IsBlank) :
    OpensOnly allowed own (allocateSession object) :=
  fun engine => .allocate engine permitted blank

private theorem opensOnly_createNewUDPSession {key : SessionKey}
    (permitted : allowed key) (length : Int) (answers : Answers) :
    OpensOnly allowed own (createNewUDPSession key length answers) := by
  apply (opensOnly_getSession key).bind
  intro existingSession
  split
  · exact respects_pure _
  · apply (opensOnly_platformCall .openChannel answers).bind
    intro _
    apply Respects.bind
    · exact opensOnly_allocateSession permitted rfl
    intro id
    apply (opensOnly_platformCall .configureChannel answers).bind
    intro _
    apply (opensOnly_platformCall .connect answers).bind
    intro _
    apply Respects.bind
    · exact
        opensOnly_updateObject (fun _ => rfl)
          (SessionObject.recorded_mapDatagram (fun _ => rfl) fun _ => rfl)
    intro _
    apply opensOnly_keepSessionAlive.bind
    intro _
    apply (opensOnly_startFlow length false).bind
    intro _
    apply (opensOnly_platformCall .insertFlow answers).bind
    intro _
    exact respects_pure _

private theorem opensOnly_connectSocket (answers : Answers) (id : Nat) :
    OpensOnly allowed own (connectSocket answers id) := by
  apply Respects.ite
  · apply opensOnly_closeChannel.bind
    intro _
    exact respects_throw _
  · exact
      opensOnly_updateObject (fun _ => rfl)
        (SessionObject.recorded_mapSocket _)

private theorem opensOnly_createNewTCPSession {key : SessionKey}
    (permitted : allowed key) (length : Int) (answers : Answers) :
    OpensOnly allowed own (createNewTCPSession key length answers) := by
  apply (opensOnly_getSession key).bind
  intro existingSession
  split
  · exact respects_pure _
  · apply (opensOnly_platformCall .openChannel answers).bind
    intro _
    apply Respects.bind
    · exact opensOnly_allocateSession permitted rfl
    intro id
    apply (opensOnly_platformCall .configureChannel answers).bind
    intro _
    apply (opensOnly_connectSocket answers id).bind
    intro _
    apply (opensOnly_startFlow length answers.connected).bind
    intro _
    apply (opensOnly_platformCall .insertFlow answers).bind
    intro _
    apply opensOnly_keepSessionAlive.bind
    intro _
    exact respects_pure _

private theorem opensOnly_registerSession (answers : Answers) (id : Nat) :
    OpensOnly allowed own (NioThread.registerSession answers id) := by
  apply (opensOnly_platformCall .registerSession answers).bind
  intro _
  apply opensOnly_readObject.bind
  intro object
  apply Respects.ite
  · exact opensOnly_updateObject (fun _ => rfl) fun _ => rfl
  · exact respects_throw _

end Creation

namespace PacketHandling

variable {allowed : SessionKey → Prop} {own : Nat → Prop} {id : Nat}

private theorem opensOnly_sendAck (segment : TcpSegment)
    (acceptedDataLength : Nat)
    (currentTime : Int) :
    OpensOnly allowed own
      (sendAck segment acceptedDataLength currentTime id) := by
  apply opensOnly_readSession.bind
  intro session
  apply Respects.bind
  · exact opensOnly_updateSession fun _ => ⟨rfl, rfl, rfl, rfl⟩
  intro _
  exact opensOnly_sendPacket _

private theorem opensOnly_resendAck (currentTime : Int) :
    OpensOnly allowed own (resendAck currentTime id) := by
  apply opensOnly_readSession.bind
  intro session
  split
  · exact opensOnly_sendPacket _
  · exact respects_throw _

private theorem opensOnly_sendFinAck (segment : TcpSegment)
    (currentTime : Int) :
    OpensOnly allowed own (sendFinAck segment currentTime id) := by
  apply (opensOnly_sendPacket _).bind
  intro _
  exact opensOnly_updateSession fun _ => ⟨rfl, rfl, rfl, rfl⟩

private theorem opensOnly_pushDataToDestination (tcp : TCPHeader)
    (currentTime : Int) :
    OpensOnly allowed own (pushDataToDestination tcp currentTime id) := by
  apply Respects.bind
  · exact opensOnly_updateSession fun _ => ⟨rfl, rfl, rfl, rfl⟩
  intro _
  exact opensOnly_subscribeKey .write

private theorem opensOnly_resetTCPConnection (segment : TcpSegment) :
    OpensOnly allowed own (resetTCPConnection segment) := by
  apply (opensOnly_getSession _).bind
  intro session
  split
  · exact respects_pure _
  · exact opensOnly_setAbortingConnection

private theorem opensOnly_handleData (mine : own id) (segment : TcpSegment)
    (currentTime : Int) :
    OpensOnly allowed own (handleData segment currentTime id) := by
  apply opensOnly_readSession.bind
  intro session
  apply Respects.ite
  · apply (opensOnly_addClientData mine _).bind
    intro addedLength
    exact opensOnly_sendAck segment addedLength currentTime
  · exact opensOnly_sendPacket _

private theorem opensOnly_handleAck (mine : own id) (segment : TcpSegment)
    (currentTime : Int) :
    OpensOnly allowed own (handleAck segment currentTime id) := by
  apply Respects.bind
  · apply opensOnly_updateOwn mine
    intro session
    exact (SessionStep.acceptAck _ currentTime session).key
  intro _
  apply opensOnly_readSession.bind
  intro session
  apply Respects.ite
  · exact opensOnly_sendFinAck segment currentTime
  apply Respects.ite
  · exact opensOnly_closeSession _
  · exact respects_pure _

private theorem opensOnly_handleBody (mine : own id) (segment : TcpSegment)
    (currentTime : Int) :
    OpensOnly allowed own (handleBody segment currentTime id) := by
  apply Respects.bind
  · exact opensOnly_updateOwn mine fun _ => rfl
  intro _
  apply Respects.ite
  · exact opensOnly_handleData mine segment currentTime
  · exact opensOnly_handleAck mine segment currentTime

private theorem opensOnly_ackFinAck (segment : TcpSegment)
    (currentTime : Int) :
    OpensOnly allowed own (ackFinAck segment currentTime id) := by
  apply (opensOnly_sendPacket _).bind
  intro _
  apply opensOnly_cancelKey.bind
  intro _
  apply opensOnly_closeSessionOf.bind
  intro _
  exact opensOnly_setAbortingConnection

private theorem opensOnly_handleFlags (segment : TcpSegment)
    (currentTime : Int) :
    OpensOnly allowed own (handleFlags segment currentTime id) := by
  apply Respects.ite
  · exact opensOnly_pushDataToDestination _ currentTime
  apply Respects.ite
  · exact opensOnly_ackFinAck segment currentTime
  apply Respects.ite
  · exact opensOnly_resetTCPConnection segment
  · exact respects_pure _

private theorem opensOnly_finishSegment (mine : own id) :
    OpensOnly allowed own (finishSegment id) := by
  apply opensOnly_readSession.bind
  intro session
  apply Respects.ite
  · exact respects_pure _
  · apply opensOnly_keepSessionAlive.bind
    intro _
    exact NioThread.opensOnly_pumpToClient mine

private theorem opensOnly_handleSessionSegment (mine : own id)
    (segment : TcpSegment) (currentTime : Int) :
    OpensOnly allowed own (handleSessionSegment segment currentTime id) := by
  apply (opensOnly_handleBody mine segment currentTime).bind
  intro _
  apply (opensOnly_handleFlags segment currentTime).bind
  intro _
  exact opensOnly_finishSegment mine

/-- The end of the monitor block of `handleUDPPacket`. -/
def announceDatagram (newSession : Bool) (answers : Answers) (id : Nat) :
    Running Unit := do
  updateSession id fun session =>
    { session with isDataForSendingReady := true }
  if newSession then do
    NioThread.registerSession answers id
    subscribeKey .write id
  else
    subscribeKey .write id

private theorem handleDatagram_eq (datagram : UdpDatagram) (newSession : Bool)
    (answers : Answers) :
    handleDatagram datagram newSession answers id =
      updateSession id (noteDatagram datagram) >>= fun _ =>
        addClientData datagram.data id >>= fun _ =>
          announceDatagram newSession answers id :=
  rfl

theorem opensOnly_announceDatagram (newSession : Bool)
    (answers : Answers) :
    OpensOnly allowed own (announceDatagram newSession answers id) := by
  apply Respects.bind
  · exact opensOnly_updateSession fun _ => ⟨rfl, rfl, rfl, rfl⟩
  intro _
  apply Respects.ite
  · apply (opensOnly_registerSession answers id).bind
    intro _
    exact opensOnly_subscribeKey .write
  · exact opensOnly_subscribeKey .write

private theorem opensOnly_handleDatagram (mine : own id)
    (datagram : UdpDatagram)
    (newSession : Bool) (answers : Answers) :
    OpensOnly allowed own
      (handleDatagram datagram newSession answers id) := by
  rw [handleDatagram_eq]
  apply Respects.bind
  · exact opensOnly_updateOwn mine fun _ => rfl
  intro _
  apply (opensOnly_addClientData mine _).bind
  intro _
  exact opensOnly_announceDatagram newSession answers

private theorem opensOnly_populate (mine : own id) (syn : TcpSegment)
    (packet : Packet) (data : List UInt8) (answers : Answers) :
    OpensOnly allowed own (populate syn packet data answers id) := by
  apply Respects.bind
  · exact opensOnly_updateOwn mine fun _ => rfl
  intro _
  apply (opensOnly_registerSession answers id).bind
  intro _
  exact opensOnly_write data

/-- A step of the thread creates a session only where it stands before its
creation. -/
theorem opensOnly_proceed (thread : PacketThread) (answers : Answers) :
    OpensOnly (fun key => thread.opening = some key) thread.Enters
      (proceed answers thread) := by
  cases thread with
  | idle => exact respects_pure _
  | createUdp datagram =>
      apply Respects.bind
      · refine opensOnly_createNewUDPSession ?_ _ answers
        rfl
      · intro id
        exact respects_pure _
  | enterUdp datagram newSession id =>
      apply Respects.bind
      · refine opensOnly_handleDatagram ?_ datagram newSession answers
        rfl
      · intro _
        exact respects_pure _
  | keepUdp id | keepFin id =>
      apply opensOnly_keepSessionAlive.bind
      intro _
      exact respects_pure _
  | createTcp syn packet data =>
      apply Respects.bind
      · refine opensOnly_createNewTCPSession ?_ _ answers
        rfl
      · intro id
        apply opensOnly_readSession.bind
        intro session
        apply Respects.ite
        · exact respects_pure _
        · exact respects_pure _
  | resendAck id =>
      apply (opensOnly_resendAck _).bind
      intro _
      exact respects_pure _
  | populate syn packet data id =>
      apply Respects.bind
      · refine opensOnly_populate ?_ syn packet data answers
        rfl
      · intro _
        exact respects_pure _
  | enterTcp segment id =>
      apply Respects.bind
      · refine opensOnly_handleSessionSegment ?_ segment _
        rfl
      · intro _
        exact respects_pure _
  | abort id =>
      apply opensOnly_setAbortingConnection.bind
      intro _
      exact respects_pure _

private theorem opensOnly_handleUnknown (segment : TcpSegment)
    (currentTime : Int) :
    OpensOnly allowed own (handleUnknown segment currentTime) := by
  apply Respects.ite
  · exact opensOnly_sendPacket _
  apply Respects.ite
  · exact respects_pure _
  · exact opensOnly_sendPacket _

private theorem opensOnly_parsed {Header : Type} (header : Reading Header)
    (stream : ByteBuffer) : OpensOnly allowed own (parsed header stream) := by
  unfold parsed
  split
  · exact respects_pure _
  · exact respects_throw _

private theorem opensOnly_handleTCPPacket (segment : TcpSegment)
    (answers : Answers) :
    OpensOnly allowed own (handleTCPPacket segment answers) := by
  apply Respects.ite
  · apply (opensOnly_buildPacket _).bind
    intro data
    exact respects_pure _
  apply Respects.ite
  · apply (opensOnly_getSession _).bind
    intro session
    split
    · exact respects_pure _
    · apply (opensOnly_handleUnknown segment _).bind
      intro _
      exact respects_pure _
  apply Respects.ite
  · apply (opensOnly_getSession _).bind
    intro session
    split
    · exact respects_pure _
    · apply (opensOnly_sendPacket _).bind
      intro _
      exact respects_pure _
  apply Respects.ite
  · apply (opensOnly_getSession _).bind
    intro session
    split
    · exact respects_pure _
    · exact respects_pure _
  · exact respects_pure _

private theorem opensOnly_handleUDPPacket (datagram : UdpDatagram) :
    OpensOnly allowed own (handleUDPPacket datagram) := by
  apply (opensOnly_getSession _).bind
  intro session
  split
  · exact respects_pure _
  · exact respects_pure _

private theorem opensOnly_handlePacket (stream : ByteBuffer)
    (answers : Answers) :
    OpensOnly allowed own (handlePacket stream answers) := by
  apply (opensOnly_parsed _ _).bind
  rintro ⟨ipHeader, stream⟩
  dsimp only
  split
  · apply (opensOnly_parsed _ _).bind
    rintro ⟨tcpheader, data⟩
    exact opensOnly_handleTCPPacket _ answers
  · apply (opensOnly_parsed _ _).bind
    rintro ⟨udpheader, data⟩
    exact opensOnly_handleUDPPacket _
  · exact respects_pure _
  · exact respects_pure _
  · exact respects_pure _

/-- What follows a parser starts from the header it has read, and from the
same engine. -/
theorem ends_parsed {Header Last : Type} {header : Reading Header}
    {stream : ByteBuffer} {next : Header × ByteBuffer → Running Last}
    {returns : Last → Engine → Prop} {throws : Engine → Prop}
    {engine : Engine}
    (right :
      ∀ value after, header stream = .ok (value, after) →
        Ends returns throws (next (value, after)) engine)
    (failed :
      ∀ exception, header stream = .error exception → throws engine) :
    Ends returns throws (parsed header stream >>= next) engine := by
  rw [parsed]
  cases read : header stream with
  | ok result => exact right result.1 result.2 read
  | error exception => exact ends_throw (failed exception read)

/-- Nothing is asked of what comes first. -/
theorem ends_after {First Last : Type} {first : Running First}
    {next : First → Running Last} {returns : Last → Engine → Prop}
    {engine : Engine}
    (right :
      ∀ value after, Ends returns (fun _ => True) (next value) after) :
    Ends returns (fun _ => True) (first >>= next) engine := by
  have anything :
      Ends (fun _ _ => True) (fun _ => True) first engine := by
    rw [Ends]
    rcases first.outcome engine with ⟨exception | value, after⟩
    · trivial
    · trivial
  exact anything.bind fun value after _ => right value after

/-- The program returns only where the thread stands so. -/
abbrev Continues (stands : PacketThread → Prop)
    (program : Running PacketThread) : Prop :=
  ∀ engine,
    Ends (fun next _ => stands next) (fun _ => True) program engine

section Continues

variable {stands : PacketThread → Prop}

theorem Continues.after {Value : Type} {first : Running Value}
    {next : Value → Running PacketThread}
    (right : ∀ value, Continues stands (next value)) :
    Continues stands (first >>= next) := by
  intro engine
  exact ends_after fun value after => right value after

private theorem continues_parsed {Header : Type} {header : Reading Header}
    {stream : ByteBuffer} {next : Header × ByteBuffer → Running PacketThread}
    (right :
      ∀ value after, header stream = .ok (value, after) →
        Continues stands (next (value, after))) :
    Continues stands (parsed header stream >>= next) :=
  fun engine =>
    ends_parsed (fun value after read => right value after read engine)
      fun _ _ => trivial

end Continues

/-- Where the thread creates a session it is for an allowed 5-tuple. -/
def OpensFor (allowed : SessionKey → Prop) (thread : PacketThread) : Prop :=
  ∀ key, thread.opening = some key → allowed key

/-- Where no session is created. -/
private theorem opensFor_of_none {thread : PacketThread}
    (opening : thread.opening = none) : OpensFor allowed thread := by
  intro key isOpening
  rw [opening] at isOpening
  cases isOpening

private theorem continues_idle {next : PacketThread}
    (opening : next.opening = none) :
    Continues (OpensFor allowed) (pure next) :=
  fun _ => ends_pure (opensFor_of_none opening)

private theorem continues_proceed (thread : PacketThread)
    (answers : Answers) :
    Continues (OpensFor allowed) (proceed answers thread) := by
  cases thread with
  | idle => exact continues_idle rfl
  | createUdp | enterUdp | keepUdp | resendAck | populate | enterTcp
  | keepFin | abort => exact .after fun _ => continues_idle rfl
  | createTcp syn packet data =>
      refine .after fun id => .after fun session => ?_
      intro engine
      split
      · exact continues_idle rfl engine
      · exact continues_idle rfl engine

private theorem continues_handleTCPPacket {segment : TcpSegment}
    (permitted : allowed segment.sessionKey) (answers : Answers) :
    Continues (OpensFor allowed) (handleTCPPacket segment answers) := by
  rw [handleTCPPacket]
  split
  · refine .after fun data => fun _ => ends_pure ?_
    intro key opening
    cases opening
    exact permitted
  split
  · refine .after fun session => ?_
    split
    · exact continues_idle rfl
    · exact .after fun _ => continues_idle rfl
  split
  · refine .after fun session => ?_
    split
    · exact continues_idle rfl
    · exact .after fun _ => continues_idle rfl
  split
  · refine .after fun session => ?_
    split
    · exact continues_idle rfl
    · exact continues_idle rfl
  · exact continues_idle rfl

private theorem continues_handleUDPPacket {datagram : UdpDatagram}
    (permitted : allowed datagram.sessionKey) :
    Continues (OpensFor allowed) (handleUDPPacket datagram) := by
  refine .after fun session => ?_
  split
  · exact continues_idle rfl
  · refine fun _ => ends_pure ?_
    intro key opening
    cases opening
    exact permitted

/-- The 5-tuples of a packet that are allowed, by its two headers. -/
structure Permits (allowed : SessionKey → Prop) (stream : ByteBuffer) :
    Prop where
  tcp :
    ∀ ipHeader behindIp tcpheader data,
      createIPHeader stream.rewind = .ok (ipHeader, behindIp) →
        ipHeader.getProtocol = some .tcp →
          TCPPacketFactory.createTCPHeader behindIp =
              .ok (tcpheader, data) →
            allowed (TcpSegment.sessionKey ⟨ipHeader, tcpheader, data⟩)
  udp :
    ∀ ipHeader behindIp udpheader data,
      createIPHeader stream.rewind = .ok (ipHeader, behindIp) →
        ipHeader.getProtocol = some .udp →
          UDPPacketFactory.createUDPHeader behindIp =
              .ok (udpheader, data) →
            allowed (UdpDatagram.sessionKey ⟨ipHeader, udpheader, data⟩)

private theorem continues_handlePacket {stream : ByteBuffer}
    (permits : Permits allowed stream) (answers : Answers) :
    Continues (OpensFor allowed) (handlePacket stream answers) := by
  rw [handlePacket]
  refine continues_parsed fun ipHeader behindIp readIp => ?_
  dsimp only
  split
  · next tcp =>
    refine continues_parsed fun tcpheader data readTcp => ?_
    exact
      continues_handleTCPPacket
        (permits.tcp ipHeader behindIp tcpheader data readIp tcp readTcp)
        answers
  · next udp =>
    refine continues_parsed fun udpheader data readUdp => ?_
    exact
      continues_handleUDPPacket
        (permits.udp ipHeader behindIp udpheader data readIp udp readUdp)
  · exact continues_idle rfl
  · exact continues_idle rfl
  · exact continues_idle rfl

end PacketHandling

/-- Where the packet thread is about to create a session it is for an allowed
5-tuple. -/
def Engine.Permitted (allowed : SessionKey → Prop) (engine : Engine) :
    Prop :=
  PacketHandling.OpensFor allowed engine.packetThread

section Steps

variable {allowed : SessionKey → Prop} {own : Nat → Prop}
  {engine : Engine}

open PacketHandling

private theorem runPacketStep_origins {program : Running PacketThread}
    {opened : SessionKey → Prop} (opens : OpensOnly opened own program)
    (continues : Continues (OpensFor allowed) program) :
    Openings opened own engine (runPacketStep program engine) ∧
      (runPacketStep program engine).Permitted allowed := by
  have origins := opens engine
  have next := continues engine
  rw [final] at origins
  rw [Ends] at next
  rw [runPacketStep]
  rcases ended : program.outcome engine with ⟨exception | thread, after⟩
  · rw [ended] at origins
    refine
      ⟨⟨origins.grown, origins.older, origins.newer, origins.recorded⟩, ?_⟩
    intro key opening
    cases opening
  · rw [ended] at origins next
    exact
      ⟨⟨origins.grown, origins.older, origins.newer, origins.recorded⟩,
        next⟩

/-- A packet adds no session yet, and records nothing. -/
theorem origins_handlePacket {stream : ByteBuffer}
    (permits : Permits allowed stream) (answers : Answers) :
    Openings (fun _ => False) (fun _ => False) engine
        (runPacketStep (handlePacket stream answers) engine) ∧
      (runPacketStep (handlePacket stream answers) engine).Permitted
        allowed :=
  runPacketStep_origins
    (opensOnly_handlePacket stream answers)
    (continues_handlePacket permits answers)

/-- A step of the packet thread adds a session for the 5-tuple it stands
before. -/
theorem origins_proceed (answers : Answers) :
    Openings (fun key => engine.packetThread.opening = some key)
        engine.packetThread.Enters engine
        (engineStep engine (.proceed answers)) ∧
      (engineStep engine (.proceed answers)).Permitted allowed :=
  runPacketStep_origins (opensOnly_proceed _ answers)
    (continues_proceed _ answers)

end Steps

end LanShield.Vpn
