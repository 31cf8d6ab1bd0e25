import LanShield.Vpn.CountedTraffic
import LanShield.Vpn.StoredHeaders

/-!
# The byte counters of a flow

`dataIngress` and `dataEgress` of a session's flow are compared with what its
channel has moved, in every state the two threads reach behind the step that
has opened the session.
-/

namespace LanShield.Vpn

open LanShield.Library LanShield.Java LanShield.Transport Program

/-! ## A step of the NIO thread -/

namespace NioThread

open SocketNIODataService

variable {id : Nat} {engine : Engine}

/-- `finishConnect` moves no data. -/
private theorem undisturbed_connectAnswered (connected : Bool)
    (object : SessionObject) :
    object.Undisturbed True True (connectAnswered connected object) := by
  obtain ⟨session, channel, isRegistered⟩ := object
  cases channel with
  | socket channel =>
      cases connected with
      | true => exact ⟨rfl, fun _ => rfl, fun _ => rfl⟩
      | false => exact ⟨rfl, fun _ => rfl, fun _ => rfl⟩
  | datagram channel => exact ⟨rfl, fun _ => rfl, fun _ => rfl⟩

private theorem meets_processConnectable (ready : Readiness) :
    Meets (fun _ after => Undisturbed True True engine after)
      (fun _ after => Undisturbed True True engine after)
      (processConnectable ready id) engine := by
  apply meets_readObject
  split
  · next channel _ =>
    split
    · rw [finishConnecting]
      split
      · split
        · apply meets_modify_bind
          exact .update (SessionObject.undisturbed_closeChannel _)
        · exact .update (undisturbed_connectAnswered _ _)
      · exact .refl engine
    · exact .refl engine
  · exact .refl engine

private theorem writesWhole_of_losesCount {ready : Readiness}
    {object : SessionObject}
    (valid : object.session.selectionkey.isValid = true)
    (keeps : object.losesCount ready = false) :
    WritesWhole ready object := by
  intro isWritable isReady
  rw [SessionObject.losesCount, valid, isWritable, isReady] at keeps
  exact keeps

/-- Both counters grow by what has moved, unless the thread ends. -/
private theorem meets_processSelectionKey (ready : Readiness) :
    Meets
      (fun _ after =>
        Tallied id ((engine.sessions id).losesCount ready = false) engine
          after)
      (fun failure after =>
        failure = .io →
          Tallied id ((engine.sessions id).losesCount ready = false) engine
            after)
      (processSelectionKey ready id) engine := by
  have idle {after : Engine} (moved : Moved id 0 0 0 0 engine after) :
      Tallied id ((engine.sessions id).losesCount ready = false) engine
        after :=
    ⟨0, 0, 0, moved, fun _ => rfl⟩
  apply meets_readSession
  split
  · next valid =>
    have connectable :
        Meets (fun _ after => Undisturbed True True engine after)
          (fun failure after =>
            failure = .io →
              Tallied id ((engine.sessions id).losesCount ready = false)
                engine after)
          (processConnectable ready id) engine :=
      (meets_processConnectable ready).imp (fun _ _ same => same)
        fun _ _ same _ => idle (same.moved fun _ => trivial)
    apply connectable.bind
    intro _ middle undisturbed
    have first : ReadIn id 0 0 engine middle :=
      undisturbed.readIn fun _ => trivial
    apply meets_readObject
    split
    · apply (meets_processConnectedSelection ready).imp
      · rintro _ after ⟨read, sent, count, moved, all⟩
        refine ⟨read, sent, count, first.moved.followed moved, ?_⟩
        intro keeps
        have whole := writesWhole_of_losesCount valid keeps
        exact all (whole.congr first.upload first.moved.kind)
      · exact fun _ _ other same => (other same).elim
    · exact idle first.moved
  · exact idle (.refl engine)

/-- While the thread goes on, a step keeps both counters. -/
private theorem tallied_runSelectedKey {ready : Readiness}
    (running : (runSelectedKey ready id engine).nioThread = .running) :
    Tallied id ((engine.sessions id).losesCount ready = false) engine
      (runSelectedKey ready id engine) := by
  have meets := @meets_processSelectionKey id engine ready
  rw [Meets] at meets
  rw [runSelectedKey] at running ⊢
  rcases ended : (processSelectionKey ready id).outcome engine with
    ⟨failure | value, after⟩
  · rw [ended] at meets running
    cases failure with
    | io =>
        obtain ⟨read, sent, count, moved, all⟩ := meets rfl
        have cancelled :
            Undisturbed True True after
              (after.updateObject id
                (SessionObject.updateSession Session.cancelKey)) :=
          .update ⟨rfl, fun _ => rfl, fun _ => rfl⟩
        exact
          ⟨read, sent, count,
            moved.settled (cancelled.moved fun _ => trivial), all⟩
    | java exception => cases running
    | nullPointer => cases running
  · rw [ended] at meets
    exact meets

end NioThread

/-! ## The packet thread -/

namespace PacketHandling

section Calm

variable {reading : Prop} {id : Nat}

private theorem calm_sendAck (segment : TcpSegment) (acceptedDataLength : Nat)
    (currentTime : Int) :
    Calm reading False (sendAck segment acceptedDataLength currentTime id) := by
  apply calm_readSession
  intro session
  apply Calm.bind
  · exact calm_plain (fun _ => rfl) (fun _ => rfl) fun _ => rfl
  · intro _
    exact calm_sendPacket _

private theorem calm_resendAck (currentTime : Int) :
    Calm reading False (resendAck currentTime id) := by
  apply calm_readSession
  intro session
  split
  · exact calm_sendPacket _
  · exact calm_throw nofun

private theorem calm_sendFinAck (segment : TcpSegment) (currentTime : Int) :
    Calm reading False (sendFinAck segment currentTime id) := by
  apply (calm_sendPacket _).bind
  intro _
  exact calm_plain (fun _ => rfl) (fun _ => rfl) fun _ => rfl

private theorem calm_ackFinAck (segment : TcpSegment) (currentTime : Int) :
    Calm reading False (ackFinAck segment currentTime id) := by
  apply (calm_sendPacket _).bind
  intro _
  apply calm_cancelKey.bind
  intro _
  apply calm_closeSessionOf.bind
  intro _
  exact calm_setAbortingConnection

private theorem calm_pushDataToDestination (tcp : TCPHeader)
    (currentTime : Int) :
    Calm False False (pushDataToDestination tcp currentTime id) := by
  apply Calm.bind
  · exact calm_updateSession (fun _ => ⟨rfl, rfl⟩) False.elim False.elim
  · intro _
    exact calm_subscribeKey .write

private theorem calm_resetTCPConnection (segment : TcpSegment) :
    Calm reading False (resetTCPConnection segment) := by
  apply calm_getSession
  intro session
  cases session with
  | none => exact calm_pure _
  | some other => exact calm_setAbortingConnection

private theorem calm_addClientData (buffer : ByteBuffer) :
    Calm False False (addClientData buffer id) := by
  apply Calm.ite
  · exact calm_pure _
  · apply (NioThread.calm_setSendingData buffer).bind
    intro _
    exact calm_pure _

/-! ## The monitor block of `handleTCPPacket` -/

private theorem calm_handleData (segment : TcpSegment) (currentTime : Int) :
    Calm False False (handleData segment currentTime id) := by
  apply calm_readSession
  intro session
  apply Calm.ite
  · apply (calm_addClientData segment.data).bind
    intro addedLength
    exact calm_sendAck segment addedLength currentTime
  · exact calm_sendPacket _

private theorem acceptAck_keeps (tcpheader : TCPHeader) (currentTime : Int)
    (session : Session) :
    (SessionHandler.acceptAck tcpheader currentTime session).flow =
      session.flow := by
  by_cases advances : SessionHandler.Advances session tcpheader
  · rw [SessionHandler.acceptAck_advances advances]
  · rw [SessionHandler.acceptAck_stale advances]

private theorem calm_handleAck (segment : TcpSegment) (currentTime : Int) :
    Calm False False (handleAck segment currentTime id) := by
  apply Calm.bind
  · apply calm_updateSession ?_ False.elim False.elim
    intro session
    rw [acceptAck_keeps]
    exact ⟨rfl, rfl⟩
  · intro _
    apply calm_readSession
    intro session
    apply Calm.ite
    · exact calm_sendFinAck segment currentTime
    · apply Calm.ite
      · exact calm_closeSession segment.sessionKey
      · exact calm_pure _

private theorem calm_handleFlags (segment : TcpSegment) (currentTime : Int) :
    Calm False False (handleFlags segment currentTime id) := by
  apply Calm.ite
  · exact calm_pushDataToDestination segment.tcpheader currentTime
  · apply Calm.ite
    · exact calm_ackFinAck segment currentTime
    · apply Calm.ite
      · exact calm_resetTCPConnection segment
      · exact calm_pure _

private theorem calm_handleSessionSegment (segment : TcpSegment)
    (currentTime : Int) :
    Calm False False (handleSessionSegment segment currentTime id) := by
  have body : Calm False False (handleBody segment currentTime id) := by
    apply Calm.bind
    · exact calm_updateSession (fun _ => ⟨rfl, rfl⟩) False.elim False.elim
    · intro _
      apply Calm.ite
      · exact calm_handleData segment currentTime
      · exact calm_handleAck segment currentTime
  have finish : Calm False False (finishSegment id) := by
    apply calm_readSession
    intro session
    apply Calm.ite
    · exact calm_pure _
    · apply calm_keepSessionAlive.bind
      intro _
      exact NioThread.calm_pumpToClient
  apply body.bind
  intro _
  apply (calm_handleFlags segment currentTime).bind
  intro _
  exact finish

/-! ## Lookups -/

private theorem calm_handleUnknown (segment : TcpSegment)
    (currentTime : Int) :
    Calm reading False (handleUnknown segment currentTime) := by
  apply Calm.ite
  · exact calm_sendPacket _
  · apply Calm.ite
    · exact calm_pure _
    · exact calm_sendPacket _

private theorem calm_handleTCPPacket (segment : TcpSegment)
    (answers : Answers) :
    Calm False False (handleTCPPacket segment answers) := by
  apply Calm.ite
  · apply (calm_buildPacket _).bind
    intro data
    exact calm_pure _
  · apply Calm.ite
    · apply calm_getSession
      intro session
      cases session with
      | some other => exact calm_pure _
      | none =>
          apply (calm_handleUnknown segment answers.currentTime).bind
          intro _
          exact calm_pure _
    · apply Calm.ite
      · apply calm_getSession
        intro session
        cases session with
        | some other => exact calm_pure _
        | none =>
            apply (calm_sendPacket _).bind
            intro _
            exact calm_pure _
      · apply Calm.ite
        · apply calm_getSession
          intro session
          cases session with
          | some other => exact calm_pure _
          | none => exact calm_pure _
        · exact calm_pure _

private theorem calm_handleUDPPacket (datagram : UdpDatagram) :
    Calm reading False (handleUDPPacket datagram) := by
  apply calm_getSession
  intro session
  cases session with
  | some other => exact calm_pure _
  | none => exact calm_pure _

private theorem calm_parsed {Header : Type} (header : Reading Header)
    (stream : ByteBuffer) : Calm reading False (parsed header stream) := by
  rw [parsed]
  cases header stream with
  | ok result => exact calm_pure _
  | error exception => exact calm_throw (by simp)

private theorem calm_handlePacket (stream : ByteBuffer) (answers : Answers) :
    Calm False False (handlePacket stream answers) := by
  apply (calm_parsed createIPHeader stream.rewind).bind
  rintro ⟨ipHeader, stream⟩
  dsimp only
  cases ipHeader.getProtocol with
  | none => exact calm_pure _
  | some protocol =>
      cases protocol with
      | tcp =>
          apply (calm_parsed TCPPacketFactory.createTCPHeader stream).bind
          rintro ⟨tcpheader, data⟩
          exact calm_handleTCPPacket _ answers
      | udp =>
          apply (calm_parsed UDPPacketFactory.createUDPHeader stream).bind
          rintro ⟨udpheader, data⟩
          exact calm_handleUDPPacket _
      | icmp => exact calm_pure _
      | unknown => exact calm_pure _

end Calm

end PacketHandling

/-! ## Sessions that are opened -/

/-- Nothing has moved for the session yet. -/
structure SessionObject.Fresh (object : SessionObject) : Prop where
  streamed : object.channel.streamedBytes = 0
  accepted : object.channel.acceptedBytes = 0
  dataIngress : object.session.flow.dataIngress = 0

/-- The sessions of `base` have their traffic and their counters, and those
opened since then have moved nothing. -/
structure Extended (base engine : Engine) : Prop where
  nioThread : engine.nioThread = base.nioThread
  grown : base.allocated ≤ engine.allocated
  old :
    ∀ id, id < base.allocated →
      (engine.sessions id).ledger = (base.sessions id).ledger
  fresh :
    ∀ id, base.allocated ≤ id → id < engine.allocated →
      (engine.sessions id).Fresh

section Extended

variable {base engine after : Engine} {id : Nat} {Value : Type}

theorem Extended.refl (engine : Engine) : Extended engine engine :=
  ⟨rfl, le_refl _, fun _ _ => rfl,
    fun _ above below => absurd below (Nat.not_lt.mpr above)⟩

theorem SessionObject.Fresh.congr {object other : SessionObject}
    (fresh : object.Fresh) (same : other.ledger = object.ledger) :
    other.Fresh where
  streamed := (congrArg Ledger.streamed same).trans fresh.streamed
  accepted := (congrArg Ledger.accepted same).trans fresh.accepted
  dataIngress := (congrArg Ledger.dataIngress same).trans fresh.dataIngress

theorem Extended.undisturbed {reading silent : Prop}
    (opening : Extended base engine)
    (undisturbed : Undisturbed reading silent engine after) :
    Extended base after where
  nioThread := undisturbed.nioThread.trans opening.nioThread
  grown := by
    rw [undisturbed.allocated]
    exact opening.grown
  old id below := (undisturbed.ledger id).trans (opening.old id below)
  fresh id above below := by
    rw [undisturbed.allocated] at below
    exact (opening.fresh id above below).congr (undisturbed.ledger id)

/-- A session object without traffic joins the others. -/
theorem Extended.allocate {object : SessionObject}
    (opening : Extended base engine) (fresh : object.Fresh) :
    Extended base (engine.allocate object) where
  nioThread := opening.nioThread
  grown := Nat.le_succ_of_le opening.grown
  old id below := by
    have other : id ≠ engine.allocated := by
      have grown := opening.grown
      omega
    rw [← opening.old id below]
    show
      (Function.update engine.sessions engine.allocated object id).ledger = _
    rw [Function.update_of_ne other]
  fresh id above below := by
    show (Function.update engine.sessions engine.allocated object id).Fresh
    by_cases new : id = engine.allocated
    · rw [new, Function.update_self]
      exact fresh
    · rw [Function.update_of_ne new]
      have below : id < engine.allocated + 1 := below
      exact opening.fresh id above (by omega)

/-- The flow of a new session starts with the packet that has opened it. -/
theorem Extended.startFlow (opening : Extended base engine)
    (new : base.allocated ≤ id) (length : Int) (connected : Bool) :
    Extended base
      (engine.updateObject id
        (SessionObject.updateSession fun session =>
          { session with
            flow :=
              { session.flow.increaseEgress 1 length with
                tcpEstablishedReached := connected } })) where
  nioThread := opening.nioThread
  grown := opening.grown
  old other below := by
    rw [Engine.updateObject_of_ne (Nat.ne_of_lt (by omega))]
    exact opening.old other below
  fresh other above below := by
    by_cases same : other = id
    · rw [same, Engine.updateObject_self]
      obtain ⟨streamed, accepted, dataIngress⟩ :=
        opening.fresh id new (same ▸ below)
      exact ⟨streamed, accepted, dataIngress⟩
    · rw [Engine.updateObject_of_ne same]
      exact opening.fresh other above below

/-- However the program ends, it only opens sessions. -/
abbrev Opens (base : Engine) (program : Running Value) (engine : Engine) :
    Prop :=
  Ends (fun _ after => Extended base after) (Extended base) program engine

theorem Extended.calm {program : Running Value}
    (opening : Extended base engine) (calm : Calm False False program) :
    Opens base program engine := by
  have meets := calm.meets engine
  rw [Meets] at meets
  rw [Opens, Ends]
  rcases ended : program.outcome engine with ⟨failure | value, after⟩
  · rw [ended] at meets
    exact opening.undisturbed meets.1
  · rw [ended] at meets
    exact opening.undisturbed meets

/-- A calm program may be followed by one that opens sessions. -/
theorem Extended.before {Last : Type} {program : Running Value}
    {next : Value → Running Last} (opening : Extended base engine)
    (calm : Calm False False program)
    (right :
      ∀ value after, Extended base after → Opens base (next value) after) :
    Opens base (program >>= next) engine :=
  (opening.calm calm).bind right

private theorem calm_connectUdp {reading silent : Prop} :
    Calm reading silent
      (modify (Engine.updateObject id connectUdp) : Running Unit) := by
  apply calm_modify
  intro engine
  apply Undisturbed.update
  rcases engine.sessions id with ⟨session, channel, isRegistered⟩
  cases channel with
  | socket channel => exact ⟨rfl, fun _ => rfl, fun _ => rfl⟩
  | datagram channel => exact ⟨rfl, fun _ => rfl, fun _ => rfl⟩

/-- The history of a channel that has been connected or closed is what it
was. -/
private theorem undisturbed_connectTcp (engine : Engine) (id : Nat)
    (connected : Bool) :
    Undisturbed False False engine
      (engine.updateObject id (connectTcp connected)) := by
  apply Undisturbed.update
  rcases engine.sessions id with ⟨session, channel, isRegistered⟩
  cases channel with
  | socket channel => exact ⟨rfl, fun _ => rfl, fun _ => rfl⟩
  | datagram channel => exact ⟨rfl, fun _ => rfl, fun _ => rfl⟩

theorem undisturbed_closeChannel (engine : Engine) (id : Nat) :
    Undisturbed False False engine
      (engine.updateObject id SessionObject.closeChannel) :=
  .update (SessionObject.undisturbed_closeChannel _)

private theorem opens_createNewUDPSession (opening : Extended base engine)
    (key : SessionKey) (length : Int) (answers : Answers) :
    Opens base (createNewUDPSession key length answers) engine := by
  apply ends_getSession
  cases engine.table key with
  | some id => exact opening
  | none =>
      have opened : Extended base (engine.allocate (newUdpObject key)) :=
        opening.allocate ⟨rfl, rfl, rfl⟩
      have new : base.allocated ≤ engine.allocated := opening.grown
      apply ends_platformCall opening
      apply ends_allocateSession
      apply ends_platformCall opened
      apply ends_platformCall opened
      apply opened.before calm_connectUdp
      intro _ connected opened
      apply opened.before calm_keepSessionAlive
      intro _ alive opened
      apply ends_modify_bind
      have started := opened.startFlow new length false
      apply ends_platformCall started
      exact started

private theorem opens_createNewTCPSession (opening : Extended base engine)
    (key : SessionKey) (length : Int) (answers : Answers) :
    Opens base (createNewTCPSession key length answers) engine := by
  apply ends_getSession
  cases engine.table key with
  | some id => exact opening
  | none =>
      have opened : Extended base (engine.allocate (newTcpObject key)) :=
        opening.allocate ⟨rfl, rfl, rfl⟩
      have new : base.allocated ≤ engine.allocated := opening.grown
      apply ends_platformCall opening
      apply ends_allocateSession
      apply ends_platformCall opened
      apply ends_connectSocket
      · exact opened.undisturbed (undisturbed_closeChannel _ _)
      have connected :=
        opened.undisturbed
          (undisturbed_connectTcp _ engine.allocated answers.connected)
      apply ends_modify_bind
      have started := connected.startFlow new length answers.connected
      apply ends_platformCall started
      exact started.calm (calm_keepSessionAlive.bind fun _ => calm_pure _)

private theorem opens_registerSession (opening : Extended base engine)
    (answers : Answers) :
    Opens base (NioThread.registerSession answers id) engine := by
  apply ends_platformCall opening
  apply ends_readObject
  split
  · have registered :
        Undisturbed False False engine
          (engine.updateObject id NioThread.registered) :=
      .update ⟨rfl, fun _ => rfl, fun _ => rfl⟩
    exact opening.undisturbed registered
  · exact opening

namespace PacketHandling

private theorem opens_handleDatagram (opening : Extended base engine)
    (datagram : UdpDatagram) (newSession : Bool) (answers : Answers) :
    Opens base (handleDatagram datagram newSession answers id) engine := by
  apply opening.before
  · exact calm_updateSession (fun _ => ⟨rfl, rfl⟩) False.elim False.elim
  · intro _ noted opening
    apply opening.before (calm_addClientData datagram.data)
    intro _ added opening
    apply opening.before
    · exact calm_updateSession (fun _ => ⟨rfl, rfl⟩) False.elim False.elim
    · intro _ ready opening
      split
      · apply (opens_registerSession opening answers).bind
        intro _ registered opening
        exact opening.calm (calm_subscribeKey .write)
      · exact opening.calm (calm_subscribeKey .write)

private theorem opens_populate (opening : Extended base engine)
    (syn : TcpSegment)
    (packet : Packet) (data : List UInt8) (answers : Answers) :
    Opens base (populate syn packet data answers id) engine := by
  apply opening.before
  · exact calm_updateSession (fun _ => ⟨rfl, rfl⟩) False.elim False.elim
  · intro _ populated opening
    apply (opens_registerSession opening answers).bind
    intro _ registered opening
    exact opening.calm (calm_write data)

/-- Every step of the thread at most opens a session. -/
private theorem opens_proceed (opening : Extended base engine)
    (answers : Answers)
    (thread : PacketThread) :
    Opens base (proceed answers thread) engine := by
  cases thread with
  | idle => exact opening
  | createUdp datagram =>
      exact
        (opens_createNewUDPSession opening _ _ answers).bind
          fun _ _ opened => opened
  | enterUdp datagram newSession session =>
      exact
        (opens_handleDatagram opening datagram newSession answers).bind
          fun _ _ opened => opened
  | keepUdp session =>
      exact opening.before calm_keepSessionAlive fun _ _ opened => opened
  | createTcp syn packet data =>
      apply (opens_createNewTCPSession opening _ _ answers).bind
      intro session after opened
      apply ends_readSession
      split
      · exact opened
      · exact opened
  | resendAck session =>
      exact
        opening.before (calm_resendAck answers.currentTime)
          fun _ _ opened => opened
  | populate syn packet data session =>
      exact
        (opens_populate opening syn packet data answers).bind
          fun _ _ opened => opened
  | enterTcp segment session =>
      exact
        opening.before
          (calm_handleSessionSegment segment answers.currentTime)
          fun _ _ opened => opened
  | keepFin session =>
      exact opening.before calm_keepSessionAlive fun _ _ opened => opened
  | abort session =>
      exact
        opening.before calm_setAbortingConnection fun _ _ opened => opened

private theorem opening_runPacketStep {program : Running PacketThread}
    (opens : Opens engine program engine) :
    Extended engine (runPacketStep program engine) := by
  rw [Opens, Ends] at opens
  rw [runPacketStep]
  rcases ended : program.outcome engine with ⟨failure | value, after⟩
  · rw [ended] at opens
    exact ⟨opens.nioThread, opens.grown, opens.old, opens.fresh⟩
  · rw [ended] at opens
    exact ⟨opens.nioThread, opens.grown, opens.old, opens.fresh⟩

end PacketHandling

end Extended

/-! ## Both threads -/

/-- The event writes nothing to the session's channel that would not be
reported. -/
def ReportsWrites (id : Nat) (engine : Engine) : EngineEvent → Prop
  | .select ready other =>
      other = id → (engine.sessions id).losesCount ready = false
  | .handlePacket .. | .proceed _ => True

instance (id : Nat) (engine : Engine) :
    DecidablePred (ReportsWrites id engine)
  | .select _ _ => inferInstanceAs (Decidable (_ → _))
  | .handlePacket .. => inferInstanceAs (Decidable True)
  | .proceed _ => inferInstanceAs (Decidable True)

/-- The payload bytes the NIO thread writes to the client while it processes
the key of the session. -/
def repliedIn (id : Nat) (engine : Engine) : EngineEvent → Nat
  | .select ready other =>
      if other = id then
        (((engineStep engine (.select ready other)).written.drop
              engine.written.length).map
            (engine.sessions id).session.replyPayload).sum
      else
        0
  | .handlePacket .. | .proceed _ => 0

/-- The same for all events of a run. -/
def repliedBytes (id : Nat) : Engine → List EngineEvent → Nat
  | _, [] => 0
  | engine, event :: later =>
      repliedIn id engine event +
        repliedBytes id (engineStep engine event) later

/-- The counters are what the session has moved.  `opening` is what its flow
has started with. -/
def SessionObject.Matches (opening : Int) (replied : Nat)
    (object : SessionObject) : Prop :=
  object.session.flow.dataIngress =
      (if object.channel.isSocket then object.channel.streamedBytes
        else replied : Nat) ∧
    object.session.flow.dataEgress - opening =
      object.channel.acceptedBytes

instance (opening : Int) (replied : Nat) :
    DecidablePred (SessionObject.Matches opening replied) :=
  fun _ => inferInstanceAs (Decidable (_ ∧ _))

section Steps

variable {engine : Engine} {id : Nat} {opening : Int} {replied : Nat}

theorem SessionObject.Matches.congr {object other : SessionObject}
    (matched : object.Matches opening replied)
    (same : other.ledger = object.ledger) :
    other.Matches opening replied := by
  have kind : other.channel.isSocket = object.channel.isSocket :=
    congrArg Ledger.isSocket same
  have streamed :
      other.channel.streamedBytes = object.channel.streamedBytes :=
    congrArg Ledger.streamed same
  have accepted :
      other.channel.acceptedBytes = object.channel.acceptedBytes :=
    congrArg Ledger.accepted same
  have dataIngress :
      other.session.flow.dataIngress = object.session.flow.dataIngress :=
    congrArg Ledger.dataIngress same
  have dataEgress :
      other.session.flow.dataEgress = object.session.flow.dataEgress :=
    congrArg Ledger.dataEgress same
  rw [Matches, kind, streamed, accepted, dataIngress, dataEgress]
  exact matched

/-- A session that has moved nothing matches what it has started with. -/
private theorem SessionObject.Fresh.matches {object : SessionObject}
    (fresh : object.Fresh) :
    object.Matches object.session.flow.dataEgress 0 := by
  obtain ⟨streamed, accepted, dataIngress⟩ := fresh
  refine ⟨?_, ?_⟩
  · rw [dataIngress, streamed, ite_self]
    rfl
  · rw [accepted]
    exact Int.sub_self _

/-- Counters that grow by what has moved still match. -/
theorem SessionObject.Matches.moved {after : Engine} {read sent : Nat}
    (matched : (engine.sessions id).Matches opening replied)
    (moved : Moved id read sent read sent engine after) :
    (after.sessions id).Matches opening
      (replied +
        ((after.written.drop engine.written.length).map
          (engine.sessions id).session.replyPayload).sum) := by
  obtain ⟨ingress, egress⟩ := matched
  rw [Matches, moved.kind, moved.dataIngress, moved.dataEgress,
    moved.accepted, ingress]
  refine ⟨?_, by omega⟩
  by_cases kind : (engine.sessions id).channel.isSocket = true
  · rw [if_pos kind, if_pos kind, moved.streamed kind]
    rfl
  · obtain ⟨-, replies, written, sum⟩ :=
      moved.replied (Bool.eq_false_iff.mpr kind)
    rw [if_neg kind, if_neg kind, written, List.drop_left, sum]
    rfl

/-- The steps of the packet thread. -/
private theorem opening_handlePacket (engine : Engine) (stream : ByteBuffer)
    (answers : Answers) :
    Extended engine (engineStep engine (.handlePacket stream answers)) := by
  rw [engineStep]
  split
  · exact
      PacketHandling.opening_runPacketStep
        ((Extended.refl engine).calm
          (PacketHandling.calm_handlePacket stream answers))
  · exact .refl engine

private theorem opening_proceed (engine : Engine) (answers : Answers) :
    Extended engine (engineStep engine (.proceed answers)) :=
  PacketHandling.opening_runPacketStep
    (PacketHandling.opens_proceed (.refl engine) answers
      engine.packetThread)

/-- A step of the NIO thread that does not end it. -/
private theorem tallied_select {ready : SocketNIODataService.Readiness}
    (running : (engineStep engine (.select ready id)).nioThread = .running) :
    engine.nioThread = .running ∧
      NioThread.Tallied id
        ((engine.sessions id).losesCount ready = false) engine
        (engineStep engine (.select ready id)) := by
  rw [engineStep] at running ⊢
  split at running
  · next selected =>
    rw [if_pos selected]
    exact ⟨selected.1, NioThread.tallied_runSelectedKey running⟩
  · next idle =>
    rw [if_neg idle]
    exact ⟨running, 0, 0, 0, .refl engine, fun _ => rfl⟩

/-- A thread that has ended does not run again. -/
private theorem running_of_engineStep {event : EngineEvent}
    (running : (engineStep engine event).nioThread = .running) :
    engine.nioThread = .running := by
  cases event with
  | handlePacket stream answers =>
      have opens := opening_handlePacket engine stream answers
      exact opens.nioThread.symm.trans running
  | proceed answers =>
      have opens := opening_proceed engine answers
      exact opens.nioThread.symm.trans running
  | select ready other => exact (tallied_select running).1

/-- Every event keeps the counters of a session in line with its traffic.
-/
private theorem matches_engineStep {event : EngineEvent}
    (allocated : id < engine.allocated)
    (matched : (engine.sessions id).Matches opening replied)
    (reports : ReportsWrites id engine event)
    (running : (engineStep engine event).nioThread = .running) :
    id < (engineStep engine event).allocated ∧
      ((engineStep engine event).sessions id).Matches opening
        (replied + repliedIn id engine event) := by
  cases event with
  | handlePacket stream answers =>
      have opens := opening_handlePacket engine stream answers
      exact
        ⟨Nat.lt_of_lt_of_le allocated opens.grown,
          matched.congr (opens.old id allocated)⟩
  | proceed answers =>
      have opens := opening_proceed engine answers
      exact
        ⟨Nat.lt_of_lt_of_le allocated opens.grown,
          matched.congr (opens.old id allocated)⟩
  | select ready other =>
      obtain ⟨-, read, sent, count, moved, all⟩ := tallied_select running
      refine ⟨moved.allocated ▸ allocated, ?_⟩
      rw [repliedIn]
      by_cases same : other = id
      · rw [if_pos same]
        have whole := reports same
        subst same
        rw [all whole] at moved
        exact matched.moved moved
      · rw [if_neg same]
        exact matched.congr (moved.others id (Ne.symm same))

end Steps

/-! ## Every run -/

/-- The event opens the session. -/
def Creates (id : Nat) (engine : Engine) (event : EngineEvent) : Prop :=
  engine.allocated ≤ id ∧ id < (engineStep engine event).allocated

instance (id : Nat) (engine : Engine) (event : EngineEvent) :
    Decidable (Creates id engine event) :=
  inferInstanceAs (Decidable (_ ∧ _))

/-- The flow of the session counts the upstream bytes the session has read,
for a datagram channel those written to the client, and, besides the bytes
it was opened with, those the channel has accepted. -/
def CountersMatch (id : Nat) (opened : Engine)
    (events : List EngineEvent) : Prop :=
  ((run engineStep opened events).sessions id).Matches
    (opened.sessions id).session.flow.dataEgress
    (repliedBytes id opened events)

instance (id : Nat) (opened : Engine) (events : List EngineEvent) :
    Decidable (CountersMatch id opened events) :=
  inferInstanceAs (Decidable (SessionObject.Matches _ _ _))

section Runs

variable {id : Nat}

private theorem running_of_run {engine : Engine} {events : List EngineEvent}
    (running : (run engineStep engine events).nioThread = .running) :
    engine.nioThread = .running := by
  induction events generalizing engine with
  | nil => exact running
  | cons event later inductionHypothesis =>
      exact running_of_engineStep (inductionHypothesis running)

private theorem matches_run {opening : Int} {events : List EngineEvent}
    {engine : Engine} {replied : Nat} (allocated : id < engine.allocated)
    (matched : (engine.sessions id).Matches opening replied)
    (reports : StepsMeet engineStep (ReportsWrites id) engine events)
    (running : (run engineStep engine events).nioThread = .running) :
    ((run engineStep engine events).sessions id).Matches opening
      (replied + repliedBytes id engine events) := by
  induction events generalizing engine replied with
  | nil => exact matched
  | cons event later inductionHypothesis =>
      obtain ⟨still, next⟩ :=
        matches_engineStep allocated matched reports.1
          (running_of_run running)
      rw [repliedBytes, ← Nat.add_assoc]
      exact inductionHypothesis still next reports.2 running

/-- A session starts with nothing moved. -/
private theorem matches_creates {engine : Engine} {event : EngineEvent}
    (creates : Creates id engine event)
    (running : (engineStep engine event).nioThread = .running) :
    ((engineStep engine event).sessions id).Matches
      ((engineStep engine event).sessions id).session.flow.dataEgress 0 := by
  obtain ⟨above, below⟩ := creates
  cases event with
  | handlePacket stream answers =>
      have opens := opening_handlePacket engine stream answers
      exact (opens.fresh id above below).matches
  | proceed answers =>
      have opens := opening_proceed engine answers
      exact (opens.fresh id above below).matches
  | select ready other =>
      obtain ⟨-, read, sent, count, moved, -⟩ := tallied_select running
      rw [moved.allocated] at below
      exact absurd below (Nat.not_lt.mpr above)

/-- In every state behind the creation of a session, the counters of its flow
match its traffic, as long as the NIO thread handles the events and no
`channel.write` throws in an event behind one that has taken bytes. -/
theorem counters_match (packetIds : Nat → Int)
    (earlier later visited : List EngineEvent) (opening : EngineEvent)
    (creates :
      Creates id (run engineStep (Engine.start packetIds) earlier) opening)
    (reports :
      StepsMeet engineStep (ReportsWrites id)
        (run engineStep (Engine.start packetIds) (earlier ++ [opening]))
        later)
    (isPrefix : visited <+: later)
    (running :
      (run engineStep
        (run engineStep (Engine.start packetIds) (earlier ++ [opening]))
        visited).nioThread = .running) :
    CountersMatch id
      (run engineStep (Engine.start packetIds) (earlier ++ [opening]))
      visited := by
  rw [run_concat] at reports running ⊢
  have matched := matches_creates creates (running_of_run running)
  have counted :=
    matches_run creates.2 matched (reports.of_isPrefix isPrefix) running
  rw [Nat.zero_add] at counted
  exact counted

end Runs

/-! ## A write that fails behind another -/

/-- Three bytes of the client behind `sampleSyn`, with PSH. -/
def samplePush : ByteBuffer :=
  ByteBuffer.wrap
    [0x45, 0, 0, 43, 0, 1, 0, 0, 64, 6, 0, 0, 10, 0, 0, 1, 10, 0, 0, 2,
      4, 0, 0, 80, 0, 0, 0, 2, 0, 0, 0, 2, 0x50, 0x18, 255, 255, 0, 0,
      0, 0, 97, 98, 99]

/-- The upstream channel can be written to, and answers like this. -/
def writableWith (writes : List WriteOutcome) :
    SocketNIODataService.Readiness where
  isConnectable := false
  isReadable := false
  isWritable := true
  connected := none
  reads := []
  writes := writes

/-- The session of `sampleSyn` has been created. -/
def sampleOpened : Engine :=
  run engineStep (Engine.start fun _ => 0)
    ([.handlePacket sampleSyn quickAnswers] ++ [.proceed quickAnswers])

/-- The client's bytes are written, and then one is read. -/
def pushRun (writes : List WriteOutcome) : List EngineEvent :=
  [.proceed quickAnswers, .handlePacket samplePush quickAnswers,
    .proceed quickAnswers, .select (writableWith writes) 0,
    .select byteRead 0]

theorem counters_match_pushRun :
    CountersMatch 0 sampleOpened (pushRun [.accepted 2, .accepted 1]) :=
  counters_match (fun _ => 0) [.handlePacket sampleSyn quickAnswers]
    (pushRun [.accepted 2, .accepted 1])
    (pushRun [.accepted 2, .accepted 1]) (.proceed quickAnswers)
    (by decide +kernel) (by decide +kernel) (List.prefix_refl _)
    (by decide +kernel)

/-- Two bytes are accepted before the channel fails, and none is counted. -/
theorem lost_egress :
    Creates 0
        (run engineStep (Engine.start fun _ => 0)
          [.handlePacket sampleSyn quickAnswers])
        (.proceed quickAnswers) ∧
      (run engineStep sampleOpened
        (pushRun [.accepted 2, .failure .other])).nioThread = .running ∧
      ¬ CountersMatch 0 sampleOpened
        (pushRun [.accepted 2, .failure .other]) := by
  decide +kernel

end LanShield.Vpn
