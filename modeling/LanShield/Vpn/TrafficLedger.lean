import LanShield.Library.ProgramResults
import LanShield.Vpn.SteadyPrograms

/-!
# What the methods leave of the traffic and its counters

The bytes a session has moved are in the history of its channel, and what
its flow has been told of them in two counters.  Most methods of the engine
touch neither: they change other fields of a session, its key or the table,
or write packets to the client.
-/

namespace LanShield.Vpn

open LanShield.Library LanShield.Java LanShield.Transport Program

namespace SelectableChannel

def atEnd : SelectableChannel → Bool
  | socket channel => channel.atEnd
  | datagram _ => false

/-- The bytes a socket channel has returned. -/
def streamedBytes : SelectableChannel → Nat
  | socket channel => channel.received.length
  | datagram _ => 0

/-- The bytes the channel has accepted. -/
def acceptedBytes : SelectableChannel → Nat
  | socket channel => channel.sent.length
  | datagram channel => (channel.sent.map List.length).sum

end SelectableChannel

/-- The traffic of a session and the counters of its flow. -/
structure Ledger where
  isSocket : Bool
  atEnd : Bool
  streamed : Nat
  accepted : Nat
  dataIngress : Int
  dataEgress : Int

/-- What `writePendingData` is about to write, and whether it may. -/
structure Upload where
  sendingStream : List UInt8
  isDataForSendingReady : Bool

def Session.upload (session : Session) : Upload where
  sendingStream := session.sendingStream
  isDataForSendingReady := session.isDataForSendingReady

namespace SessionObject

def ledger (object : SessionObject) : Ledger where
  isSocket := object.channel.isSocket
  atEnd := object.channel.atEnd
  streamed := object.channel.streamedBytes
  accepted := object.channel.acceptedBytes
  dataIngress := object.session.flow.dataIngress
  dataEgress := object.session.flow.dataEgress

/-- A change of an object that leaves its traffic alone.  While the session
is `reading`, its upload is left alone, too, and with `silent` the headers
of its replies. -/
structure Undisturbed (reading silent : Prop)
    (before after : SessionObject) : Prop where
  ledger : after.ledger = before.ledger
  upload : reading → after.session.upload = before.session.upload
  lastIpHeader :
    silent → after.session.lastIpHeader = before.session.lastIpHeader

theorem Undisturbed.refl {reading silent : Prop} (object : SessionObject) :
    Undisturbed reading silent object object :=
  ⟨rfl, fun _ => rfl, fun _ => rfl⟩

/-- Closing a channel keeps its history. -/
theorem undisturbed_closeChannel {reading silent : Prop}
    (object : SessionObject) :
    Undisturbed reading silent object object.closeChannel := by
  obtain ⟨session, channel, isRegistered⟩ := object
  cases channel with
  | socket channel => exact ⟨rfl, fun _ => rfl, fun _ => rfl⟩
  | datagram channel => exact ⟨rfl, fun _ => rfl, fun _ => rfl⟩

end SessionObject

/-- The traffic of all sessions and its counters are those of `base`.  With
`silent` nothing more has been written to the client. -/
structure Undisturbed (reading silent : Prop) (base engine : Engine) :
    Prop where
  allocated : engine.allocated = base.allocated
  nioThread : engine.nioThread = base.nioThread
  objects :
    ∀ id,
      (base.sessions id).Undisturbed reading silent (engine.sessions id)
  written : silent → engine.written = base.written

/-- The program leaves the traffic alone and throws no `IOException`. -/
abbrev Calm (reading silent : Prop) {Value : Type}
    (program : Running Value) : Prop :=
  ∀ base,
    Keeps (Undisturbed reading silent base)
      (fun failure => failure ≠ .io) program

section Rules

variable {reading silent : Prop} {base engine : Engine} {id : Nat}
  {Value Result : Type}

theorem Undisturbed.refl (engine : Engine) :
    Undisturbed reading silent engine engine :=
  ⟨rfl, rfl, fun _ => SessionObject.Undisturbed.refl _, fun _ => rfl⟩

theorem Undisturbed.ledger (undisturbed : Undisturbed reading silent base
      engine) (id : Nat) :
    (engine.sessions id).ledger = (base.sessions id).ledger :=
  (undisturbed.objects id).ledger

theorem Undisturbed.trans {after : Engine}
    (first : Undisturbed reading silent base engine)
    (second : Undisturbed reading silent engine after) :
    Undisturbed reading silent base after where
  allocated := second.allocated.trans first.allocated
  nioThread := second.nioThread.trans first.nioThread
  objects id :=
    ⟨(second.objects id).ledger.trans (first.objects id).ledger,
      fun holds =>
        ((second.objects id).upload holds).trans
          ((first.objects id).upload holds),
      fun holds =>
        ((second.objects id).lastIpHeader holds).trans
          ((first.objects id).lastIpHeader holds)⟩
  written holds := (second.written holds).trans (first.written holds)

theorem Undisturbed.update {update : SessionObject → SessionObject}
    (object :
      (engine.sessions id).Undisturbed reading silent
        (update (engine.sessions id))) :
    Undisturbed reading silent engine (engine.updateObject id update) := by
  refine ⟨rfl, rfl, ?_, fun _ => rfl⟩
  intro other
  by_cases same : other = id
  · rw [same, Engine.updateObject_self]
    exact object
  · rw [Engine.updateObject_of_ne same]
    exact .refl _

theorem Undisturbed.closeSession (key : SessionKey) :
    Undisturbed reading silent engine (engine.closeSession key) := by
  rw [Engine.closeSession]
  cases engine.table key with
  | none => exact .refl engine
  | some removed =>
      have closed :
          Undisturbed reading silent engine
            (engine.updateObject removed SessionObject.closeChannel) :=
        .update (SessionObject.undisturbed_closeChannel _)
      exact ⟨rfl, rfl, closed.objects, fun _ => rfl⟩

/-- What a calm program returns comes with an undisturbed engine. -/
theorem Calm.meets {program : Running Value}
    (calm : Calm reading silent program) (engine : Engine) :
    Meets (fun _ after => Undisturbed reading silent engine after)
      (fun failure after =>
        Undisturbed reading silent engine after ∧ failure ≠ .io)
      program engine :=
  (calm engine engine (.refl engine)).meets

theorem calm_pure (value : Value) :
    Calm reading silent (pure value : Running Value) :=
  fun _ => keeps_pure value

theorem calm_throw {failure : ThreadException} (other : failure ≠ .io) :
    Calm reading silent (throw failure : Running Value) :=
  fun _ => keeps_throw other

theorem Calm.bind {first : Running Value} {next : Value → Running Result}
    (left : Calm reading silent first)
    (right : ∀ value, Calm reading silent (next value)) :
    Calm reading silent (first >>= next) :=
  fun base => (left base).bind fun value => right value base

theorem Calm.ite {condition : Prop} [Decidable condition]
    {yes no : Running Value} (left : Calm reading silent yes)
    (right : Calm reading silent no) :
    Calm reading silent (if condition then yes else no) :=
  fun base => (left base).ite (right base)

theorem calm_modify {change : Engine → Engine}
    (step : ∀ engine, Undisturbed reading silent engine (change engine)) :
    Calm reading silent (modify change : Running PUnit) :=
  fun _ => keeps_modify fun engine held => held.trans (step engine)

theorem calm_readSession {next : Session → Running Value}
    (right : ∀ session, Calm reading silent (next session)) :
    Calm reading silent (readSession id >>= next) :=
  fun base engine => right (engine.sessions id).session base engine

private theorem calm_readObject {next : SessionObject → Running Value}
    (right : ∀ object, Calm reading silent (next object)) :
    Calm reading silent (readObject id >>= next) :=
  fun base engine => right (engine.sessions id) base engine

theorem calm_getSession {key : SessionKey}
    {next : Option Nat → Running Value}
    (right : ∀ session, Calm reading silent (next session)) :
    Calm reading silent (getSession key >>= next) :=
  fun base engine => right (engine.table key) base engine

theorem calm_updateSession {update : Session → Session}
    (counters :
      ∀ session,
        (update session).flow.dataIngress = session.flow.dataIngress ∧
          (update session).flow.dataEgress = session.flow.dataEgress)
    (upload :
      reading → ∀ session, (update session).upload = session.upload)
    (lastIpHeader :
      silent → ∀ session,
        (update session).lastIpHeader = session.lastIpHeader) :
    Calm reading silent (updateSession id update) := by
  apply calm_modify
  intro engine
  apply Undisturbed.update
  refine ⟨?_, fun holds => upload holds _, fun holds => lastIpHeader holds _⟩
  have same := counters (engine.sessions id).session
  rw [SessionObject.ledger, SessionObject.ledger,
    SessionObject.updateSession]
  simp only [same.1, same.2]

/-- An update of fields the traffic has nothing to do with. -/
theorem calm_plain {update : Session → Session}
    (flow : ∀ session, (update session).flow = session.flow)
    (upload : ∀ session, (update session).upload = session.upload)
    (lastIpHeader :
      ∀ session, (update session).lastIpHeader = session.lastIpHeader) :
    Calm reading silent (updateSession id update) := by
  apply calm_updateSession
  · intro session
    rw [flow session]
    exact ⟨rfl, rfl⟩
  · exact fun _ => upload
  · exact fun _ => lastIpHeader

private theorem calm_updateKey {update : Session → Session}
    (flow : ∀ session, (update session).flow = session.flow)
    (upload : ∀ session, (update session).upload = session.upload)
    (lastIpHeader :
      ∀ session, (update session).lastIpHeader = session.lastIpHeader) :
    Calm reading silent (updateKey id update) := by
  apply calm_readObject
  intro object
  apply Calm.ite
  · exact calm_plain flow upload lastIpHeader
  · exact calm_throw nofun

theorem calm_cancelKey : Calm reading silent (cancelKey id) :=
  calm_updateKey (fun _ => rfl) (fun _ => rfl) fun _ => rfl

theorem calm_subscribeKey (op : SelectionOp) :
    Calm reading silent (subscribeKey op id) :=
  calm_updateKey (fun _ => rfl) (fun _ => rfl) fun _ => rfl

theorem calm_unsubscribeKey (op : SelectionOp) :
    Calm reading silent (unsubscribeKey op id) :=
  calm_updateKey (fun _ => rfl) (fun _ => rfl) fun _ => rfl

theorem calm_setAbortingConnection :
    Calm reading silent (setAbortingConnection id) :=
  calm_plain (fun _ => rfl) (fun _ => rfl) fun _ => rfl

theorem calm_closeSession (key : SessionKey) :
    Calm reading silent (closeSession key) :=
  calm_modify fun _ => .closeSession key

theorem calm_closeSessionOf : Calm reading silent (closeSessionOf id) :=
  calm_readSession fun session => calm_closeSession session.getSessionKey

theorem calm_keepSessionAlive :
    Calm reading silent (keepSessionAlive id) :=
  calm_modify fun _ =>
    ⟨rfl, rfl, fun _ => SessionObject.Undisturbed.refl _, fun _ => rfl⟩

/-- What a datagram channel has returned is not in the ledger. -/
theorem calm_receive (data : List UInt8) :
    Calm reading silent
      (updateDatagram id fun channel =>
        { channel with received := channel.received ++ [data] }) := by
  apply calm_modify
  intro engine
  apply Undisturbed.update
  rcases engine.sessions id with ⟨session, channel, isRegistered⟩
  cases channel with
  | socket channel => exact ⟨rfl, fun _ => rfl, fun _ => rfl⟩
  | datagram channel => exact ⟨rfl, fun _ => rfl, fun _ => rfl⟩

theorem calm_getPacketId : Calm reading silent getPacketId := by
  intro base engine held
  refine ⟨?_, nofun⟩
  exact ⟨held.allocated, held.nioThread, held.objects, held.written⟩

private theorem calm_built (bytes : Except JavaException (List UInt8)) :
    Calm reading silent (built bytes) := by
  cases bytes with
  | ok data => exact calm_pure data
  | error exception => exact calm_throw nofun

theorem calm_buildPacket (packet : Packet) :
    Calm reading silent (buildPacket packet) :=
  calm_getPacketId.bind fun _ => calm_built _

theorem calm_write (data : List UInt8) : Calm reading False (write data) :=
  calm_modify fun _ =>
    ⟨rfl, rfl, fun _ => SessionObject.Undisturbed.refl _, False.elim⟩

theorem calm_sendPacket (packet : Packet) :
    Calm reading False (sendPacket packet) :=
  (calm_buildPacket packet).bind calm_write

end Rules

namespace NioThread

section Programs

variable {reading silent : Prop} {id : Nat}

private theorem calm_sendSegment (ipHeader : IPHeader) (tcpheader : TCPHeader)
    (packetBody : List UInt8) :
    Calm reading False (sendSegment ipHeader tcpheader packetBody id) := by
  apply calm_readSession
  intro before
  apply Calm.bind
  · exact calm_plain (fun _ => rfl) (fun _ => rfl) fun _ => rfl
  · intro _
    apply calm_readSession
    intro session
    exact calm_sendPacket _

private theorem calm_pumpStaged (ipHeader : IPHeader) (tcpheader : TCPHeader)
    (segMax : Int) (rounds : Nat) :
    Calm reading False (pumpStaged ipHeader tcpheader segMax id rounds) := by
  induction rounds with
  | zero => exact calm_pure _
  | succ rounds inductionHypothesis =>
      apply calm_readSession
      intro session
      apply Calm.ite
      · apply Calm.ite
        · exact calm_pure _
        · apply Calm.bind
          · exact calm_plain (fun _ => rfl) (fun _ => rfl) fun _ => rfl
          · intro _
            apply Calm.ite
            · exact calm_pure _
            · apply Calm.bind
              · exact calm_sendSegment ipHeader tcpheader _
              · intro _
                exact inductionHypothesis
      · exact calm_pure _

private theorem calm_sendFin : Calm reading False (sendFin id) := by
  apply calm_readSession
  intro session
  split
  · apply Calm.bind
    · exact
        calm_updateSession (fun _ => ⟨rfl, rfl⟩) (fun _ _ => rfl)
          False.elim
    · intro _
      exact calm_sendPacket _
  · exact calm_throw nofun

private theorem calm_afterPump : Calm reading False (afterPump id) := by
  apply calm_readSession
  intro session
  apply Calm.ite
  · apply calm_sendFin.bind
    intro _
    exact calm_setAbortingConnection
  · apply Calm.ite
    · exact calm_subscribeKey .read
    · exact calm_pure _

theorem calm_pumpToClient : Calm reading False (pumpToClient id) := by
  apply calm_readSession
  intro session
  split
  · apply Calm.bind
    · exact calm_pumpStaged _ _ _ _
    · intro _
      exact calm_afterPump
  · exact calm_pure _

theorem calm_sendToRequester (chunk : Chunk) :
    Calm reading False (sendToRequester chunk id) := by
  apply Calm.bind
  · exact calm_plain (fun _ => rfl) (fun _ => rfl) fun _ => rfl
  · intro _
    exact calm_pumpToClient

theorem calm_endUpstream : Calm reading False (endUpstream id) := by
  apply Calm.bind
  · exact calm_plain (fun _ => rfl) (fun _ => rfl) fun _ => rfl
  · intro _
    exact calm_pumpToClient

theorem calm_readFailed (logged : SocketException → Bool)
    (exception : SocketException) :
    Calm reading silent (readFailed logged exception id) := by
  apply Calm.ite
  · exact calm_pure _
  · exact calm_setAbortingConnection

private theorem calm_closeIfConnected :
    Calm reading silent (closeIfConnected id) := by
  apply calm_readObject
  intro object
  apply Calm.ite
  · apply calm_modify
    intro engine
    exact .update (SessionObject.undisturbed_closeChannel _)
  · exact calm_pure _

theorem calm_removeAborted : Calm reading silent (removeAborted id) := by
  apply calm_readSession
  intro session
  apply Calm.ite
  · apply calm_cancelKey.bind
    intro _
    apply calm_closeIfConnected.bind
    intro _
    exact calm_closeSessionOf
  · exact calm_pure _

theorem calm_resubscribe : Calm reading silent (resubscribe id) := by
  apply calm_readObject
  intro object
  apply Calm.ite
  · exact calm_subscribeKey .read
  · exact calm_pure _

theorem calm_allWritten : Calm False silent (allWritten id) := by
  apply Calm.bind
  · exact
      calm_updateSession (fun _ => ⟨rfl, rfl⟩) False.elim
        fun _ _ => rfl
  · intro _
    exact calm_unsubscribeKey .write

private theorem setSendingData_flow (data : ByteBuffer) (session : Session) :
    (session.setSendingData data).2.flow = session.flow := by
  rw [Session.setSendingData]
  cases session.protocol with
  | tcp => rfl
  | udp => rfl

theorem calm_setSendingData (data : ByteBuffer) :
    Calm False silent
      (updateSession id fun session => (session.setSendingData data).2) := by
  apply calm_updateSession
  · intro session
    rw [setSendingData_flow]
    exact ⟨rfl, rfl⟩
  · exact False.elim
  · exact fun _ session =>
      (SessionStep.setSendingData data session).lastIpHeader

theorem calm_settleBuffer (buffer : ByteBuffer) :
    Calm False silent (settleBuffer buffer id) := by
  apply Calm.ite
  · apply (calm_setSendingData _).bind
    intro _
    exact calm_subscribeKey .write
  · exact calm_allWritten

theorem calm_writeFailed : Calm reading False (writeFailed id) := by
  apply calm_readSession
  intro session
  split
  · apply (calm_sendPacket _).bind
    intro _
    exact calm_setAbortingConnection
  · exact calm_throw nofun

end Programs

end NioThread

end LanShield.Vpn
