import LanShield.Transport.UDPReplies
import LanShield.Vpn.InsertedFlows
import LanShield.Vpn.SessionOpening

/-!
# When a session is created as a whole or not at all

A packet that opens a session makes calls that can fail: the channel is
opened, given its options and connected, a flow is inserted and the channel
is registered.  The table has the session from some point in between.
-/

namespace LanShield.Vpn

open LanShield.Library LanShield.Java LanShield.Transport Program

/-- A client packet for a 5-tuple the table has no session for. -/
inductive OpeningPacket where
  | udp (datagram : UdpDatagram)
  | tcp (syn : TcpSegment) (packet : Packet) (data : List UInt8)

namespace OpeningPacket

def protocol : OpeningPacket → SessionProtocol
  | udp _ => .udp
  | tcp .. => .tcp

def sessionKey : OpeningPacket → SessionKey
  | udp datagram => datagram.sessionKey
  | tcp syn _ _ => syn.sessionKey

/-- How `SessionHandler` handles the packet. -/
def handle (answers : Answers) : OpeningPacket → Recording Unit
  | udp datagram => Recorded.handleUDPPacket datagram answers
  | tcp syn packet data => Recorded.replySynAck syn packet data answers

end OpeningPacket

/-- The table has a new session for the key, whose channel is open and
registered and whose flow is the only one inserted. -/
def Complete (key : SessionKey) (before after : Recorded) : Prop :=
  ∃ id,
    before.engine.allocated ≤ id ∧ after.engine.table key = some id ∧
      (after.engine.sessions id).channel.isOpen = true ∧
        (after.engine.sessions id).isRegistered = true ∧
          after.flows = before.flows ++ [id]

/-- The table has no session for the key, and no channel opened meanwhile is
still open. -/
def Undone (key : SessionKey) (before after : Recorded) : Prop :=
  after.engine.table key = none ∧
    ∀ id, before.engine.allocated ≤ id → id < after.engine.allocated →
      (after.engine.sessions id).channel.isOpen = false

/-- What returns is complete, and what throws is undone. -/
def AllOrNothing (key : SessionKey) (program : Recording Unit)
    (before : Recorded) : Prop :=
  Meets (fun _ after => Complete key before after)
    (fun _ after => Undone key before after) program before

/-- No call fails, or the one that opens the channel, or for TCP the one that
connects it. -/
def FailsCleanly (protocol : SessionProtocol)
    (failure : Option OpeningCall) : Prop :=
  failure = none ∨ failure = some .openChannel ∨
    protocol = .tcp ∧ failure = some .connect

instance (protocol : SessionProtocol) :
    DecidablePred (FailsCleanly protocol) :=
  fun _ => inferInstanceAs (Decidable (_ ∨ _ ∨ _ ∧ _))

namespace SelectableChannel

variable {channel : SelectableChannel}

private theorem isOpen_mapSocket {update : SocketChannel → SocketChannel}
    (same : ∀ socket, (update socket).isOpen = socket.isOpen) :
    (channel.mapSocket update).isOpen = channel.isOpen := by
  cases channel with
  | socket socket => exact same socket
  | datagram datagram => rfl

private theorem isOpen_mapDatagram
    {update : DatagramChannel → DatagramChannel}
    (same : ∀ datagram, (update datagram).isOpen = datagram.isOpen) :
    (channel.mapDatagram update).isOpen = channel.isOpen := by
  cases channel with
  | socket socket => rfl
  | datagram datagram => exact same datagram

private theorem isOpen_close (channel : SelectableChannel) :
    channel.close.isOpen = false := by
  cases channel with
  | socket socket => rfl
  | datagram datagram => rfl

end SelectableChannel

/-- What a session being created has by now. -/
structure Stage where
  entry : Option Nat
  isOpen : Bool
  isRegistered : Bool
  isAnnounced : Bool

/-- The session object `id` is the last one, and at this stage. -/
structure Stage.At (stage : Stage) (key : SessionKey) (id : Nat)
    (engine : Engine) : Prop where
  allocated : engine.allocated = id + 1
  entry : engine.table key = stage.entry
  key_eq : engine.getSessionKey id = key
  isOpen : (engine.sessions id).channel.isOpen = stage.isOpen
  isRegistered : (engine.sessions id).isRegistered = stage.isRegistered
  isAnnounced :
    (engine.sessions id).session.lastIpHeader.isSome = stage.isAnnounced

section Stages

variable {stage : Stage} {key : SessionKey} {id : Nat} {engine : Engine}

theorem Stage.At.update {update : SessionObject → SessionObject}
    {next : Stage} (at_stage : stage.At key id engine)
    (entry : next.entry = stage.entry)
    (key_eq :
      (update (engine.sessions id)).session.getSessionKey =
        (engine.sessions id).session.getSessionKey)
    (isOpen : (update (engine.sessions id)).channel.isOpen = next.isOpen)
    (isRegistered :
      (update (engine.sessions id)).isRegistered = next.isRegistered)
    (isAnnounced :
      (update (engine.sessions id)).session.lastIpHeader.isSome =
        next.isAnnounced) :
    next.At key id (engine.updateObject id update) where
  allocated := at_stage.allocated
  entry := at_stage.entry.trans entry.symm
  key_eq := by
    rw [Engine.getSessionKey, Engine.updateObject_self, key_eq]
    exact at_stage.key_eq
  isOpen := by rw [Engine.updateObject_self, isOpen]
  isRegistered := by rw [Engine.updateObject_self, isRegistered]
  isAnnounced := by rw [Engine.updateObject_self, isAnnounced]

theorem Stage.At.session {update : Session → Session}
    (at_stage : stage.At key id engine)
    (step :
      SessionStep (engine.sessions id).session
        (update (engine.sessions id).session)) :
    stage.At key id
      (engine.updateObject id (SessionObject.updateSession update)) := by
  apply
    at_stage.update rfl step.key at_stage.isOpen at_stage.isRegistered
  rw [SessionObject.updateSession, step.lastIpHeader]
  exact at_stage.isAnnounced

theorem Stage.At.startFlow (at_stage : stage.At key id engine)
    (length : Int) (connected : Bool) :
    stage.At key id
      (engine.updateObject id
        (SessionObject.updateSession fun session =>
          { session with
            flow :=
              { session.flow.increaseEgress 1 length with
                tcpEstablishedReached := connected } })) :=
  at_stage.update rfl rfl at_stage.isOpen at_stage.isRegistered
    at_stage.isAnnounced

theorem Stage.At.connectUdp (at_stage : stage.At key id engine) :
    stage.At key id (engine.updateObject id connectUdp) := by
  apply at_stage.update rfl rfl _ at_stage.isRegistered at_stage.isAnnounced
  rw [← at_stage.isOpen]
  apply SelectableChannel.isOpen_mapDatagram
  intro datagram
  rfl

theorem Stage.At.connectTcp (at_stage : stage.At key id engine)
    (connected : Bool) :
    stage.At key id (engine.updateObject id (connectTcp connected)) := by
  apply at_stage.update rfl rfl _ at_stage.isRegistered at_stage.isAnnounced
  rw [← at_stage.isOpen]
  apply SelectableChannel.isOpen_mapSocket
  intro socket
  rfl

theorem Stage.At.closeChannel (at_stage : stage.At key id engine) :
    Stage.At { stage with isOpen := false } key id
      (engine.updateObject id SessionObject.closeChannel) :=
  at_stage.update rfl rfl (SelectableChannel.isOpen_close _)
    at_stage.isRegistered at_stage.isAnnounced

theorem Stage.At.registered (at_stage : stage.At key id engine) :
    Stage.At { stage with isRegistered := true } key id
      (engine.updateObject id NioThread.registered) :=
  at_stage.update rfl rfl at_stage.isOpen rfl at_stage.isAnnounced

/-- The session is put into the table. -/
theorem Stage.At.keepSessionAlive (at_stage : stage.At key id engine) :
    Stage.At { stage with entry := some id } key id
      (engine.keepSessionAlive id) where
  allocated := at_stage.allocated
  entry := by
    show
      Function.update engine.table (engine.getSessionKey id) (some id) key =
        some id
    rw [at_stage.key_eq, Function.update_self]
  key_eq := at_stage.key_eq
  isOpen := at_stage.isOpen
  isRegistered := at_stage.isRegistered
  isAnnounced := at_stage.isAnnounced

/-- Nothing is left of a session at this stage exactly if the table has no
entry and the channel is closed. -/
private theorem undone_iff {before after : Recorded}
    (allocated : before.engine.allocated = id)
    (at_stage : stage.At key id after.engine) :
    Undone key before after ↔ stage.entry = none ∧ stage.isOpen = false := by
  rw [Undone, at_stage.entry, at_stage.allocated, allocated,
    ← at_stage.isOpen]
  constructor
  · rintro ⟨absent, closed⟩
    exact ⟨absent, closed id (le_refl id) (Nat.lt_succ_self id)⟩
  · rintro ⟨absent, closed⟩
    refine ⟨absent, ?_⟩
    intro other above below
    have same : other = id := by omega
    rw [same]
    exact closed

end Stages

section Calls

variable {Last : Type} {returned : Last → Recorded → Prop}
  {thrown : ThreadException → Recorded → Prop} {recorded : Recorded}

private theorem meets_getSession {key : SessionKey}
    {next : Option Nat → Recording Last}
    (right :
      Meets returned thrown (next (recorded.engine.table key)) recorded) :
    Meets returned thrown (Recorded.onEngine (getSession key) >>= next)
      recorded :=
  right

private theorem meets_allocateSession {object : SessionObject}
    {next : Nat → Recording Last}
    (right :
      Meets returned thrown (next recorded.engine.allocated)
        { recorded with engine := recorded.engine.allocate object }) :
    Meets returned thrown
      (Recorded.onEngine (allocateSession object) >>= next) recorded :=
  right

/-- A change of the engine. -/
private theorem meets_engine {change : Engine → Engine}
    {next : Unit → Recording Last}
    (right :
      Meets returned thrown (next ())
        { recorded with engine := change recorded.engine }) :
    Meets returned thrown
      (Recorded.onEngine (modify change) >>= next) recorded :=
  right

/-- A call of the platform that fails, or does not. -/
private theorem meets_platformCall {call : OpeningCall} {answers : Answers}
    {next : Unit → Recording Last}
    (fails : answers.failure = some call → thrown .io recorded)
    (passes :
      answers.failure ≠ some call → Meets returned thrown (next ()) recorded) :
    Meets returned thrown
      (Recorded.onEngine (platformCall call answers) >>= next)
      recorded := by
  rw [platformCall]
  by_cases failed : answers.failure = some call
  · rw [if_pos failed]
    exact fails failed
  · rw [if_neg failed]
    exact passes failed

private theorem meets_connectSocket {answers : Answers} {id : Nat}
    {next : Unit → Recording Last}
    (fails :
      answers.failure = some .connect →
        thrown .io
          { recorded with
            engine :=
              recorded.engine.updateObject id SessionObject.closeChannel })
    (passes :
      answers.failure ≠ some .connect →
        Meets returned thrown (next ())
          { recorded with
            engine :=
              recorded.engine.updateObject id
                (connectTcp answers.connected) }) :
    Meets returned thrown
      (Recorded.onEngine (connectSocket answers id) >>= next)
      recorded := by
  rw [connectSocket]
  by_cases failed : answers.failure = some .connect
  · rw [if_pos failed]
    exact fails failed
  · rw [if_neg failed]
    exact passes failed

/-- The flow of the session is inserted. -/
private theorem meets_insertFlow {answers : Answers} {id : Nat}
    {next : Unit → Recording Last}
    (fails : answers.failure = some .insertFlow → thrown .io recorded)
    (passes :
      answers.failure ≠ some .insertFlow →
        Meets returned thrown (next ())
          { recorded with flows := recorded.flows ++ [id] }) :
    Meets returned thrown (Recorded.insertFlow answers id >>= next)
      recorded := by
  rw [Recorded.insertFlow, bind_assoc]
  exact meets_platformCall fails passes

end Calls

/-- Whatever the failing call leaves is nothing exactly if the failure is a
clean one. -/
def Broken (key : SessionKey) (protocol : SessionProtocol)
    (answers : Answers) (before : Recorded) (_ : ThreadException)
    (after : Recorded) : Prop :=
  answers.failure ≠ none ∧
    (Undone key before after ↔ FailsCleanly protocol answers.failure)

/-- The session is in the table, and its flow inserted. -/
def Inserted (key : SessionKey) (answers : Answers) (before : Recorded)
    (id : Nat) (after : Recorded) : Prop :=
  id = before.engine.allocated ∧
    (answers.failure = none ∨ answers.failure = some .registerSession) ∧
      Stage.At ⟨some id, true, false, false⟩ key id after.engine ∧
        after.flows = before.flows ++ [id]

section Creating

variable {key : SessionKey} {answers : Answers} {before after : Recorded}

private theorem onlyRegister (opened : answers.failure ≠ some .openChannel)
    (configured : answers.failure ≠ some .configureChannel)
    (connected : answers.failure ≠ some .connect)
    (inserted : answers.failure ≠ some .insertFlow) :
    answers.failure = none ∨ answers.failure = some .registerSession := by
  rcases failure : answers.failure with _ | call
  · exact .inl rfl
  · rw [failure] at opened configured connected inserted
    cases call with
    | openChannel => exact absurd rfl opened
    | configureChannel => exact absurd rfl configured
    | connect => exact absurd rfl connected
    | insertFlow => exact absurd rfl inserted
    | registerSession => exact .inr rfl

/-- A failing call leaves the session at the stage it was at. -/
private theorem broken_at {stage : Stage} {protocol : SessionProtocol}
    {call : OpeningCall} {exception : ThreadException}
    (failed : answers.failure = some call)
    (at_stage : stage.At key before.engine.allocated after.engine)
    (clean :
      (stage.entry = none ∧ stage.isOpen = false) ↔
        FailsCleanly protocol (some call)) :
    Broken key protocol answers before exception after := by
  rw [Broken, failed]
  exact ⟨Option.some_ne_none call, (undone_iff rfl at_stage).trans clean⟩

/-- Without a channel there is nothing to undo. -/
private theorem broken_unopened {protocol : SessionProtocol}
    (absent : before.engine.table key = none)
    (failed : answers.failure = some .openChannel) :
    Broken key protocol answers before .io before := by
  rw [Broken, failed]
  refine ⟨Option.some_ne_none _, ?_⟩
  constructor
  · exact fun _ => .inr (.inl rfl)
  · intro _
    refine ⟨absent, ?_⟩
    intro id above below
    exact absurd below (Nat.not_lt.mpr above)

/-- A new session object for a key the table has nothing for. -/
private theorem stage_allocate {object : SessionObject}
    (absent : before.engine.table key = none)
    (key_eq : object.session.getSessionKey = key)
    (isOpen : object.channel.isOpen = true)
    (unregistered : object.isRegistered = false)
    (unannounced : object.session.lastIpHeader.isSome = false) :
    Stage.At ⟨none, true, false, false⟩ key before.engine.allocated
      (before.engine.allocate object) where
  allocated := rfl
  entry := absent
  key_eq := by
    rw [Engine.getSessionKey, Engine.allocate_self]
    exact key_eq
  isOpen := by
    rw [Engine.allocate_self]
    exact isOpen
  isRegistered := by
    rw [Engine.allocate_self]
    exact unregistered
  isAnnounced := by
    rw [Engine.allocate_self]
    exact unannounced

private theorem meets_createNewUDPSession
    (absent : before.engine.table key = none) (length : Int) :
    Meets (Inserted key answers before) (Broken key .udp answers before)
      (Recorded.createNewUDPSession key length answers) before := by
  apply meets_getSession
  rw [absent]
  have allocated :=
    @stage_allocate key before (newUdpObject key) absent rfl rfl rfl rfl
  apply meets_platformCall
  · exact broken_unopened absent
  intro opened
  apply meets_allocateSession
  apply meets_platformCall
  · intro failed
    exact broken_at failed allocated (by decide)
  intro configured
  apply meets_platformCall
  · intro failed
    exact broken_at failed allocated (by decide)
  intro connected
  apply meets_engine
  apply meets_engine
  apply meets_engine
  have started := allocated.connectUdp.keepSessionAlive.startFlow length false
  apply meets_insertFlow
  · intro failed
    exact broken_at failed started (by simp [FailsCleanly])
  intro inserted
  refine ⟨rfl, ?_, started, rfl⟩
  exact onlyRegister opened configured connected inserted

private theorem meets_createNewTCPSession
    (absent : before.engine.table key = none) (length : Int) :
    Meets (Inserted key answers before) (Broken key .tcp answers before)
      (Recorded.createNewTCPSession key length answers) before := by
  apply meets_getSession
  rw [absent]
  have allocated :=
    @stage_allocate key before (newTcpObject key) absent rfl rfl rfl rfl
  apply meets_platformCall
  · exact broken_unopened absent
  intro opened
  apply meets_allocateSession
  apply meets_platformCall
  · intro failed
    exact broken_at failed allocated (by decide)
  intro configured
  apply meets_connectSocket
  · intro failed
    exact broken_at failed allocated.closeChannel (by decide)
  intro connected
  apply meets_engine
  have started :=
    (allocated.connectTcp answers.connected).startFlow length
      answers.connected
  apply meets_insertFlow
  · intro failed
    exact broken_at failed started (by decide)
  intro inserted
  apply meets_engine
  refine ⟨rfl, ?_, started.keepSessionAlive, rfl⟩
  exact onlyRegister opened configured connected inserted

end Creating

section Populating

variable {stage : Stage} {key : SessionKey} {id : Nat} {engine : Engine}
  {answers : Answers}

/-- The calls that register a session have all passed. -/
def Registered (stage : Stage) (key : SessionKey) (id : Nat)
    (answers : Answers) (_ : Unit) (after : Engine) : Prop :=
  answers.failure ≠ some .registerSession ∧
    Stage.At { stage with isRegistered := true } key id after

/-- The channel could not be registered. -/
def Unregistered (stage : Stage) (key : SessionKey) (id : Nat)
    (answers : Answers) (_ : ThreadException) (after : Engine) : Prop :=
  answers.failure = some .registerSession ∧ stage.At key id after

private theorem meets_registerSession (at_stage : stage.At key id engine)
    (isOpen : stage.isOpen = true) :
    Meets (Registered stage key id answers)
      (Unregistered stage key id answers)
      (NioThread.registerSession answers id) engine := by
  rw [NioThread.registerSession, platformCall]
  by_cases failed : answers.failure = some .registerSession
  · rw [if_pos failed]
    exact ⟨failed, at_stage⟩
  · rw [if_neg failed]
    show
      Meets _ _
        (if (engine.sessions id).channel.isOpen then
          modify (Engine.updateObject id NioThread.registered)
        else throw ThreadException.io) engine
    rw [at_stage.isOpen, if_pos isOpen]
    exact ⟨failed, at_stage.registered⟩

private theorem meets_addClientData {thrown : ThreadException → Engine → Prop}
    (at_stage : stage.At key id engine) (buffer : ByteBuffer) :
    Meets (fun _ after => stage.At key id after) thrown
      (addClientData buffer id) engine := by
  rw [addClientData]
  by_cases empty : buffer.limit ≤ buffer.position
  · rw [if_pos empty]
    exact meets_pure at_stage
  · rw [if_neg empty]
    apply meets_modify_bind
    exact at_stage.session (SessionStep.setSendingData buffer _)

/-- Subscribing needs the key that registering gives. -/
private theorem meets_subscribeKey_iff {returned : Unit → Engine → Prop}
    {thrown : ThreadException → Engine → Prop} {op : SelectionOp} :
    Meets returned thrown (subscribeKey op id) engine ↔
      Meets returned thrown
        (if (engine.sessions id).isRegistered then
          updateSession id (Session.subscribeKey op)
        else throw ThreadException.nullPointer) engine :=
  Iff.rfl

private theorem meets_subscribeKey {thrown : ThreadException → Engine → Prop}
    (at_stage : stage.At key id engine)
    (registered : stage.isRegistered = true) (op : SelectionOp) :
    Meets (fun _ after => stage.At key id after) thrown
      (subscribeKey op id) engine := by
  rw [meets_subscribeKey_iff, at_stage.isRegistered, if_pos registered]
  exact at_stage.session (SessionStep.subscribeKey op _)

/-- The fields a datagram sets, and what is done with the channel then. -/
private theorem meets_handleDatagram {newSession : Bool}
    {returned : Unit → Engine → Prop}
    {thrown : ThreadException → Engine → Prop}
    (at_stage : stage.At key id engine) (datagram : UdpDatagram)
    (right :
      ∀ after, Stage.At { stage with isAnnounced := true } key id after →
        Meets returned thrown
          (if newSession then do
            NioThread.registerSession answers id
            subscribeKey .write id
          else
            subscribeKey .write id) after) :
    Meets returned thrown
      (PacketHandling.handleDatagram datagram newSession answers id)
      engine := by
  apply meets_modify_bind
  have noted :
      Stage.At { stage with isAnnounced := true } key id
        (engine.updateObject id
          (SessionObject.updateSession
            (PacketHandling.noteDatagram datagram))) :=
    at_stage.update rfl rfl at_stage.isOpen at_stage.isRegistered rfl
  apply (meets_addClientData noted datagram.data).bind
  intro _ sent at_sent
  apply meets_modify_bind
  apply right
  exact
    at_sent.update rfl rfl at_sent.isOpen at_sent.isRegistered
      at_sent.isAnnounced

private theorem meets_handleDatagram_new (at_stage : stage.At key id engine)
    (isOpen : stage.isOpen = true) (datagram : UdpDatagram) :
    Meets (Registered { stage with isAnnounced := true } key id answers)
      (Unregistered { stage with isAnnounced := true } key id answers)
      (PacketHandling.handleDatagram datagram true answers id) engine := by
  apply meets_handleDatagram at_stage datagram
  intro noted at_noted
  apply (meets_registerSession at_noted isOpen).bind
  rintro _ after ⟨passed, at_after⟩
  apply (meets_subscribeKey at_after rfl .write).mono
  intro _ last at_last
  exact ⟨passed, at_last⟩

/-- A session that is in the table but was never registered fails with each
datagram of the client. -/
private theorem meets_handleDatagram_unregistered
    (at_stage : stage.At key id engine)
    (unregistered : ¬ stage.isRegistered = true) (datagram : UdpDatagram) :
    Meets (fun _ _ => False)
      (fun exception after =>
        exception = .nullPointer ∧
          Stage.At { stage with isAnnounced := true } key id after)
      (PacketHandling.handleDatagram datagram false answers id) engine := by
  apply meets_handleDatagram at_stage datagram
  intro noted at_noted
  rw [if_neg Bool.false_ne_true, meets_subscribeKey_iff,
    at_noted.isRegistered]
  rw [if_neg unregistered]
  exact meets_throw ⟨rfl, at_noted⟩

private theorem meets_populate (at_stage : stage.At key id engine)
    (isOpen : stage.isOpen = true) (syn : TcpSegment) (packet : Packet)
    (data : List UInt8) :
    Meets (Registered { stage with isAnnounced := true } key id answers)
      (Unregistered { stage with isAnnounced := true } key id answers)
      (PacketHandling.populate syn packet data answers id) engine := by
  apply meets_modify_bind
  have populated :
      Stage.At { stage with isAnnounced := true } key id
        (engine.updateObject id
          (SessionObject.updateSession
            (PacketHandling.populateSession syn
              packet.transportHeader))) :=
    at_stage.update rfl rfl at_stage.isOpen at_stage.isRegistered rfl
  apply (meets_registerSession populated isOpen).bind
  rintro _ after ⟨passed, at_after⟩
  apply meets_modify
  refine ⟨passed, ?_⟩
  exact
    ⟨at_after.allocated, at_after.entry, at_after.key_eq, at_after.isOpen,
      at_after.isRegistered, at_after.isAnnounced⟩

end Populating

section Handling

variable {key : SessionKey} {answers : Answers} {before : Recorded}

/-- No call has failed, and the session is registered. -/
def Succeeded (key : SessionKey) (answers : Answers) (before : Recorded)
    (_ : Unit) (after : Recorded) : Prop :=
  answers.failure = none ∧
    Stage.At ⟨some before.engine.allocated, true, true, true⟩ key
        before.engine.allocated after.engine ∧
      after.flows = before.flows ++ [before.engine.allocated]

theorem Succeeded.complete {after : Recorded}
    (succeeded : Succeeded key answers before () after) :
    Complete key before after :=
  have at_after := succeeded.2.1
  ⟨_, le_refl _, at_after.entry, at_after.isOpen, at_after.isRegistered,
    succeeded.2.2⟩

/-- The part behind the session's creation, which inserts no flow. -/
private theorem meets_registering {protocol : SessionProtocol} {id : Nat}
    {middle : Recorded} {program : Running Unit}
    (inserted : Inserted key answers before id middle)
    (registers :
      Meets (Registered ⟨some id, true, false, true⟩ key id answers)
        (Unregistered ⟨some id, true, false, true⟩ key id answers) program
        middle.engine) :
    Meets (Succeeded key answers before) (Broken key protocol answers before)
      (Recorded.onEngine program) middle := by
  obtain ⟨rfl, failure, _, flows⟩ := inserted
  apply Meets.focus
  apply registers.imp
  · rintro _ after ⟨passed, at_after⟩
    exact ⟨failure.resolve_right passed, at_after, flows⟩
  · rintro _ after ⟨failed, at_after⟩
    exact broken_at failed at_after (by simp [FailsCleanly])

private theorem meets_handleUDPPacket (datagram : UdpDatagram)
    (absent : before.engine.table datagram.sessionKey = none) :
    Meets (Succeeded datagram.sessionKey answers before)
      (Broken datagram.sessionKey .udp answers before)
      (Recorded.handleUDPPacket datagram answers) before := by
  apply (meets_createNewUDPSession absent _).bind
  intro id middle inserted
  have registers :=
    @meets_handleDatagram_new _ _ _ _ answers inserted.2.2.1 rfl datagram
  apply (meets_registering inserted registers).bind
  rintro _ after ⟨unfailed, at_after, flows⟩
  rw [inserted.1]
  exact ⟨unfailed, at_after.keepSessionAlive, flows⟩

private theorem meets_replySynAck (syn : TcpSegment) (packet : Packet)
    (data : List UInt8)
    (absent : before.engine.table syn.sessionKey = none) :
    Meets (Succeeded syn.sessionKey answers before)
      (Broken syn.sessionKey .tcp answers before)
      (Recorded.replySynAck syn packet data answers) before := by
  apply (meets_createNewTCPSession absent _).bind
  intro id middle inserted
  have at_middle := inserted.2.2.1
  show
    Meets _ _
      (if (middle.engine.sessions id).session.lastIpHeader.isSome then
        Recorded.onEngine
          (PacketHandling.resendAck answers.currentTime id)
      else
        Recorded.onEngine
          (PacketHandling.populate syn packet data answers id)) middle
  rw [at_middle.isAnnounced, if_neg Bool.false_ne_true]
  exact
    meets_registering inserted (meets_populate at_middle rfl syn packet data)

/-- Handling a packet for a new session ends as it should exactly if no call
fails or the failing one leaves nothing behind. -/
theorem allOrNothing_iff (packet : OpeningPacket) (answers : Answers)
    (before : Recorded)
    (absent : before.engine.table packet.sessionKey = none) :
    AllOrNothing packet.sessionKey (packet.handle answers) before ↔
      FailsCleanly packet.protocol answers.failure := by
  have meets :
      Meets (Succeeded packet.sessionKey answers before)
        (Broken packet.sessionKey packet.protocol answers before)
        (packet.handle answers) before := by
    cases packet with
    | udp datagram => exact meets_handleUDPPacket datagram absent
    | tcp syn packet data => exact meets_replySynAck syn packet data absent
  rw [AllOrNothing]
  rw [Meets] at meets ⊢
  rcases ended : (packet.handle answers).outcome before with
    ⟨exception | value, after⟩
  · rw [ended] at meets
    exact meets.2
  · rw [ended] at meets
    exact iff_of_true meets.complete (.inl meets.1)

end Handling

/-- A datagram of one byte for a key the empty table has nothing for. -/
def firstDatagram : UdpDatagram where
  ipHeader := .v4 UDPPacketFactory.datagramHeader4
  udpheader := UDPPacketFactory.datagramHeader
  data := ByteBuffer.wrap [65]

def emptyRecorded : Recorded where
  engine := Engine.start fun _ => 0
  flows := []

theorem allOrNothing_iff_openChannel :
    AllOrNothing firstDatagram.sessionKey
        (Recorded.handleUDPPacket firstDatagram
          { quickAnswers with failure := some .openChannel })
        emptyRecorded ↔
      FailsCleanly .udp (some .openChannel) :=
  allOrNothing_iff (.udp firstDatagram)
    { quickAnswers with failure := some .openChannel } emptyRecorded rfl

/-- The flow of the session cannot be inserted. -/
def unstoredAnswers : Answers :=
  { quickAnswers with failure := some .insertFlow }

def halfCreated : Recorded :=
  (Recorded.handleUDPPacket firstDatagram unstoredAnswers).final
    emptyRecorded

private theorem halfCreated_at :
    Stage.At ⟨some 0, true, false, false⟩ firstDatagram.sessionKey 0
      halfCreated.engine where
  allocated := by decide +kernel
  entry := by decide +kernel
  key_eq := by decide +kernel
  isOpen := by decide +kernel
  isRegistered := by decide +kernel
  isAnnounced := by decide +kernel

/-- The session stays in the table, and fails with each later datagram. -/
theorem halfCreated_remains :
    ¬ AllOrNothing firstDatagram.sessionKey
        (Recorded.handleUDPPacket firstDatagram unstoredAnswers)
        emptyRecorded ∧
      halfCreated.engine.table firstDatagram.sessionKey = some 0 ∧
      ∀ (datagram : UdpDatagram) (answers : Answers),
        Meets (fun _ _ => False)
          (fun exception _ => exception = .nullPointer)
          (PacketHandling.handleDatagram datagram false answers 0)
          halfCreated.engine := by
  refine ⟨?_, halfCreated_at.entry, ?_⟩
  · intro undone
    have absent :
        halfCreated.engine.table firstDatagram.sessionKey = none :=
      undone.1
    rw [halfCreated_at.entry] at absent
    cases absent
  · intro datagram answers
    apply
      (meets_handleDatagram_unregistered halfCreated_at
          Bool.false_ne_true datagram).imp
    · intro _ _ impossible
      exact impossible
    · intro exception _ failed
      exact failed.1

end LanShield.Vpn
