import LanShield.Transport.PacketLayout
import LanShield.Vpn.PacketHandling

/-!
# What the methods leave of the session objects

Most methods leave the table and the threads alone and change the objects in
a few ways only: they may set `abortingConnection` but not take it back, and
cancel a key but not revive it.  `Steady` says so; with `guarded` it also
says that the last headers stay such that a packet can be built from them.
-/

namespace LanShield.Vpn

open LanShield.Library LanShield.Java LanShield.Transport

/-! ## Session objects -/

/-- A packet can be built from the last headers. -/
structure Session.HeadersComplete (session : Session) : Prop where
  ip : ∀ header, session.lastIpHeader = some header → header.Complete
  tcp : ∀ header, session.lastTcpHeader = some header → header.Complete

namespace SessionObject

/-- The channel is of the session's kind, and open while its key is valid.
-/
structure Wired (object : SessionObject) : Prop where
  kind :
    object.channel.isSocket = decide (object.session.protocol = .tcp)
  isOpen :
    object.session.selectionkey.isValid = true →
      object.channel.isOpen = true

/-- An open socket channel is connected or about to be. -/
def Attached (object : SessionObject) : Prop :=
  ∀ channel, object.channel = .socket channel → channel.isOpen = true →
    object.session.isConnected = true ∨
      channel.isConnectionPending = true

/-- What the builders need of a session, and what they read of a registered
one. -/
structure Sound (object : SessionObject) : Prop where
  headers : object.session.HeadersComplete
  small : object.session.maxSegmentSize < 2 ^ 15
  knownIp :
    object.isRegistered = true →
      object.session.lastIpHeader.isSome = true
  knownTcp :
    object.isRegistered = true → object.session.protocol = .tcp →
      object.session.lastTcpHeader.isSome = true
  knownUdp :
    object.isRegistered = true → object.session.protocol = .udp →
      object.session.lastUdpHeader.isSome = true

end SessionObject

/-- What a method changes of the session alone. -/
structure SessionStep (before after : Session) : Prop where
  key : after.getSessionKey = before.getSessionKey
  aborting :
    before.abortingConnection = true → after.abortingConnection = true
  isValid :
    after.selectionkey.isValid = true → before.selectionkey.isValid = true
  lastIpHeader : after.lastIpHeader = before.lastIpHeader
  lastTcpHeader : after.lastTcpHeader = before.lastTcpHeader
  lastUdpHeader : after.lastUdpHeader = before.lastUdpHeader
  maxSegmentSize : after.maxSegmentSize = before.maxSegmentSize
  isConnected : after.isConnected = before.isConnected

theorem SessionStep.protocol_eq {before after : Session}
    (step : SessionStep before after) : after.protocol = before.protocol :=
  congrArg SessionKey.protocol step.key

/-- What a method changes of a session object. -/
structure ObjectStep (guarded : Prop) (before after : SessionObject) :
    Prop where
  key :
    after.session.getSessionKey = before.session.getSessionKey
  aborting :
    before.session.abortingConnection = true →
      after.session.abortingConnection = true
  isValid :
    after.session.selectionkey.isValid = true →
      before.session.selectionkey.isValid = true
  isRegistered : after.isRegistered = before.isRegistered
  announced :
    before.session.lastIpHeader.isSome = true →
      after.session.lastIpHeader.isSome = true
  knownTcp :
    before.session.lastTcpHeader.isSome = true →
      after.session.lastTcpHeader.isSome = true
  knownUdp :
    before.session.lastUdpHeader.isSome = true →
      after.session.lastUdpHeader.isSome = true
  wired : before.Wired → after.Wired
  attached : before.Attached → after.Attached
  sound : guarded → before.Sound → after.Sound

namespace ObjectStep

variable {guarded : Prop} {before middle after : SessionObject}

theorem refl (object : SessionObject) :
    ObjectStep guarded object object :=
  ⟨rfl, id, id, rfl, id, id, id, id, id, fun _ => id⟩

theorem trans (first : ObjectStep guarded before middle)
    (second : ObjectStep guarded middle after) :
    ObjectStep guarded before after where
  key := second.key.trans first.key
  aborting := second.aborting ∘ first.aborting
  isValid := first.isValid ∘ second.isValid
  isRegistered := second.isRegistered.trans first.isRegistered
  announced := second.announced ∘ first.announced
  knownTcp := second.knownTcp ∘ first.knownTcp
  knownUdp := second.knownUdp ∘ first.knownUdp
  wired := second.wired ∘ first.wired
  attached := second.attached ∘ first.attached
  sound holds := second.sound holds ∘ first.sound holds

theorem protocol_eq (step : ObjectStep guarded before after) :
    after.session.protocol = before.session.protocol :=
  congrArg SessionKey.protocol step.key

/-- A change of the session alone. -/
theorem ofSession {update : Session → Session} {object : SessionObject}
    (step : SessionStep object.session (update object.session)) :
    ObjectStep guarded object (object.updateSession update) where
  key := step.key
  aborting := step.aborting
  isValid := step.isValid
  isRegistered := rfl
  announced known :=
    (congrArg Option.isSome step.lastIpHeader).trans known
  knownTcp known :=
    (congrArg Option.isSome step.lastTcpHeader).trans known
  knownUdp known :=
    (congrArg Option.isSome step.lastUdpHeader).trans known
  wired wired := by
    refine ⟨?_, fun valid => wired.isOpen (step.isValid valid)⟩
    show object.channel.isSocket = _
    rw [wired.kind]
    exact congrArg (fun kind => decide (kind = SessionProtocol.tcp))
      step.protocol_eq.symm
  attached attached channel same isOpen := by
    rcases attached channel same isOpen with connected | pending
    · exact .inl (step.isConnected.trans connected)
    · exact .inr pending
  sound _ sound := by
    refine ⟨⟨?_, ?_⟩, ?_, ?_, ?_, ?_⟩
    · intro header last
      exact sound.headers.ip header (step.lastIpHeader.symm.trans last)
    · intro header last
      exact sound.headers.tcp header (step.lastTcpHeader.symm.trans last)
    · exact step.maxSegmentSize ▸ sound.small
    · intro registered
      exact (congrArg Option.isSome step.lastIpHeader).trans
        (sound.knownIp registered)
    · intro registered tcp
      exact (congrArg Option.isSome step.lastTcpHeader).trans
        (sound.knownTcp registered (step.protocol_eq.symm.trans tcp))
    · intro registered udp
      exact (congrArg Option.isSome step.lastUdpHeader).trans
        (sound.knownUdp registered (step.protocol_eq.symm.trans udp))

/-- A change of the last headers to some a packet can be built from. -/
structure Headers (guarded : Prop) (before after : Session) : Prop where
  key : after.getSessionKey = before.getSessionKey
  aborting : after.abortingConnection = before.abortingConnection
  selectionkey : after.selectionkey = before.selectionkey
  isConnected : after.isConnected = before.isConnected
  announced : after.lastIpHeader.isSome = true
  complete : guarded → before.HeadersComplete → after.HeadersComplete
  small :
    guarded → before.maxSegmentSize < 2 ^ 15 →
      after.maxSegmentSize < 2 ^ 15
  knownTcp :
    before.lastTcpHeader.isSome = true → after.lastTcpHeader.isSome = true
  knownUdp :
    before.lastUdpHeader.isSome = true → after.lastUdpHeader.isSome = true

theorem ofHeaders {update : Session → Session} {object : SessionObject}
    (step : Headers guarded object.session (update object.session)) :
    ObjectStep guarded object (object.updateSession update) where
  key := step.key
  aborting aborting := step.aborting.trans aborting
  isValid valid := by
    rw [← step.selectionkey]
    exact valid
  isRegistered := rfl
  announced _ := step.announced
  knownTcp := step.knownTcp
  knownUdp := step.knownUdp
  wired wired := by
    have protocol :
        (update object.session).protocol = object.session.protocol :=
      congrArg SessionKey.protocol step.key
    refine ⟨?_, fun valid => wired.isOpen ?_⟩
    · show object.channel.isSocket = _
      rw [wired.kind]
      exact congrArg (fun kind => decide (kind = SessionProtocol.tcp))
        protocol.symm
    · rw [← step.selectionkey]
      exact valid
  attached attached channel same isOpen := by
    rcases attached channel same isOpen with connected | pending
    · exact .inl (step.isConnected.trans connected)
    · exact .inr pending
  sound holds sound := by
    have protocol :
        (update object.session).protocol = object.session.protocol :=
      congrArg SessionKey.protocol step.key
    exact
      ⟨step.complete holds sound.headers, step.small holds sound.small,
        fun _ => step.announced,
        fun registered tcp =>
          step.knownTcp
            (sound.knownTcp registered (protocol.symm.trans tcp)),
        fun registered udp =>
          step.knownUdp
            (sound.knownUdp registered (protocol.symm.trans udp))⟩

/-- A change of the channel alone that neither opens nor closes it. -/
private theorem ofChannel {object : SessionObject}
    {channel : SelectableChannel}
    (kind : channel.isSocket = object.channel.isSocket)
    (isOpen : channel.isOpen = object.channel.isOpen)
    (pending :
      ∀ after, channel = .socket after →
        ∃ before, object.channel = .socket before ∧
          after.isConnectionPending = before.isConnectionPending) :
    ObjectStep guarded object { object with channel := channel } where
  key := rfl
  aborting := id
  isValid := id
  isRegistered := rfl
  announced := id
  knownTcp := id
  knownUdp := id
  wired wired :=
    ⟨kind.trans wired.kind, fun valid => isOpen.trans (wired.isOpen valid)⟩
  attached attached after same opened := by
    obtain ⟨before, was, samePending⟩ := pending after same
    have openBefore : before.isOpen = true := by
      have same' : channel.isOpen = before.isOpen := by
        rw [isOpen, was]
        rfl
      rw [← same', show channel = .socket after from same]
      exact opened
    rw [samePending]
    exact attached before was openBefore
  sound _ sound :=
    ⟨sound.headers, sound.small, sound.knownIp, sound.knownTcp,
      sound.knownUdp⟩

/-- A socket channel that reads or writes stays as open and as connected as
it was. -/
private theorem ofSocket {update : SocketChannel → SocketChannel}
    (isOpen : ∀ channel, (update channel).isOpen = channel.isOpen)
    (pending :
      ∀ channel,
        (update channel).isConnectionPending =
          channel.isConnectionPending)
    (object : SessionObject) :
    ObjectStep guarded object
      { object with channel := object.channel.mapSocket update } := by
  cases channel_eq : object.channel with
  | socket channel =>
      refine ofChannel ?_ ?_ ?_
      · rw [channel_eq]
        rfl
      · rw [channel_eq]
        exact isOpen channel
      · intro after same
        cases same
        exact ⟨channel, channel_eq, pending channel⟩
  | datagram channel =>
      refine ofChannel ?_ ?_ nofun
      · rw [channel_eq]
        rfl
      · rw [channel_eq]
        rfl

private theorem ofDatagram {update : DatagramChannel → DatagramChannel}
    (isOpen : ∀ channel, (update channel).isOpen = channel.isOpen)
    (object : SessionObject) :
    ObjectStep guarded object
      { object with channel := object.channel.mapDatagram update } := by
  cases channel_eq : object.channel with
  | socket channel =>
      refine ofChannel ?_ ?_ ?_
      · rw [channel_eq]
        rfl
      · rw [channel_eq]
        rfl
      · intro after same
        cases same
        exact ⟨channel, channel_eq, rfl⟩
  | datagram channel =>
      refine ofChannel ?_ ?_ nofun
      · rw [channel_eq]
        rfl
      · rw [channel_eq]
        exact isOpen channel

/-- A change of the connection that leaves an open channel connected or
about to be. -/
theorem ofConnection {object : SessionObject} {channel : SelectableChannel}
    {connected : Bool} {flow : LANFlow}
    (kind : channel.isSocket = object.channel.isSocket)
    (isOpen : channel.isOpen = object.channel.isOpen)
    (attached :
      object.Attached →
        ∀ after, channel = .socket after →
          connected = true ∨ after.isConnectionPending = true) :
    ObjectStep guarded object
      { object with
        session :=
          { object.session with isConnected := connected, flow := flow }
        channel := channel } where
  key := rfl
  aborting := id
  isValid := id
  isRegistered := rfl
  announced := id
  knownTcp := id
  knownUdp := id
  wired wired :=
    ⟨kind.trans wired.kind, fun valid => isOpen.trans (wired.isOpen valid)⟩
  attached before after same _ := attached before after same
  sound _ sound :=
    ⟨⟨sound.headers.ip, sound.headers.tcp⟩, sound.small, sound.knownIp,
      sound.knownTcp, sound.knownUdp⟩

theorem closeChannel (object : SessionObject) :
    ObjectStep guarded object object.closeChannel := by
  have kind :
      object.closeChannel.channel.isSocket = object.channel.isSocket := by
    rw [SessionObject.closeChannel]
    cases object.channel with
    | socket channel => rfl
    | datagram channel => rfl
  refine ⟨rfl, id, nofun, rfl, id, id, id, ?_, ?_, ?_⟩
  · intro wired
    exact ⟨kind.trans wired.kind, nofun⟩
  · intro _ channel same opened
    rw [SessionObject.closeChannel] at same
    cases channel_eq : object.channel with
    | socket before =>
        rw [channel_eq] at same
        cases same
        cases opened
    | datagram before =>
        rw [channel_eq] at same
        cases same
  · intro _ sound
    exact
      ⟨⟨sound.headers.ip, sound.headers.tcp⟩, sound.small, sound.knownIp,
        sound.knownTcp, sound.knownUdp⟩

end ObjectStep

/-! ## Changes of a session -/

namespace SessionStep

/-- A change of the key alone that does not revive it. -/
private theorem ofKey {session : Session} {key : SelectionKey}
    (isValid : key.isValid = true → session.selectionkey.isValid = true) :
    SessionStep session { session with selectionkey := key } :=
  ⟨rfl, id, isValid, rfl, rfl, rfl, rfl, rfl⟩

theorem cancelKey (session : Session) :
    SessionStep session session.cancelKey :=
  ofKey nofun

theorem subscribeKey (op : SelectionOp) (session : Session) :
    SessionStep session (session.subscribeKey op) :=
  ofKey fun valid =>
    (SelectionKey.isValid_changeInterest op true _).symm.trans valid

theorem unsubscribeKey (op : SelectionOp) (session : Session) :
    SessionStep session (session.unsubscribeKey op) :=
  ofKey fun valid =>
    (SelectionKey.isValid_changeInterest op false _).symm.trans valid

theorem setSendingData (data : ByteBuffer) (session : Session) :
    SessionStep session (session.setSendingData data).2 := by
  rw [Session.setSendingData]
  split
  · exact ⟨rfl, id, id, rfl, rfl, rfl, rfl, rfl⟩
  · exact ⟨rfl, id, id, rfl, rfl, rfl, rfl, rfl⟩

theorem acceptAck (tcpHeader : TCPHeader) (currentTime : Int)
    (session : Session) :
    SessionStep session
      (SessionHandler.acceptAck tcpHeader currentTime session) := by
  by_cases advances : SessionHandler.Advances session tcpHeader
  · rw [SessionHandler.acceptAck_advances advances]
    exact ⟨rfl, id, id, rfl, rfl, rfl, rfl, rfl⟩
  · rw [SessionHandler.acceptAck_stale advances]
    exact ⟨rfl, id, id, rfl, rfl, rfl, rfl, rfl⟩

end SessionStep

/-! ## The engine -/

section UpdateObject

variable {engine : Engine} {id other : Nat}
  {update : SessionObject → SessionObject}

theorem Engine.updateObject_self :
    (engine.updateObject id update).sessions id =
      update (engine.sessions id) :=
  Function.update_self ..

theorem Engine.updateObject_of_ne (different : other ≠ id) :
    (engine.updateObject id update).sessions other =
      engine.sessions other :=
  Function.update_of_ne different ..

end UpdateObject

/-- The table and the threads are as they were, and every object has at
most made a step. -/
structure Steady (guarded : Prop) (before after : Engine) : Prop where
  table : after.table = before.table
  closed : after.closed = before.closed
  allocated : after.allocated = before.allocated
  packetThread : after.packetThread = before.packetThread
  nioThread : after.nioThread = before.nioThread
  objects :
    ∀ id, ObjectStep guarded (before.sessions id) (after.sessions id)

namespace Steady

variable {guarded : Prop}

instance : Std.Refl (Steady guarded) :=
  ⟨fun _ => ⟨rfl, rfl, rfl, rfl, rfl, fun _ => ObjectStep.refl _⟩⟩

instance : IsTrans Engine (Steady guarded) where
  trans _ _ _ first second :=
    ⟨second.table.trans first.table, second.closed.trans first.closed,
      second.allocated.trans first.allocated,
      second.packetThread.trans first.packetThread,
      second.nioThread.trans first.nioThread,
      fun id => (first.objects id).trans (second.objects id)⟩

theorem update {update : SessionObject → SessionObject} {id : Nat}
    {engine : Engine}
    (step :
      ObjectStep guarded (engine.sessions id)
        (update (engine.sessions id))) :
    Steady guarded engine (engine.updateObject id update) := by
  refine ⟨rfl, rfl, rfl, rfl, rfl, ?_⟩
  intro other
  by_cases same : other = id
  · rw [same, Engine.updateObject_self]
    exact step
  · rw [Engine.updateObject_of_ne same]
    exact ObjectStep.refl _

end Steady

open Program

section Fields

variable {guarded : Prop} {id : Nat}

private theorem respects_readObject :
    Respects (Steady guarded) (readObject id) :=
  respects_get.bind fun _ => respects_pure _

private theorem respects_readSession :
    Respects (Steady guarded) (readSession id) :=
  respects_get.bind fun _ => respects_pure _

/-- What is read of a session may be used with the engine it was read in.
-/
private theorem respects_session {Value : Type}
    {next : Session → Running Value}
    (right :
      ∀ engine,
        Steady guarded engine
          ((next (engine.sessions id).session).final engine)) :
    Respects (Steady guarded) (readSession id >>= next) :=
  right

private theorem respects_getSession (key : SessionKey) :
    Respects (Steady guarded) (getSession key) :=
  respects_get.bind fun _ => respects_pure _

theorem respects_updateSession {update : Session → Session}
    (step : ∀ session, SessionStep session (update session)) :
    Respects (Steady guarded) (updateSession id update) :=
  respects_modify fun engine =>
    Steady.update (ObjectStep.ofSession (step (engine.sessions id).session))

/-- An update of fields that `SessionStep` does not mention. -/
theorem SessionStep.plain {before after : Session}
    (key : after.getSessionKey = before.getSessionKey)
    (abortingConnection :
      after.abortingConnection = before.abortingConnection)
    (selectionkey : after.selectionkey = before.selectionkey)
    (lastIpHeader : after.lastIpHeader = before.lastIpHeader)
    (lastTcpHeader : after.lastTcpHeader = before.lastTcpHeader)
    (lastUdpHeader : after.lastUdpHeader = before.lastUdpHeader)
    (maxSegmentSize : after.maxSegmentSize = before.maxSegmentSize)
    (isConnected : after.isConnected = before.isConnected) :
    SessionStep before after :=
  ⟨key, fun aborting => abortingConnection.trans aborting,
    fun valid => selectionkey ▸ valid, lastIpHeader, lastTcpHeader,
    lastUdpHeader, maxSegmentSize, isConnected⟩

private theorem respects_updateKey {update : Session → Session}
    (step : ∀ session, SessionStep session (update session)) :
    Respects (Steady guarded) (updateKey id update) :=
  respects_readObject.bind fun _ =>
    .ite (respects_updateSession step) (respects_throw _)

theorem respects_cancelKey :
    Respects (Steady guarded) (cancelKey id) :=
  respects_updateKey SessionStep.cancelKey

theorem respects_subscribeKey (op : SelectionOp) :
    Respects (Steady guarded) (subscribeKey op id) :=
  respects_updateKey (SessionStep.subscribeKey op)

theorem respects_setAbortingConnection :
    Respects (Steady guarded) (setAbortingConnection id) :=
  respects_updateSession fun _ =>
    ⟨rfl, fun _ => rfl, fun valid => valid, rfl, rfl, rfl, rfl, rfl⟩

private theorem respects_updateSocket {update : SocketChannel → SocketChannel}
    (isOpen : ∀ channel, (update channel).isOpen = channel.isOpen)
    (pending :
      ∀ channel,
        (update channel).isConnectionPending =
          channel.isConnectionPending) :
    Respects (Steady guarded) (updateSocket id update) :=
  respects_modify fun _ =>
    Steady.update (ObjectStep.ofSocket isOpen pending _)

theorem respects_updateDatagram
    {update : DatagramChannel → DatagramChannel}
    (isOpen : ∀ channel, (update channel).isOpen = channel.isOpen) :
    Respects (Steady guarded) (updateDatagram id update) :=
  respects_modify fun _ => Steady.update (ObjectStep.ofDatagram isOpen _)

/-! ## Packets -/

theorem respects_getPacketId :
    Respects (Steady guarded) getPacketId := by
  intro engine
  exact ⟨rfl, rfl, rfl, rfl, rfl, fun _ => ObjectStep.refl _⟩

theorem respects_write (data : List UInt8) :
    Respects (Steady guarded) (write data) :=
  respects_modify fun _ =>
    ⟨rfl, rfl, rfl, rfl, rfl, fun _ => ObjectStep.refl _⟩

theorem respects_built (bytes : Except JavaException (List UInt8)) :
    Respects (Steady guarded) (built bytes) := by
  unfold built
  cases bytes with
  | ok data => exact respects_pure _
  | error exception => exact respects_throw _

private theorem respects_buildPacket (packet : Packet) :
    Respects (Steady guarded) (buildPacket packet) :=
  respects_getPacketId.bind fun _ => respects_built _

theorem respects_sendPacket (packet : Packet) :
    Respects (Steady guarded) (sendPacket packet) :=
  (respects_buildPacket packet).bind fun _ => respects_write _

theorem respects_addClientData (buffer : ByteBuffer) :
    Respects (Steady guarded) (addClientData buffer id) :=
  .ite (respects_pure _)
    ((respects_updateSession (SessionStep.setSendingData buffer)).bind
      fun _ => respects_pure _)

end Fields

/-! ## The NIO thread -/

namespace NioThread

variable {guarded : Prop} {id : Nat}

private theorem respects_sendSegment (ipHeader : IPHeader)
    (tcpheader : TCPHeader)
    (packetBody : List UInt8) :
    Respects (Steady guarded)
      (sendSegment ipHeader tcpheader packetBody id) := by
  apply respects_readSession.bind
  intro before
  apply Respects.bind
  · apply respects_updateSession
    intro session
    exact .plain rfl rfl rfl rfl rfl rfl rfl rfl
  · intro _
    apply respects_readSession.bind
    intro session
    exact respects_sendPacket _

private theorem respects_pumpStaged (ipHeader : IPHeader)
    (tcpheader : TCPHeader)
    (segMax : Int) (rounds : Nat) :
    Respects (Steady guarded)
      (pumpStaged ipHeader tcpheader segMax id rounds) := by
  induction rounds with
  | zero => exact respects_pure _
  | succ rounds inductionHypothesis =>
      apply respects_readSession.bind
      intro session
      dsimp only
      apply Respects.ite
      · apply Respects.ite
        · exact respects_pure _
        · apply Respects.bind
          · apply respects_updateSession
            intro session
            exact .plain rfl rfl rfl rfl rfl rfl rfl rfl
          · intro _
            apply Respects.ite
            · exact respects_pure _
            · apply (respects_sendSegment _ _ _).bind
              intro _
              exact inductionHypothesis
      · exact respects_pure _

/-- The headers `createFinData` makes of complete headers are complete. -/
theorem finPacket_complete {ipHeader : IPHeader} {tcpheader : TCPHeader}
    (ipComplete : ipHeader.Complete) (tcpComplete : tcpheader.Complete)
    (session : Session) :
    (finPacket ipHeader tcpheader session).ipHeader.Complete ∧
      (finPacket ipHeader tcpheader session).transportHeader.Complete := by
  refine ⟨?_, ⟨tcpComplete.long, tcpComplete.short, rfl⟩⟩
  cases ipHeader with
  | v4 header =>
      exact
        ⟨ipComplete.long, ipComplete.short, ipComplete.destination_length,
          ipComplete.source_length⟩
  | v6 header =>
      exact ⟨ipComplete.destination_length, ipComplete.source_length⟩

theorem takeHeaders_step {packet : Packet} {object : SessionObject}
    (complete :
      guarded → object.session.HeadersComplete →
        packet.ipHeader.Complete ∧ packet.transportHeader.Complete) :
    ObjectStep guarded object
      (object.updateSession (takeHeaders packet)) := by
  refine ObjectStep.ofHeaders ⟨rfl, rfl, rfl, rfl, rfl, ?_, ?_, ?_, ?_⟩
  · intro holds before
    refine ⟨?_, ?_⟩
    · intro header last
      cases last
      exact (complete holds before).1
    · intro header last
      cases last
      exact (complete holds before).2
  · exact fun _ small => small
  · exact fun _ => rfl
  · exact fun known => known

private theorem respects_sendFin :
    Respects (Steady guarded) (sendFin id) := by
  apply respects_session
  intro engine
  split
  · next ipHeader tcpheader lastIp lastTcp =>
    refine IsTrans.trans _ _ _ ?_ (respects_sendPacket _ _)
    apply Steady.update
    apply takeHeaders_step
    intro _ complete
    exact
      finPacket_complete (complete.ip _ lastIp) (complete.tcp _ lastTcp) _
  · exact Std.Refl.refl _

private theorem respects_afterPump :
    Respects (Steady guarded) (afterPump id) := by
  apply respects_readSession.bind
  intro session
  apply Respects.ite
  · apply respects_sendFin.bind
    intro _
    exact respects_setAbortingConnection
  · apply Respects.ite
    · exact respects_subscribeKey .read
    · exact respects_pure _

theorem respects_pumpToClient :
    Respects (Steady guarded) (pumpToClient id) := by
  apply respects_readSession.bind
  intro session
  split
  · apply (respects_pumpStaged _ _ _ _).bind
    intro _
    exact respects_afterPump
  · exact respects_pure _

/-- A read changes what the channel has returned, and whether it has
ended. -/
private theorem read_channel (outcome : ReadOutcome)
    (channel : SocketChannel) :
    (channel.read outcome).2 =
      { channel with
        atEnd := (channel.read outcome).2.atEnd
        received := (channel.read outcome).2.received } := by
  unfold SocketChannel.read
  cases outcome with
  | data chunk =>
      dsimp only
      split
      · rfl
      · rfl
  | nothing =>
      dsimp only
      split
      · rfl
      · rfl
  | endOfStream => rfl
  | failure exception => rfl

theorem respects_readSocket (outcome : ReadOutcome) :
    Respects (Steady guarded)
      (updateSocket id fun channel => (channel.read outcome).2) := by
  apply respects_updateSocket
  · intro channel
    rw [read_channel]
  · intro channel
    rw [read_channel]

theorem respects_closeIfConnected :
    Respects (Steady guarded) (closeIfConnected id) := by
  apply respects_readObject.bind
  intro object
  apply Respects.ite
  · apply respects_modify
    intro engine
    exact Steady.update (ObjectStep.closeChannel _)
  · exact respects_pure _

theorem respects_writeSocket (outcomes : List WriteOutcome)
    (buffer : ByteBuffer) :
    Respects (Steady guarded)
      (updateSocket id fun channel =>
        (SocketChannelWriter.writeLoop outcomes buffer channel).2.1) := by
  apply respects_updateSocket
  · intro channel
    rw [SocketChannelWriter.writeLoop_channel]
  · intro channel
    rw [SocketChannelWriter.writeLoop_channel]

/-- `finishConnect` answers for a channel that is being connected. -/
theorem connectAnswered_step {object : SessionObject}
    {channel : SocketChannel} (socket : object.channel = .socket channel)
    (pending : channel.isConnectionPending = true) (connected : Bool) :
    ObjectStep guarded object (connectAnswered connected object) := by
  rw [connectAnswered]
  rw [socket]
  apply ObjectStep.ofConnection
  · rw [socket]
    rfl
  · rw [socket]
    cases connected with
    | true => rfl
    | false => rfl
  · intro _ after same
    cases same
    cases connected with
    | true => exact .inl rfl
    | false => exact .inr pending

end NioThread

/-! ## The packet thread -/

namespace PacketHandling

variable {guarded : Prop} {id : Nat}

private theorem respects_sendAck (segment : TcpSegment)
    (acceptedDataLength : Nat)
    (currentTime : Int) :
    Respects (Steady guarded)
      (sendAck segment acceptedDataLength currentTime id) := by
  apply respects_readSession.bind
  intro session
  apply Respects.bind
  · apply respects_updateSession
    intro session
    exact .plain rfl rfl rfl rfl rfl rfl rfl rfl
  · intro _
    exact respects_sendPacket _

theorem respects_resendAck (currentTime : Int) :
    Respects (Steady guarded) (resendAck currentTime id) := by
  apply respects_readSession.bind
  intro session
  split
  · exact respects_sendPacket _
  · exact respects_throw _

private theorem respects_sendFinAck (segment : TcpSegment)
    (currentTime : Int) :
    Respects (Steady guarded) (sendFinAck segment currentTime id) := by
  apply (respects_sendPacket _).bind
  intro _
  apply respects_updateSession
  intro session
  exact .plain rfl rfl rfl rfl rfl rfl rfl rfl

theorem respects_pushDataToDestination (tcp : TCPHeader)
    (currentTime : Int) :
    Respects (Steady guarded) (pushDataToDestination tcp currentTime id) := by
  apply Respects.bind
  · apply respects_updateSession
    intro session
    exact .plain rfl rfl rfl rfl rfl rfl rfl rfl
  · intro _
    exact respects_subscribeKey .write

theorem respects_resetTCPConnection (segment : TcpSegment) :
    Respects (Steady guarded) (resetTCPConnection segment) := by
  apply (respects_getSession _).bind
  intro session
  split
  · exact respects_pure _
  · exact respects_setAbortingConnection

private theorem respects_noteSegment {segment : TcpSegment}
    (complete :
      guarded →
        segment.ipHeader.Complete ∧ segment.tcpheader.Complete) :
    Respects (Steady guarded) (updateSession id (noteSegment segment)) := by
  apply respects_modify
  intro engine
  apply Steady.update
  refine ObjectStep.ofHeaders ⟨rfl, rfl, rfl, rfl, rfl, ?_, ?_, ?_, ?_⟩
  · intro holds _
    refine ⟨?_, ?_⟩
    · intro header last
      cases last
      exact (complete holds).1
    · intro header last
      cases last
      exact (complete holds).2
  · exact fun _ small => small
  · exact fun _ => rfl
  · exact fun known => known

private theorem respects_handleData (segment : TcpSegment)
    (currentTime : Int) :
    Respects (Steady guarded) (handleData segment currentTime id) := by
  apply respects_readSession.bind
  intro session
  apply Respects.ite
  · apply (respects_addClientData _).bind
    intro addedLength
    exact respects_sendAck segment addedLength currentTime
  · exact respects_sendPacket _

/-- `ackedToFin` is never set, so no session is closed here. -/
private theorem respects_handleAck (segment : TcpSegment)
    (currentTime : Int) :
    Respects (Steady guarded) (handleAck segment currentTime id) := by
  apply Respects.bind
  · exact respects_updateSession (SessionStep.acceptAck _ currentTime)
  · intro _
    apply respects_readSession.bind
    intro session
    apply Respects.ite
    · exact respects_sendFinAck segment currentTime
    · exact respects_pure _

theorem respects_handleBody {segment : TcpSegment}
    (complete :
      guarded →
        segment.ipHeader.Complete ∧ segment.tcpheader.Complete)
    (currentTime : Int) :
    Respects (Steady guarded) (handleBody segment currentTime id) := by
  apply (respects_noteSegment complete).bind
  intro _
  apply Respects.ite
  · exact respects_handleData segment currentTime
  · exact respects_handleAck segment currentTime

theorem respects_handleUnknown (segment : TcpSegment)
    (currentTime : Int) :
    Respects (Steady guarded) (handleUnknown segment currentTime) := by
  apply Respects.ite
  · exact respects_sendPacket _
  · apply Respects.ite
    · exact respects_pure _
    · exact respects_sendPacket _

theorem respects_noteDatagram {datagram : UdpDatagram}
    (complete : guarded → datagram.ipHeader.Complete) :
    Respects (Steady guarded) (updateSession id (noteDatagram datagram)) := by
  apply respects_modify
  intro engine
  apply Steady.update
  refine ObjectStep.ofHeaders ⟨rfl, rfl, rfl, rfl, rfl, ?_, ?_, ?_, ?_⟩
  · intro holds before
    refine ⟨?_, before.tcp⟩
    intro header last
    cases last
    exact complete holds
  · exact fun _ small => small
  · exact fun known => known
  · exact fun _ => rfl

private theorem respects_parsed {Header : Type} (header : Reading Header)
    (stream : ByteBuffer) :
    Respects (Steady guarded) (parsed header stream) := by
  rw [parsed]
  split
  · exact respects_pure _
  · exact respects_throw _

/-- Until a session is found or opened, nothing of the sessions changes. -/
private theorem respects_handleTCPPacket (segment : TcpSegment)
    (answers : Answers) :
    Respects (Steady guarded) (handleTCPPacket segment answers) := by
  apply Respects.ite
  · apply (respects_buildPacket _).bind
    intro data
    exact respects_pure _
  apply Respects.ite
  · apply (respects_getSession _).bind
    intro session
    split
    · exact respects_pure _
    · apply (respects_handleUnknown _ _).bind
      intro _
      exact respects_pure _
  apply Respects.ite
  · apply (respects_getSession _).bind
    intro session
    split
    · exact respects_pure _
    · apply (respects_sendPacket _).bind
      intro _
      exact respects_pure _
  apply Respects.ite
  · apply (respects_getSession _).bind
    intro session
    split
    · exact respects_pure _
    · exact respects_pure _
  exact respects_pure _

private theorem respects_handleUDPPacket (datagram : UdpDatagram) :
    Respects (Steady guarded) (handleUDPPacket datagram) := by
  apply (respects_getSession _).bind
  intro session
  split
  · exact respects_pure _
  · exact respects_pure _

theorem respects_handlePacket (stream : ByteBuffer) (answers : Answers) :
    Respects (Steady guarded) (handlePacket stream answers) := by
  apply (respects_parsed _ _).bind
  rintro ⟨ipHeader, behindIp⟩
  dsimp only
  split
  · apply (respects_parsed _ _).bind
    rintro ⟨tcpheader, data⟩
    exact respects_handleTCPPacket _ answers
  · apply (respects_parsed _ _).bind
    rintro ⟨udpheader, data⟩
    exact respects_handleUDPPacket _
  · exact respects_pure _
  · exact respects_pure _
  · exact respects_pure _

end PacketHandling

end LanShield.Vpn
