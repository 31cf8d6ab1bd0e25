import LanShield.Vpn.DatagramQueue

/-!
# Where sessions come from

Sessions keep the 5-tuple they were opened for, and only the two steps of the
packet thread that create a session add one.  `Origins` says so of a program:
the sessions it adds are for allowed 5-tuples, and it leaves the headers and
the datagrams of all sessions but some own ones.
-/

namespace LanShield.Vpn

open LanShield.Library LanShield.Java LanShield.Transport Program

/-! ## What is recorded of a session -/

/-- The datagrams a channel has returned so far. -/
def SelectableChannel.receivedDatagrams :
    SelectableChannel → List (List UInt8)
  | socket _ => []
  | datagram channel => channel.received

/-- The headers a response is built from, and the datagrams the channel has
returned, those it has taken and those that still wait for it. -/
structure SessionRecord where
  lastIpHeader : Option IPHeader
  lastUdpHeader : Option UDPHeader
  received : List (List UInt8)
  sent : List (List UInt8)
  queued : List (List UInt8)

namespace SessionObject

def recorded (object : SessionObject) : SessionRecord where
  lastIpHeader := object.session.lastIpHeader
  lastUdpHeader := object.session.lastUdpHeader
  received := object.channel.receivedDatagrams
  sent := object.channel.sentDatagrams
  queued := object.session.sendingDatagrams

/-- Nothing is recorded yet. -/
def IsBlank (object : SessionObject) : Prop :=
  object.recorded = ⟨none, none, [], [], []⟩

theorem recorded_mapSocket (update : SocketChannel → SocketChannel)
    (object : SessionObject) :
    recorded { object with channel := object.channel.mapSocket update } =
      object.recorded := by
  rw [recorded, recorded]
  cases object.channel with
  | socket channel => rfl
  | datagram channel => rfl

theorem recorded_mapDatagram {update : DatagramChannel → DatagramChannel}
    (received : ∀ channel, (update channel).received = channel.received)
    (sent : ∀ channel, (update channel).sent = channel.sent)
    (object : SessionObject) :
    recorded { object with channel := object.channel.mapDatagram update } =
      object.recorded := by
  rw [recorded, recorded]
  cases object.channel with
  | socket channel => rfl
  | datagram channel =>
      exact congrArg₂ (SessionRecord.mk _ _ · · _) (received channel)
        (sent channel)

theorem recorded_closeChannel (object : SessionObject) :
    object.closeChannel.recorded = object.recorded := by
  rw [recorded, recorded, closeChannel]
  cases object.channel with
  | socket channel => rfl
  | datagram channel => rfl

end SessionObject

/-- A change of a session that leaves its 5-tuple and what is recorded. -/
structure SameOrigin (before after : Session) : Prop where
  key : after.getSessionKey = before.getSessionKey
  lastIpHeader : after.lastIpHeader = before.lastIpHeader
  lastUdpHeader : after.lastUdpHeader = before.lastUdpHeader
  queued : after.sendingDatagrams = before.sendingDatagrams

theorem SameOrigin.recorded {update : Session → Session}
    {object : SessionObject}
    (same : SameOrigin object.session (update object.session)) :
    (object.updateSession update).recorded = object.recorded := by
  rw [SessionObject.recorded, SessionObject.recorded,
    SessionObject.updateSession, same.lastIpHeader, same.lastUdpHeader,
    same.queued]

/-! ## Engines -/

/-- Older sessions are for the 5-tuples they were for, newer ones for allowed
ones, and what is recorded of a session that is not an own one stays; of a
new one nothing is recorded. -/
structure Openings (allowed : SessionKey → Prop) (own : Nat → Prop)
    (before after : Engine) : Prop where
  grown : before.allocated ≤ after.allocated
  older :
    ∀ id, id < before.allocated →
      after.getSessionKey id = before.getSessionKey id
  newer :
    ∀ id, before.allocated ≤ id → id < after.allocated →
      allowed (after.getSessionKey id)
  recorded :
    ∀ id, ¬ own id →
      id < before.allocated ∨ (before.sessions id).IsBlank →
        (after.sessions id).recorded = (before.sessions id).recorded

/-- The same, while the packet thread stands where it stood. -/
structure Origins (allowed : SessionKey → Prop) (own : Nat → Prop)
    (before after : Engine) : Prop extends
    Openings allowed own before after where
  packetThread : after.packetThread = before.packetThread

namespace Origins

variable {allowed : SessionKey → Prop} {own : Nat → Prop}
  {before after : Engine}

instance : Std.Refl (Origins allowed own) :=
  ⟨fun _ =>
    { packetThread := rfl
      grown := le_refl _
      older := fun _ _ => rfl
      newer := fun _ above below => absurd below (Nat.not_lt.mpr above)
      recorded := fun _ _ _ => rfl }⟩

theorem trans {middle : Engine} (first : Origins allowed own before middle)
    (second : Origins allowed own middle after) :
    Origins allowed own before after where
  packetThread := second.packetThread.trans first.packetThread
  grown := first.grown.trans second.grown
  older := by
    intro id below
    rw [second.older id (below.trans_le first.grown), first.older id below]
  newer := by
    intro id above below
    by_cases earlier : id < middle.allocated
    · rw [second.older id earlier]
      exact first.newer id above earlier
    · exact second.newer id (Nat.le_of_not_lt earlier) below
  recorded := by
    intro id other known
    have same := first.recorded id other known
    refine (second.recorded id other ?_).trans same
    rcases known with below | blank
    · exact Or.inl (below.trans_le first.grown)
    · exact Or.inr (same.trans blank)

instance : IsTrans Engine (Origins allowed own) :=
  ⟨fun _ _ _ => trans⟩

/-- A change that adds no session. -/
private theorem ofSessions
    (packetThread : after.packetThread = before.packetThread)
    (allocated : after.allocated = before.allocated)
    (sessions : after.sessions = before.sessions) :
    Origins allowed own before after where
  packetThread := packetThread
  grown := allocated.ge
  older := by
    intro id _
    rw [Engine.getSessionKey, Engine.getSessionKey, sessions]
  newer := by
    intro id above below
    rw [allocated] at below
    exact absurd below (Nat.not_lt.mpr above)
  recorded := by
    intro id _ _
    rw [sessions]

theorem update {engine : Engine} {id : Nat}
    {update : SessionObject → SessionObject}
    (key :
      (update (engine.sessions id)).session.getSessionKey =
        engine.getSessionKey id)
    (recorded :
      ¬ own id →
        (update (engine.sessions id)).recorded =
          (engine.sessions id).recorded) :
    Origins allowed own engine (engine.updateObject id update) where
  packetThread := rfl
  grown := le_refl _
  older := by
    intro other _
    rw [Engine.getSessionKey, Engine.getSessionKey]
    by_cases same : other = id
    · rw [same, Engine.updateObject_self]
      exact key
    · rw [Engine.updateObject_of_ne same]
  newer := fun _ above below => absurd below (Nat.not_lt.mpr above)
  recorded := by
    intro other notOwn _
    by_cases same : other = id
    · rw [same] at notOwn ⊢
      rw [Engine.updateObject_self]
      exact recorded notOwn
    · rw [Engine.updateObject_of_ne same]

theorem closeSession (key : SessionKey) (engine : Engine) :
    Origins allowed own engine (engine.closeSession key) := by
  rw [Engine.closeSession]
  cases engine.table key with
  | none => exact Std.Refl.refl engine
  | some removed =>
      have closed :
          Origins allowed own engine
            (engine.updateObject removed SessionObject.closeChannel) :=
        update rfl fun _ => SessionObject.recorded_closeChannel _
      exact
        ⟨⟨closed.grown, closed.older, closed.newer, closed.recorded⟩, rfl⟩

/-- A new session is for an allowed 5-tuple, with nothing recorded. -/
theorem allocate {object : SessionObject} (engine : Engine)
    (permitted : allowed object.session.getSessionKey)
    (blank : object.IsBlank) :
    Origins allowed own engine (engine.allocate object) where
  packetThread := rfl
  grown := Nat.le_succ _
  older := by
    intro id below
    exact
      congrArg (fun object : SessionObject => object.session.getSessionKey)
        (Function.update_of_ne (Nat.ne_of_lt below) ..)
  newer := by
    intro id above below
    have last : id = engine.allocated :=
      Nat.le_antisymm (Nat.le_of_lt_succ below) above
    subst id
    have created :
        (engine.allocate object).getSessionKey engine.allocated =
          object.session.getSessionKey :=
      congrArg (fun object : SessionObject => object.session.getSessionKey)
        (Function.update_self ..)
    rw [created]
    exact permitted
  recorded := by
    intro id _ known
    by_cases last : id = engine.allocated
    · subst id
      have before :=
        known.resolve_left (Nat.lt_irrefl engine.allocated)
      have created :
          (engine.allocate object).sessions engine.allocated = object :=
        Function.update_self ..
      rw [created]
      exact blank.trans before.symm
    · exact
        congrArg SessionObject.recorded (Function.update_of_ne last ..)

end Origins

/-! ## Programs -/

/-- The program adds sessions for allowed 5-tuples only, and records
something of own sessions only. -/
abbrev OpensOnly (allowed : SessionKey → Prop) (own : Nat → Prop)
    {Value : Type} (program : Running Value) : Prop :=
  Respects (Origins allowed own) program

section Programs

variable {allowed : SessionKey → Prop} {own : Nat → Prop} {id : Nat}

theorem opensOnly_readSession : OpensOnly allowed own (readSession id) :=
  respects_get.bind fun _ => respects_pure _

theorem opensOnly_readObject : OpensOnly allowed own (readObject id) :=
  respects_get.bind fun _ => respects_pure _

theorem opensOnly_getSession (key : SessionKey) :
    OpensOnly allowed own (getSession key) :=
  respects_get.bind fun _ => respects_pure _

theorem opensOnly_updateSession {update : Session → Session}
    (same : ∀ session, SameOrigin session (update session)) :
    OpensOnly allowed own (updateSession id update) :=
  respects_modify fun _ =>
    .update (same _).key fun _ => (same _).recorded

/-- An own session may get other headers and datagrams. -/
theorem opensOnly_updateOwn {update : Session → Session} (mine : own id)
    (key :
      ∀ session, (update session).getSessionKey = session.getSessionKey) :
    OpensOnly allowed own (updateSession id update) :=
  respects_modify fun _ => .update (key _) fun other => absurd mine other

theorem opensOnly_updateObject {update : SessionObject → SessionObject}
    (key :
      ∀ object,
        (update object).session.getSessionKey =
          object.session.getSessionKey)
    (recorded : ∀ object, (update object).recorded = object.recorded) :
    OpensOnly allowed own (modify (Engine.updateObject id update)) :=
  respects_modify fun _ => .update (key _) fun _ => recorded _

theorem opensOnly_closeChannel :
    OpensOnly allowed own
      (modify (Engine.updateObject id SessionObject.closeChannel)) :=
  opensOnly_updateObject (fun _ => rfl) SessionObject.recorded_closeChannel

private theorem opensOnly_updateSocket
    (update : SocketChannel → SocketChannel) :
    OpensOnly allowed own (updateSocket id update) :=
  opensOnly_updateObject (fun _ => rfl)
    (SessionObject.recorded_mapSocket update)

private theorem opensOnly_updateKey {update : Session → Session}
    (same : ∀ session, SameOrigin session (update session)) :
    OpensOnly allowed own (updateKey id update) :=
  opensOnly_readObject.bind fun _ =>
    .ite (opensOnly_updateSession same) (respects_throw _)

theorem opensOnly_subscribeKey (op : SelectionOp) :
    OpensOnly allowed own (subscribeKey op id) :=
  opensOnly_updateKey fun _ => ⟨rfl, rfl, rfl, rfl⟩

private theorem opensOnly_unsubscribeKey (op : SelectionOp) :
    OpensOnly allowed own (unsubscribeKey op id) :=
  opensOnly_updateKey fun _ => ⟨rfl, rfl, rfl, rfl⟩

theorem opensOnly_cancelKey : OpensOnly allowed own (cancelKey id) :=
  opensOnly_updateKey fun _ => ⟨rfl, rfl, rfl, rfl⟩

theorem opensOnly_setAbortingConnection :
    OpensOnly allowed own (setAbortingConnection id) :=
  opensOnly_updateSession fun _ => ⟨rfl, rfl, rfl, rfl⟩

private theorem opensOnly_getPacketId : OpensOnly allowed own getPacketId :=
  fun _ => .ofSessions rfl rfl rfl

theorem opensOnly_write (data : List UInt8) :
    OpensOnly allowed own (write data) :=
  respects_modify fun _ => .ofSessions rfl rfl rfl

private theorem opensOnly_built (bytes : Except JavaException (List UInt8)) :
    OpensOnly allowed own (built bytes) := by
  unfold built
  cases bytes with
  | ok data => exact respects_pure _
  | error exception => exact respects_throw _

theorem opensOnly_buildPacket (packet : Packet) :
    OpensOnly allowed own (buildPacket packet) :=
  opensOnly_getPacketId.bind fun _ => opensOnly_built _

theorem opensOnly_sendPacket (packet : Packet) :
    OpensOnly allowed own (sendPacket packet) :=
  (opensOnly_buildPacket packet).bind fun _ => opensOnly_write _

theorem opensOnly_keepSessionAlive :
    OpensOnly allowed own (keepSessionAlive id) :=
  respects_modify fun _ => .ofSessions rfl rfl rfl

theorem opensOnly_closeSession (key : SessionKey) :
    OpensOnly allowed own (closeSession key) :=
  respects_modify fun engine => .closeSession key engine

theorem opensOnly_closeSessionOf :
    OpensOnly allowed own (closeSessionOf id) :=
  opensOnly_readSession.bind fun _ => opensOnly_closeSession _

theorem opensOnly_addClientData (mine : own id) (buffer : ByteBuffer) :
    OpensOnly allowed own (addClientData buffer id) := by
  apply Respects.ite
  · exact respects_pure _
  · apply Respects.bind
    · apply opensOnly_updateOwn mine
      intro session
      exact (SessionStep.setSendingData buffer session).key
    · intro _
      exact respects_pure _

theorem opensOnly_platformCall (call : OpeningCall) (answers : Answers) :
    OpensOnly allowed own (platformCall call answers) :=
  .ite (respects_throw _) (respects_pure _)

theorem opensOnly_startFlow (length : Int) (connected : Bool) :
    OpensOnly allowed own (startFlow length connected id) :=
  opensOnly_updateSession fun _ => ⟨rfl, rfl, rfl, rfl⟩

end Programs

/-! ## The NIO thread -/

namespace NioThread

open SocketNIODataService

variable {allowed : SessionKey → Prop} {own : Nat → Prop} {id : Nat}

private theorem opensOnly_sendSegment (ipHeader : IPHeader)
    (tcpheader : TCPHeader)
    (packetBody : List UInt8) :
    OpensOnly allowed own (sendSegment ipHeader tcpheader packetBody id) := by
  apply opensOnly_readSession.bind
  intro before
  apply Respects.bind
  · exact opensOnly_updateSession fun _ => ⟨rfl, rfl, rfl, rfl⟩
  intro _
  apply opensOnly_readSession.bind
  intro session
  exact opensOnly_sendPacket _

private theorem opensOnly_pumpStaged (ipHeader : IPHeader)
    (tcpheader : TCPHeader)
    (segMax : Int) (rounds : Nat) :
    OpensOnly allowed own
      (pumpStaged ipHeader tcpheader segMax id rounds) := by
  induction rounds with
  | zero => exact respects_pure _
  | succ rounds inductionHypothesis =>
      apply opensOnly_readSession.bind
      intro session
      dsimp only
      apply Respects.ite
      · apply Respects.ite
        · exact respects_pure _
        apply Respects.bind
        · exact opensOnly_updateSession fun _ => ⟨rfl, rfl, rfl, rfl⟩
        intro _
        apply Respects.ite
        · exact respects_pure _
        apply (opensOnly_sendSegment _ _ _).bind
        intro _
        exact inductionHypothesis
      · exact respects_pure _

/-- The pump may change the last headers of the session it sends for. -/
private theorem opensOnly_sendFin (mine : own id) :
    OpensOnly allowed own (sendFin id) := by
  apply opensOnly_readSession.bind
  intro session
  split
  · apply Respects.bind
    · exact opensOnly_updateOwn mine fun _ => rfl
    intro _
    exact opensOnly_sendPacket _
  · exact respects_throw _

private theorem opensOnly_afterPump (mine : own id) :
    OpensOnly allowed own (afterPump id) := by
  apply opensOnly_readSession.bind
  intro session
  apply Respects.ite
  · apply (opensOnly_sendFin mine).bind
    intro _
    exact opensOnly_setAbortingConnection
  apply Respects.ite
  · exact opensOnly_subscribeKey .read
  · exact respects_pure _

theorem opensOnly_pumpToClient (mine : own id) :
    OpensOnly allowed own (pumpToClient id) := by
  apply opensOnly_readSession.bind
  intro session
  split
  · apply (opensOnly_pumpStaged _ _ _ _).bind
    intro _
    exact opensOnly_afterPump mine
  · exact respects_pure _

private theorem opensOnly_sendToRequester (mine : own id) (chunk : Chunk) :
    OpensOnly allowed own (sendToRequester chunk id) :=
  Respects.bind (opensOnly_updateSession fun _ => ⟨rfl, rfl, rfl, rfl⟩)
    fun _ => opensOnly_pumpToClient mine

private theorem opensOnly_endUpstream (mine : own id) :
    OpensOnly allowed own (endUpstream id) :=
  Respects.bind (opensOnly_updateSession fun _ => ⟨rfl, rfl, rfl, rfl⟩)
    fun _ => opensOnly_pumpToClient mine

private theorem opensOnly_readFailed (logged : SocketException → Bool)
    (exception : SocketException) :
    OpensOnly allowed own (readFailed logged exception id) :=
  .ite (respects_pure _) opensOnly_setAbortingConnection

private theorem opensOnly_readTCPLoop (mine : own id)
    (outcomes : List ReadOutcome)
    (channel : SocketChannel) :
    OpensOnly allowed own (readTCPLoop id outcomes channel) := by
  induction outcomes generalizing channel with
  | nil =>
      rw [readTCPLoop]
      apply opensOnly_readSession.bind
      intro session
      apply Respects.ite
      · apply (opensOnly_unsubscribeKey .read).bind
        intro _
        exact respects_pure _
      · exact respects_pure _
  | cons outcome later inductionHypothesis =>
      rw [readTCPLoop]
      apply opensOnly_readSession.bind
      intro session
      apply Respects.ite
      · apply (opensOnly_unsubscribeKey .read).bind
        intro _
        exact respects_pure _
      apply (opensOnly_updateSocket _).bind
      intro _
      split
      · apply (opensOnly_sendToRequester mine _).bind
        intro _
        apply (inductionHypothesis _).bind
        intro bytesRead
        exact respects_pure _
      · exact respects_pure _
      · apply (opensOnly_endUpstream mine).bind
        intro _
        exact respects_pure _
      · apply (opensOnly_readFailed _ _).bind
        intro _
        exact respects_pure _

private theorem opensOnly_readTCP (mine : own id)
    (outcomes : List ReadOutcome)
    (channel : SocketChannel) :
    OpensOnly allowed own (readTCP outcomes channel id) := by
  apply opensOnly_readSession.bind
  intro session
  apply Respects.ite
  · exact respects_pure _
  · exact opensOnly_readTCPLoop mine outcomes channel

private theorem opensOnly_buildUdpResponse (data : List UInt8) :
    OpensOnly allowed own (buildUdpResponse data id) := by
  apply opensOnly_readSession.bind
  intro session
  split
  · apply opensOnly_getPacketId.bind
    intro packetId
    exact opensOnly_built _
  · exact respects_throw _

private theorem opensOnly_sendUdpResponse (data : List UInt8) :
    OpensOnly allowed own (sendUdpResponse data id) := by
  apply (opensOnly_buildUdpResponse data).bind
  intro packetData
  apply Respects.ite
  · exact respects_pure _
  · apply (opensOnly_write _).bind
    intro _
    exact respects_pure _

private theorem opensOnly_readUDP (mine : own id)
    (outcomes : List ReadOutcome) :
    OpensOnly allowed own (readUDP id outcomes) := by
  induction outcomes with
  | nil => exact respects_pure _
  | cons outcome later inductionHypothesis =>
      unfold readUDP
      apply opensOnly_readSession.bind
      intro session
      apply Respects.ite
      · exact respects_pure _
      cases outcome with
      | data chunk =>
          apply Respects.bind
          · apply respects_modify
            intro engine
            exact .update rfl fun other => absurd mine other
          intro _
          apply (opensOnly_sendUdpResponse _).bind
          intro counted
          apply inductionHypothesis.bind
          intro bytesRead
          exact respects_pure _
      | nothing => exact respects_pure _
      | endOfStream => exact respects_pure _
      | failure exception =>
          apply (opensOnly_readFailed _ _).bind
          intro _
          exact respects_pure _

private theorem opensOnly_readChannel (mine : own id)
    (outcomes : List ReadOutcome) :
    OpensOnly allowed own (readChannel outcomes id) := by
  apply opensOnly_readObject.bind
  intro object
  split
  · exact opensOnly_readTCP mine outcomes _
  · exact opensOnly_readUDP mine outcomes

private theorem opensOnly_resubscribe : OpensOnly allowed own
    (resubscribe id) := by
  apply opensOnly_readObject.bind
  intro object
  apply Respects.ite
  · exact opensOnly_subscribeKey .read
  · exact respects_pure _

private theorem opensOnly_closeIfConnected :
    OpensOnly allowed own (closeIfConnected id) := by
  apply opensOnly_readObject.bind
  intro object
  apply Respects.ite
  · exact opensOnly_closeChannel
  · exact respects_pure _

private theorem opensOnly_removeAborted :
    OpensOnly allowed own (removeAborted id) := by
  apply opensOnly_readSession.bind
  intro session
  apply Respects.ite
  · apply opensOnly_cancelKey.bind
    intro _
    apply opensOnly_closeIfConnected.bind
    intro _
    exact opensOnly_closeSessionOf
  · exact respects_pure _

private theorem opensOnly_read (mine : own id) (outcomes : List ReadOutcome) :
    OpensOnly allowed own (read outcomes id) := by
  apply (opensOnly_readChannel mine outcomes).bind
  intro bytesRead
  apply opensOnly_resubscribe.bind
  intro _
  apply opensOnly_removeAborted.bind
  intro _
  exact respects_pure _

private theorem opensOnly_allWritten : OpensOnly allowed own
    (allWritten id) :=
  Respects.bind (opensOnly_updateSession fun _ => ⟨rfl, rfl, rfl, rfl⟩)
    fun _ => opensOnly_unsubscribeKey .write

private theorem opensOnly_settleBuffer (mine : own id) (buffer : ByteBuffer) :
    OpensOnly allowed own (settleBuffer buffer id) := by
  apply Respects.ite
  · apply Respects.bind
    · apply opensOnly_updateOwn mine
      intro session
      exact (SessionStep.setSendingData _ session).key
    · intro _
      exact opensOnly_subscribeKey .write
  · exact opensOnly_allWritten

private theorem opensOnly_writePendingData (mine : own id)
    (outcomes : List WriteOutcome) (channel : SocketChannel) :
    OpensOnly allowed own (writePendingData outcomes channel id) := by
  apply opensOnly_readSession.bind
  intro session
  apply Respects.ite
  · apply Respects.bind
    · exact opensOnly_updateSession fun _ => ⟨rfl, rfl, rfl, rfl⟩
    · intro _
      apply (opensOnly_updateSocket _).bind
      intro _
      split
      · exact respects_pure _
      · apply (opensOnly_settleBuffer mine _).bind
        intro _
        exact respects_pure _
  · exact respects_pure _

private theorem opensOnly_writeFailed : OpensOnly allowed own
    (writeFailed id) := by
  apply opensOnly_readSession.bind
  intro session
  split
  · apply (opensOnly_sendPacket _).bind
    intro _
    exact opensOnly_setAbortingConnection
  · exact respects_throw _

private theorem opensOnly_writeTCP (mine : own id)
    (outcomes : List WriteOutcome)
    (channel : SocketChannel) :
    OpensOnly allowed own (writeTCP outcomes channel id) := by
  apply (opensOnly_writePendingData mine outcomes channel).bind
  intro result
  split
  · exact respects_pure _
  · exact respects_pure _
  · apply opensOnly_writeFailed.bind
    intro _
    exact respects_pure _

private theorem opensOnly_writeDatagram (mine : own id)
    (outcomes : List WriteOutcome) (datagram : List UInt8) :
    OpensOnly allowed own (writeDatagram outcomes datagram id) := by
  unfold writeDatagram
  split
  · exact respects_pure _
  · apply Respects.bind
    · apply respects_modify
      intro engine
      exact .update rfl fun other => absurd mine other
    · intro _
      exact respects_pure _
  · exact respects_pure _
  · exact respects_pure _

private theorem opensOnly_writePendingUDPData (mine : own id)
    (outcomes : List WriteOutcome) :
    OpensOnly allowed own (writePendingUDPData outcomes id) := by
  apply opensOnly_readSession.bind
  intro session
  split
  · apply opensOnly_allWritten.bind
    intro _
    exact respects_pure _
  · apply Respects.bind
    · exact opensOnly_updateOwn mine fun _ => rfl
    intro _
    apply (opensOnly_writeDatagram mine outcomes _).bind
    intro result
    split
    · exact respects_pure _
    · apply Respects.bind
      · exact opensOnly_updateOwn mine fun _ => rfl
      intro _
      apply (opensOnly_subscribeKey .write).bind
      intro _
      exact respects_pure _
    · apply Respects.ite
      · apply opensOnly_allWritten.bind
        intro _
        exact respects_pure _
      · apply (opensOnly_subscribeKey .write).bind
        intro _
        exact respects_pure _

private theorem opensOnly_writeUDP (mine : own id)
    (outcomes : List WriteOutcome) :
    OpensOnly allowed own (writeUDP outcomes id) := by
  apply (opensOnly_writePendingUDPData mine outcomes).bind
  intro result
  split
  · exact respects_pure _
  · apply opensOnly_setAbortingConnection.bind
    intro _
    exact respects_pure _

private theorem opensOnly_writeUpstream (mine : own id)
    (outcomes : List WriteOutcome) :
    OpensOnly allowed own (writeUpstream outcomes id) := by
  apply Respects.bind
  · apply opensOnly_readObject.bind
    intro object
    split
    · exact opensOnly_writeTCP mine outcomes _
    · exact opensOnly_writeUDP mine outcomes
  · intro bytesWritten
    apply opensOnly_removeAborted.bind
    intro _
    exact respects_pure _

private theorem opensOnly_processSelectorRead (mine : own id)
    (ready : Readiness) :
    OpensOnly allowed own (processSelectorRead ready id) := by
  apply opensOnly_readSession.bind
  intro session
  apply Respects.ite
  · apply (opensOnly_read mine ready.reads).bind
    intro bytesRead
    exact opensOnly_updateSession fun _ => ⟨rfl, rfl, rfl, rfl⟩
  · exact respects_pure _

private theorem opensOnly_processPendingWrite (mine : own id)
    (ready : Readiness) :
    OpensOnly allowed own (processPendingWrite ready id) := by
  apply opensOnly_readSession.bind
  intro session
  apply Respects.ite
  · exact opensOnly_unsubscribeKey .write
  apply Respects.ite
  · apply (opensOnly_unsubscribeKey .write).bind
    intro _
    apply (opensOnly_writeUpstream mine ready.writes).bind
    intro bytesWritten
    exact opensOnly_updateSession fun _ => ⟨rfl, rfl, rfl, rfl⟩
  · exact respects_pure _

private theorem opensOnly_processConnectedSelection (mine : own id)
    (ready : Readiness) :
    OpensOnly allowed own (processConnectedSelection ready id) := by
  apply (opensOnly_unsubscribeKey .connect).bind
  intro _
  apply (opensOnly_subscribeKey .read).bind
  intro _
  apply (opensOnly_processSelectorRead mine ready).bind
  intro _
  exact opensOnly_processPendingWrite mine ready

private theorem opensOnly_finishConnecting (ready : Readiness)
    (channel : SocketChannel) :
    OpensOnly allowed own (finishConnecting ready channel id) := by
  apply Respects.ite
  · split
    · apply opensOnly_closeChannel.bind
      intro _
      exact respects_throw _
    · exact
        opensOnly_updateObject (fun _ => rfl)
          (SessionObject.recorded_mapSocket _)
  · exact respects_throw _

private theorem opensOnly_processConnectable (ready : Readiness) :
    OpensOnly allowed own (processConnectable ready id) := by
  apply opensOnly_readObject.bind
  intro object
  split
  · apply Respects.ite
    · exact opensOnly_finishConnecting ready _
    · exact respects_pure _
  · exact respects_pure _

private theorem opensOnly_processSelectionKey (mine : own id)
    (ready : Readiness) :
    OpensOnly allowed own (processSelectionKey ready id) := by
  apply opensOnly_readSession.bind
  intro session
  apply Respects.ite
  · apply (opensOnly_processConnectable ready).bind
    intro _
    apply opensOnly_readObject.bind
    intro object
    apply Respects.ite
    · exact opensOnly_processConnectedSelection mine ready
    · exact respects_pure _
  · exact respects_pure _

/-- The NIO thread adds no session and records something of the selected one
only. -/
private theorem origins_runSelectedKey (ready : Readiness) (id : Nat)
    (engine : Engine) :
    Origins allowed (· = id) engine (runSelectedKey ready id engine) := by
  have processed :=
    @opensOnly_processSelectionKey allowed (· = id) id rfl ready engine
  rw [final] at processed
  rw [runSelectedKey]
  rcases ended : (processSelectionKey ready id).outcome engine with
    ⟨exception | value, after⟩
  · rw [ended] at processed
    cases exception with
    | io => exact processed.trans (.update rfl fun _ => rfl)
    | java | nullPointer =>
        exact
          ⟨⟨processed.grown, processed.older, processed.newer,
              processed.recorded⟩,
            processed.packetThread⟩
  · rw [ended] at processed
    exact processed

end NioThread

/-- A step of the NIO thread adds none. -/
theorem origins_select {engine : Engine}
    (ready : SocketNIODataService.Readiness) (id : Nat) :
    Origins (fun _ => False) (· = id) engine
      (engineStep engine (.select ready id)) := by
  rw [engineStep]
  split
  · exact NioThread.origins_runSelectedKey ready id engine
  · exact Std.Refl.refl engine

end LanShield.Vpn
