import LanShield.Library.PutBackQueue
import LanShield.Vpn.SessionOpening

/-!
# The datagrams of a UDP session

The packet thread appends the datagrams of a client to the queue of their
session.  The NIO thread takes the one at the head, and puts it back when
the channel has no room for it.
-/

namespace LanShield.Vpn

open LanShield.Library LanShield.Java LanShield.Transport Program

/-- The datagrams a channel has taken. -/
def SelectableChannel.sentDatagrams :
    SelectableChannel → List (List UInt8)
  | socket _ => []
  | datagram channel => channel.sent

namespace SessionObject

/-- The queue of a session, with the datagram that has left it for the
channel. -/
def datagrams (held : Option (List UInt8)) (object : SessionObject) :
    PutBackQueue (List UInt8) where
  delivered := object.channel.sentDatagrams
  held := held
  waiting := object.session.sendingDatagrams

/-- The channel is registered, and its key has not been cancelled. -/
def HasValidKey (object : SessionObject) : Prop :=
  object.isRegistered = true ∧ object.session.selectionkey.isValid = true

instance (object : SessionObject) : Decidable object.HasValidKey :=
  inferInstanceAs (Decidable (_ ∧ _))

/-- While datagrams wait, the selector looks out for the channel and the NIO
thread for the queue. -/
def Announces (object : SessionObject) : Prop :=
  object.session.sendingDatagrams ≠ [] →
    object.session.selectionkey.interestWrite = true ∧
      object.session.isDataForSendingReady = true

instance (object : SessionObject) : Decidable object.Announces :=
  inferInstanceAs (Decidable (_ → _))

/-- The datagrams of the client are with the channel, held or waiting.  With
`live` the session is not being closed. -/
structure Queues (live : Prop) (held : Option (List UInt8))
    (client : List (List UInt8)) (object : SessionObject) : Prop where
  udp : object.session.protocol = .udp
  datagram : object.channel.isSocket = false
  nonempty : ∀ bytes ∈ object.session.sendingDatagrams, bytes ≠ []
  contents : (object.datagrams held).contents = client
  keyed :
    live →
      object.HasValidKey ∧ object.session.abortingConnection = false

/-- The same between two steps. -/
structure Settled (live : Prop) (client : List (List UInt8))
    (object : SessionObject) : Prop
    extends Queues live none client object where
  announces : object.HasValidKey → object.Announces

section Updates

variable {live : Prop} {held : Option (List UInt8)}
  {client : List (List UInt8)} {object : SessionObject}

/-- An update of fields that have nothing to do with the queue. -/
theorem Queues.plain {update : Session → Session}
    (queues : object.Queues live held client)
    (protocol : (update object.session).protocol = object.session.protocol)
    (waiting :
      (update object.session).sendingDatagrams =
        object.session.sendingDatagrams)
    (valid :
      (update object.session).selectionkey.isValid =
        object.session.selectionkey.isValid)
    (aborting :
      (update object.session).abortingConnection =
        object.session.abortingConnection) :
    (object.updateSession update).Queues live held client where
  udp := protocol.trans queues.udp
  datagram := queues.datagram
  nonempty := by
    show ∀ bytes ∈ (update object.session).sendingDatagrams, bytes ≠ []
    rw [waiting]
    exact queues.nonempty
  contents := by
    rw [← queues.contents, datagrams, datagrams, updateSession, waiting]
  keyed holds :=
    ⟨⟨(queues.keyed holds).1.1, valid.trans (queues.keyed holds).1.2⟩,
      aborting.trans (queues.keyed holds).2⟩

theorem Queues.changeInterest (queues : object.Queues live held client)
    (op : SelectionOp) (interested : Bool) :
    (object.updateSession fun session =>
      { session with
        selectionkey :=
          session.selectionkey.changeInterest op
            interested }).Queues live held client :=
  queues.plain rfl rfl (SelectionKey.isValid_changeInterest _ _ _) rfl

theorem Queues.ready (queues : object.Queues live held client)
    (isReady : Bool) :
    (object.updateSession fun session =>
      { session with
        isDataForSendingReady := isReady }).Queues live held client :=
  queues.plain rfl rfl rfl rfl

/-- `setSendingData` appends a datagram. -/
theorem Queues.enqueue (queues : object.Queues live held client)
    {buffer : ByteBuffer} (remaining : 0 < buffer.remaining) :
    (object.updateSession fun session =>
      (session.setSendingData buffer).2).Queues live held
        (client ++ [buffer.unread]) := by
  have filled : buffer.unread ≠ [] := by
    apply List.ne_nil_of_length_pos
    rw [ByteBuffer.length_unread]
    exact remaining
  rw [updateSession, Session.setSendingData_udp queues.udp]
  refine ⟨queues.udp, queues.datagram, ?_, ?_, queues.keyed⟩
  · intro bytes member
    rcases List.mem_append.mp member with waiting | last
    · exact queues.nonempty bytes waiting
    · rw [List.mem_singleton.mp last]
      exact filled
  · rw [← queues.contents]
    exact (object.datagrams held).contents_move (.enqueue buffer.unread)

/-- `pollSendingDatagram`. -/
theorem Queues.take {bytes : List UInt8} {later : List (List UInt8)}
    (queues : object.Queues live none client)
    (waiting : object.session.sendingDatagrams = bytes :: later) :
    (object.updateSession fun session =>
      { session with sendingDatagrams := later }).Queues live (some bytes)
        client := by
  refine ⟨queues.udp, queues.datagram, ?_, ?_, queues.keyed⟩
  · intro other member
    apply queues.nonempty
    rw [waiting]
    exact List.mem_cons_of_mem _ member
  · have taken := (object.datagrams none).contents_move .take
    rw [queues.contents, QueueMove.enqueued, List.append_nil, datagrams,
      waiting] at taken
    exact taken

/-- `requeueSendingDatagram`. -/
theorem Queues.putBack {bytes : List UInt8}
    (queues : object.Queues live (some bytes) client)
    (nonempty : bytes ≠ []) :
    (object.updateSession fun session =>
      { session with
        sendingDatagrams :=
          bytes :: session.sendingDatagrams }).Queues live none client := by
  refine ⟨queues.udp, queues.datagram, ?_, ?_, queues.keyed⟩
  · intro other member
    rcases List.mem_cons.mp member with rfl | waiting
    · exact nonempty
    · exact queues.nonempty other waiting
  · have returned := (object.datagrams (some bytes)).contents_move .putBack
    rw [queues.contents, QueueMove.enqueued, List.append_nil] at returned
    exact returned

/-- The channel takes the datagram. -/
theorem Queues.deliver {bytes : List UInt8}
    (queues : object.Queues live (some bytes) client) :
    ({ object with
        channel :=
          object.channel.mapDatagram fun channel =>
            { channel with
              sent := channel.sent ++ [bytes] } } :
      SessionObject).Queues live none client := by
  obtain ⟨session, channel, isRegistered⟩ := object
  cases channel with
  | socket channel => cases queues.datagram
  | datagram channel =>
      refine
        ⟨queues.udp, queues.datagram, queues.nonempty, ?_, queues.keyed⟩
      have delivered :=
        (datagrams (some bytes)
          ⟨session, .datagram channel, isRegistered⟩).contents_move .deliver
      rw [queues.contents, QueueMove.enqueued, List.append_nil]
        at delivered
      exact delivered

/-- A session that is being closed keeps its datagrams. -/
theorem Settled.closeChannel (settled : object.Settled live client)
    (closing : ¬ live) : object.closeChannel.Settled live client := by
  obtain ⟨session, channel, isRegistered⟩ := object
  cases channel with
  | socket channel => cases settled.datagram
  | datagram channel =>
      refine ⟨⟨settled.udp, rfl, settled.nonempty, settled.contents, ?_⟩, ?_⟩
      · exact fun holds => absurd holds closing
      · exact fun keyed => absurd keyed.2 Bool.false_ne_true

theorem Settled.cancelKey (settled : object.Settled live client)
    (closing : ¬ live) :
    (object.updateSession Session.cancelKey).Settled live client := by
  refine
    ⟨⟨settled.udp, settled.datagram, settled.nonempty, settled.contents,
      ?_⟩, ?_⟩
  · exact fun holds => absurd holds closing
  · exact fun keyed => absurd keyed.2 Bool.false_ne_true

/-- A registered session has a new key. -/
theorem Queues.register (queues : object.Queues live held client) :
    (NioThread.registered object).Queues live held client :=
  ⟨queues.udp, queues.datagram, queues.nonempty, queues.contents,
    fun holds => ⟨⟨rfl, rfl⟩, (queues.keyed holds).2⟩⟩

/-- A session that is ready has its datagrams announced by a subscription. -/
theorem Queues.subscribed (queues : object.Queues live none client)
    (isReady : object.session.isDataForSendingReady = true) :
    (object.updateSession (Session.subscribeKey .write)).Settled live
      client := by
  refine ⟨queues.changeInterest .write true, ?_⟩
  intro keyed _
  have valid : object.session.selectionkey.isValid = true :=
    (SelectionKey.isValid_changeInterest .write true _).symm.trans keyed.2
  exact
    ⟨SelectionKey.interest_changeInterest_self valid .write true, isReady⟩

/-- Nothing is left to announce where `processPendingWrite` skips the
session. -/
theorem Settled.unsubscribed (settled : object.Settled live client)
    (idle :
      (!object.session.hasDataToSend ||
        !object.session.isDataForSendingReady) = true) :
    (object.updateSession (Session.unsubscribeKey .write)).Settled live
      client := by
  refine ⟨settled.toQueues.changeInterest .write false, ?_⟩
  intro keyed waiting
  have valid : object.session.selectionkey.isValid = true :=
    (SelectionKey.isValid_changeInterest .write false _).symm.trans keyed.2
  have isReady := (settled.announces ⟨keyed.1, valid⟩ waiting).2
  have hasData : object.session.hasDataToSend = true := by
    have queued : object.session.sendingDatagrams ≠ [] := waiting
    simpa [Session.hasDataToSend, settled.udp] using queued
  rw [hasData, isReady] at idle
  cases idle

/-- Without a registered key nothing is announced. -/
theorem Queues.unregistered (queues : object.Queues live none client)
    (isNew : object.isRegistered = false) : object.Settled live client := by
  refine ⟨queues, ?_⟩
  intro keyed
  rw [keyed.1] at isNew
  cases isNew

/-- With an empty queue nothing has to be announced. -/
theorem Queues.emptied (queues : object.Queues live none client)
    (empty : object.session.sendingDatagrams = []) :
    object.Settled live client :=
  ⟨queues, fun _ waiting => absurd empty waiting⟩

end Updates

end SessionObject

section Programs

variable {live : Prop} {client : List (List UInt8)} {id : Nat}
  {engine : Engine}

/-- A change of the key is made on a registered channel, or throws. -/
private theorem ends_updateKey {update : Session → Session}
    {returns : Unit → Engine → Prop} {throws : Engine → Prop}
    (thrown :
      (engine.sessions id).isRegistered = false → throws engine)
    (returned :
      (engine.sessions id).isRegistered = true →
        returns ()
          (engine.updateObject id (SessionObject.updateSession update))) :
    Ends returns throws (updateKey id update) engine := by
  rw [updateKey]
  apply ends_readObject
  by_cases registered : (engine.sessions id).isRegistered = true
  · rw [if_pos registered]
    exact returned registered
  · rw [if_neg registered]
    exact thrown (Bool.eq_false_iff.mpr registered)

/-- What comes after an update of the session starts from the updated
object. -/
private theorem ends_updateSession {Last : Type} {update : Session → Session}
    {next : Unit → Running Last} {returns : Last → Engine → Prop}
    {throws : Engine → Prop}
    (right :
      ∀ after : Engine,
        after.sessions id = (engine.sessions id).updateSession update →
          Ends returns throws (next ()) after) :
    Ends returns throws (updateSession id update >>= next) engine :=
  right _ Engine.updateObject_self

/-- The queue of the session is in order, however a program has ended. -/
def Engine.SettledAt (live : Prop) (client : List (List UInt8)) (id : Nat)
    (engine : Engine) : Prop :=
  (engine.sessions id).Settled live client

private theorem Engine.settledAt_updateObject
    {update : SessionObject → SessionObject}
    (settled : (update (engine.sessions id)).Settled live client) :
    (engine.updateObject id update).SettledAt live client id := by
  rw [Engine.SettledAt, Engine.updateObject_self]
  exact settled

private theorem ends_subscribeWrite
    (queues : (engine.sessions id).Queues live none client)
    (isReady : (engine.sessions id).session.isDataForSendingReady = true) :
    Ends (fun _ after => after.SettledAt live client id)
      (Engine.SettledAt live client id) (subscribeKey .write id) engine :=
  ends_updateKey (fun unregistered => queues.unregistered unregistered)
    fun _ => Engine.settledAt_updateObject (queues.subscribed isReady)

namespace NioThread

/-- What `OP_WRITE` is given up for: no datagram waits. -/
private theorem ends_allWritten
    (queues : (engine.sessions id).Queues live none client)
    (empty : (engine.sessions id).session.sendingDatagrams = []) :
    Ends (fun _ after => after.SettledAt live client id)
      (Engine.SettledAt live client id) (allWritten id) engine := by
  apply ends_updateSession
  intro after updated
  have queues := queues.ready false
  rw [← updated] at queues
  apply ends_updateKey
  · exact fun unregistered => queues.unregistered unregistered
  · intro _
    apply Engine.settledAt_updateObject
    apply (queues.changeInterest .write false).emptied
    rw [SessionObject.updateSession, updated]
    exact empty

/-- The channel takes all of a datagram or nothing of it. -/
theorem ends_writeDatagram {outcomes : List WriteOutcome}
    {bytes : List UInt8}
    (queues : (engine.sessions id).Queues live (some bytes) client)
    (working :
      ∀ exception, outcomes.head? ≠ some (.failure exception)) :
    Ends
      (fun result after =>
        (after.sessions id).session = (engine.sessions id).session ∧
          (result = .ok bytes.length ∧
              (after.sessions id).Queues live none client ∨
            result = .ok 0 ∧
              (after.sessions id).Queues live (some bytes) client))
      (fun _ => False) (writeDatagram outcomes bytes id) engine := by
  rcases outcomes with _ | ⟨(_ | count) | exception, later⟩
  · exact ⟨rfl, .inr ⟨rfl, queues⟩⟩
  · exact ⟨rfl, .inr ⟨rfl, queues⟩⟩
  · rw [writeDatagram]
    apply ends_modify_bind
    apply ends_pure
    rw [Engine.updateObject_self]
    exact ⟨rfl, .inl ⟨rfl, queues.deliver⟩⟩
  · exact absurd rfl (working exception)

/-- A datagram the channel had no room for is put back. -/
private theorem ends_putBack {bytes : List UInt8}
    {returns : Except SocketException Nat → Engine → Prop}
    (queues : (engine.sessions id).Queues live (some bytes) client)
    (nonempty : bytes ≠ [])
    (isReady : (engine.sessions id).session.isDataForSendingReady = true)
    (returned :
      ∀ after, after.SettledAt live client id → returns (.ok 0) after) :
    Ends returns (Engine.SettledAt live client id)
      (do
        updateSession id fun session =>
          { session with
            sendingDatagrams := bytes :: session.sendingDatagrams }
        subscribeKey .write id
        return .ok 0)
      engine := by
  apply ends_updateSession
  intro after updated
  have queues := queues.putBack nonempty
  rw [← updated] at queues
  have ready : (after.sessions id).session.isDataForSendingReady = true := by
    rw [updated]
    exact isReady
  apply (ends_subscribeWrite queues ready).bind
  intro _ after settled
  exact returned after settled

/-- One datagram of the queue is written, or stays in it. -/
private theorem ends_writePendingUDPData {outcomes : List WriteOutcome}
    (queues : (engine.sessions id).Queues live none client)
    (isReady : (engine.sessions id).session.isDataForSendingReady = true)
    (working :
      ∀ exception, outcomes.head? ≠ some (.failure exception)) :
    Ends
      (fun result after =>
        (∃ amountBytes, result = .ok amountBytes) ∧
          after.SettledAt live client id)
      (Engine.SettledAt live client id) (writePendingUDPData outcomes id)
      engine := by
  rw [writePendingUDPData]
  apply ends_readSession
  rcases waiting : (engine.sessions id).session.sendingDatagrams with
    _ | ⟨bytes, queued⟩
  · apply (ends_allWritten queues waiting).bind
    intro _ after settled
    exact ⟨⟨0, rfl⟩, settled⟩
  · have nonempty : bytes ≠ [] := by
      apply queues.nonempty
      rw [waiting]
      exact List.mem_cons_self
    have taken := queues.take waiting
    apply ends_updateSession
    intro engine updated
    rw [← updated] at taken
    apply ((ends_writeDatagram taken working).imp (fun _ _ ends => ends)
      fun _ => False.elim).bind
    rintro result after ⟨session_eq, ends⟩
    rw [updated] at session_eq
    have isReady :
        (after.sessions id).session.isDataForSendingReady = true := by
      rw [session_eq]
      exact isReady
    rcases ends with ⟨rfl, written⟩ | ⟨rfl, refused⟩
    · obtain ⟨first, rest, rfl⟩ := List.exists_cons_of_ne_nil nonempty
      show Ends _ _ (if queued.isEmpty = true then _ else _) after
      by_cases empty : queued.isEmpty = true
      · rw [if_pos empty]
        have emptied :
            (after.sessions id).session.sendingDatagrams = [] := by
          rw [session_eq]
          exact List.isEmpty_iff.mp empty
        apply (ends_allWritten written emptied).bind
        intro _ after settled
        exact ⟨⟨_, rfl⟩, settled⟩
      · rw [if_neg empty]
        apply (ends_subscribeWrite written isReady).bind
        intro _ after settled
        exact ⟨⟨_, rfl⟩, settled⟩
    · exact
        ends_putBack refused nonempty isReady fun _ settled =>
          ⟨⟨0, rfl⟩, settled⟩

/-- `write` sends a datagram of the queue, if the session has one. -/
private theorem ends_writeChannel {outcomes : List WriteOutcome}
    (queues : (engine.sessions id).Queues live none client)
    (isReady : (engine.sessions id).session.isDataForSendingReady = true)
    (working :
      ∀ exception, outcomes.head? ≠ some (.failure exception)) :
    Ends (fun _ after => after.SettledAt live client id)
      (Engine.SettledAt live client id) (writeChannel outcomes id)
      engine := by
  have written := ends_writePendingUDPData queues isReady working
  rw [writeChannel]
  apply ends_readObject
  have isDatagram := queues.datagram
  rcases kind : (engine.sessions id).channel with channel | channel
  · rw [kind] at isDatagram
    cases isDatagram
  · apply written.bind
    rintro _ after ⟨⟨amountBytes, rfl⟩, settled⟩
    exact settled

/-- A session that is being closed keeps its queue. -/
private theorem settledAt_closeSession
    (settled : engine.SettledAt live client id)
    (closing : ¬ live) (key : SessionKey) :
    (engine.closeSession key).SettledAt live client id := by
  rw [Engine.closeSession]
  cases engine.table key with
  | none => exact settled
  | some removed =>
      show ((engine.updateObject removed _).sessions id).Settled live client
      by_cases same : id = removed
      · rw [← same, Engine.updateObject_self]
        exact settled.closeChannel closing
      · rw [Engine.updateObject_of_ne same]
        exact settled

private theorem ends_removeAborted
    (settled : engine.SettledAt live client id) :
    Ends (fun _ after => after.SettledAt live client id)
      (Engine.SettledAt live client id) (removeAborted id) engine := by
  rw [removeAborted]
  apply ends_readSession
  by_cases aborting :
    (engine.sessions id).session.abortingConnection = true
  · have closing : ¬ live := by
      intro holds
      rw [(settled.keyed holds).2] at aborting
      cases aborting
    rw [if_pos aborting]
    have cancelled :
        Ends (fun _ after => after.SettledAt live client id)
          (Engine.SettledAt live client id) (cancelKey id) engine :=
      ends_updateKey (fun _ => settled) fun _ =>
        Engine.settledAt_updateObject (settled.cancelKey closing)
    apply cancelled.bind
    intro _ engine settled
    have closed :
        Ends (fun _ after => after.SettledAt live client id)
          (Engine.SettledAt live client id) (closeIfConnected id)
          engine := by
      rw [closeIfConnected]
      apply ends_readObject
      by_cases connected : (engine.sessions id).channel.isConnected = true
      · rw [if_pos connected]
        exact Engine.settledAt_updateObject (settled.closeChannel closing)
      · rw [if_neg connected]
        exact settled
    apply closed.bind
    intro _ engine settled
    exact settledAt_closeSession settled closing _
  · rw [if_neg aborting]
    exact settled

/-- `SocketChannelWriter.write` while the channel throws nothing. -/
private theorem ends_writeUpstream {outcomes : List WriteOutcome}
    (queues : (engine.sessions id).Queues live none client)
    (isReady : (engine.sessions id).session.isDataForSendingReady = true)
    (working :
      ∀ exception, outcomes.head? ≠ some (.failure exception)) :
    Ends (fun _ after => after.SettledAt live client id)
      (Engine.SettledAt live client id) (writeUpstream outcomes id)
      engine := by
  apply (ends_writeChannel queues isReady working).bind
  intro _ after settled
  apply (ends_removeAborted settled).bind
  exact fun _ _ settled => settled

/-- `processPendingWrite` while the channel throws nothing. -/
private theorem ends_processPendingWrite
    {ready : SocketNIODataService.Readiness}
    (settled : engine.SettledAt live client id)
    (working :
      ∀ exception, ready.writes.head? ≠ some (.failure exception)) :
    Ends (fun _ after => after.SettledAt live client id)
      (Engine.SettledAt live client id) (processPendingWrite ready id)
      engine := by
  have queues := settled.toQueues.changeInterest .write false
  rw [processPendingWrite]
  apply ends_readSession
  by_cases idle :
    (!(engine.sessions id).session.hasDataToSend ||
      !(engine.sessions id).session.isDataForSendingReady) = true
  · rw [if_pos idle]
    apply ends_updateKey (fun _ => settled)
    intro _
    exact Engine.settledAt_updateObject (settled.unsubscribed idle)
  · rw [if_neg idle]
    have isReady :
        (engine.sessions id).session.isDataForSendingReady = true := by
      simp only [Bool.or_eq_true, Bool.not_eq_true', not_or,
        Bool.not_eq_false] at idle
      exact idle.2
    by_cases canWrite :
      ((engine.sessions id).session.selectionkey.isValid &&
        ready.isWritable) = true
    · rw [if_pos canWrite]
      have unsubscribed :
          Ends
            (fun _ after =>
              (after.sessions id).Queues live none client ∧
                (after.sessions id).session.isDataForSendingReady = true)
            (Engine.SettledAt live client id) (unsubscribeKey .write id)
            engine := by
        apply ends_updateKey (fun _ => settled)
        intro _
        rw [Engine.updateObject_self]
        exact ⟨queues, isReady⟩
      apply unsubscribed.bind
      rintro _ after ⟨queues, isReady⟩
      apply (ends_writeUpstream queues isReady working).bind
      intro _ after settled
      apply ends_modify
      apply Engine.settledAt_updateObject
      exact ⟨settled.toQueues.plain rfl rfl rfl rfl, settled.announces⟩
    · rw [if_neg canWrite]
      exact settled

end NioThread

private theorem ends_addClientData {buffer : ByteBuffer}
    (queues : (engine.sessions id).Queues live none client)
    (remaining : 0 < buffer.remaining) :
    Ends
      (fun _ after =>
        (after.sessions id).Queues live none (client ++ [buffer.unread]) ∧
          (after.sessions id).isRegistered =
            (engine.sessions id).isRegistered)
      (fun _ => False) (addClientData buffer id) engine := by
  have unread : ¬ buffer.limit ≤ buffer.position := by
    rw [ByteBuffer.remaining] at remaining
    omega
  rw [addClientData, if_neg unread]
  apply ends_updateSession
  intro after updated
  apply ends_pure
  rw [updated]
  exact ⟨queues.enqueue remaining, rfl⟩

/-- A session is registered, or still has no key. -/
private theorem ends_register
    (queues : (engine.sessions id).Queues live none client)
    (isReady : (engine.sessions id).session.isDataForSendingReady = true)
    (unregistered : (engine.sessions id).isRegistered = false)
    (answers : Answers) :
    Ends
      (fun _ after =>
        (after.sessions id).Queues live none client ∧
          (after.sessions id).session.isDataForSendingReady = true)
      (Engine.SettledAt live client id)
      (NioThread.registerSession answers id) engine := by
  have settled := queues.unregistered unregistered
  apply ends_platformCall settled
  apply ends_readObject
  by_cases isOpen : (engine.sessions id).channel.isOpen = true
  · rw [if_pos isOpen]
    apply ends_modify
    rw [Engine.updateObject_self]
    exact ⟨queues.register, isReady⟩
  · rw [if_neg isOpen]
    exact settled

/-- The block appends its datagram and announces it. -/
private theorem ends_enqueueDatagram {datagram : UdpDatagram}
    {newSession : Bool}
    (settled : engine.SettledAt live client id)
    (remaining : 0 < datagram.data.remaining)
    (isNew :
      newSession = true → (engine.sessions id).isRegistered = false)
    (answers : Answers) :
    Ends
      (fun _ after =>
        after.SettledAt live (client ++ [datagram.data.unread]) id)
      (Engine.SettledAt live (client ++ [datagram.data.unread]) id)
      (PacketHandling.handleDatagram datagram newSession answers id)
      engine := by
  rw [PacketHandling.handleDatagram]
  apply ends_updateSession
  intro noted noted_eq
  have queues : (noted.sessions id).Queues live none client := by
    rw [noted_eq]
    exact settled.toQueues.plain rfl rfl rfl rfl
  have added := ends_addClientData queues remaining
  apply (added.imp (fun _ _ ends => ends) fun _ => False.elim).bind
  rintro _ added ⟨queues, registered_eq⟩
  apply ends_updateSession
  intro ready ready_eq
  replace queues := queues.ready true
  rw [← ready_eq] at queues
  have isReady : (ready.sessions id).session.isDataForSendingReady = true := by
    rw [ready_eq]
    rfl
  by_cases new : newSession = true
  · have unregistered : (ready.sessions id).isRegistered = false := by
      have same :
          (ready.sessions id).isRegistered =
            (added.sessions id).isRegistered := by
        rw [ready_eq]
        rfl
      rw [same, registered_eq, noted_eq]
      exact isNew new
    rw [if_pos new]
    apply (ends_register queues isReady unregistered answers).bind
    rintro _ after ⟨queues, isReady⟩
    exact ends_subscribeWrite queues isReady
  · rw [if_neg new]
    exact ends_subscribeWrite queues isReady

end Programs

/-- What either thread does with the datagrams of a session. -/
inductive DatagramEvent where
  | handleDatagram (datagram : UdpDatagram) (newSession : Bool)
      (answers : Answers)
  | processPendingWrite (ready : SocketNIODataService.Readiness)

namespace DatagramEvent

/-- The datagrams the client hands over. -/
def datagrams : DatagramEvent → List (List UInt8)
  | handleDatagram datagram _ _ => [datagram.data.unread]
  | processPendingWrite _ => []

/-- A datagram of the client is not empty, and only a session that is not
registered yet is a new one.  The channel takes a datagram or refuses it,
but does not throw. -/
def Allowed (id : Nat) (engine : Engine) : DatagramEvent → Prop
  | handleDatagram datagram newSession _ =>
      0 < datagram.data.remaining ∧
        (newSession = true → (engine.sessions id).isRegistered = false)
  | processPendingWrite ready =>
      ∀ exception, ready.writes.head? ≠ some (.failure exception)

end DatagramEvent

/-- One monitor block on the datagrams of the session `id`. -/
def datagramStep (id : Nat) (engine : Engine) : DatagramEvent → Engine
  | .handleDatagram datagram newSession answers =>
      (PacketHandling.handleDatagram datagram newSession answers id).final
        engine
  | .processPendingWrite ready =>
      (NioThread.processPendingWrite ready id).final engine

section Runs

variable {live : Prop} {client : List (List UInt8)} {id : Nat}
  {engine : Engine}

private theorem settledAt_datagramStep
    (settled : engine.SettledAt live client id)
    (event : DatagramEvent) (allowed : event.Allowed id engine) :
    (datagramStep id engine event).SettledAt live
      (client ++ event.datagrams) id := by
  cases event with
  | handleDatagram datagram newSession answers =>
      exact
        (ends_enqueueDatagram settled allowed.1 allowed.2 answers).leaves
  | processPendingWrite ready =>
      have written :=
        (NioThread.ends_processPendingWrite settled allowed).leaves
      rw [DatagramEvent.datagrams, List.append_nil]
      exact written

private theorem settledAt_run :
    ∀ (events : List DatagramEvent) {client : List (List UInt8)}
      {engine : Engine}, engine.SettledAt live client id →
        StepsMeet (datagramStep id)
          (fun engine event => event.Allowed id engine) engine events →
          (run (datagramStep id) engine events).SettledAt live
            (client ++ events.flatMap DatagramEvent.datagrams) id
  | [], _, _, settled, _ => by
      simpa using settled
  | event :: later, _, _, settled, meets => by
      have next := settledAt_datagramStep settled event meets.1
      have rest := settledAt_run later next meets.2
      simpa [List.append_assoc] using rest

/-- The channel has taken, and the queue still holds, what the client has
handed over, datagram by datagram and in order.  What waits is announced
while the key is valid, and the key of a session that is not being closed
stays valid. -/
theorem datagrams_in_order {events : List DatagramEvent}
    (udp : (engine.sessions id).session.protocol = .udp)
    (datagram : (engine.sessions id).channel.isSocket = false)
    (nonempty :
      ∀ bytes ∈ (engine.sessions id).session.sendingDatagrams, bytes ≠ [])
    (announces :
      (engine.sessions id).HasValidKey → (engine.sessions id).Announces)
    (meets :
      StepsMeet (datagramStep id)
        (fun engine event => event.Allowed id engine) engine events) :
    ((run (datagramStep id) engine events).sessions
          id).channel.sentDatagrams ++
        ((run (datagramStep id) engine events).sessions
          id).session.sendingDatagrams =
      (engine.sessions id).channel.sentDatagrams ++
        (engine.sessions id).session.sendingDatagrams ++
        events.flatMap DatagramEvent.datagrams ∧
    (((run (datagramStep id) engine events).sessions id).HasValidKey →
      ((run (datagramStep id) engine events).sessions id).Announces) ∧
    ((engine.sessions id).HasValidKey →
      (engine.sessions id).session.abortingConnection = false →
        ((run (datagramStep id) engine events).sessions
          id).HasValidKey) := by
  have start :
      engine.SettledAt
        ((engine.sessions id).HasValidKey ∧
          (engine.sessions id).session.abortingConnection = false)
        ((engine.sessions id).datagrams none).contents id :=
    ⟨⟨udp, datagram, nonempty, rfl, fun holds => holds⟩, announces⟩
  have settled := settledAt_run events start meets
  have contents := settled.contents
  simp only [PutBackQueue.contents, SessionObject.datagrams,
    Option.toList_none, List.append_nil] at contents
  exact
    ⟨contents, settled.announces,
      fun keyed steady => (settled.keyed ⟨keyed, steady⟩).1⟩

end Runs

/-- A datagram of a client, with no options in its IP header. -/
def UdpDatagram.plain (payload : List UInt8) : UdpDatagram where
  ipHeader := (ClientSegment.plain 0 0 0 0 payload).ipHeader
  udpheader :=
    { sourcePort := 1024
      destinationPort := 53
      length := 8 + payload.length
      checksum := 0 }
  data := ByteBuffer.wrap payload

/-- The first datagram opens the session.  The channel refuses it once, with
a second one behind it. -/
def refusedBurst : List DatagramEvent :=
  [.handleDatagram (.plain [1]) true quickAnswers,
    .handleDatagram (.plain [2, 3]) false quickAnswers,
    .processPendingWrite
      { isConnectable := false
        isReadable := false
        isWritable := true
        connected := none
        reads := []
        writes := [.accepted 0] },
    .processPendingWrite
      { isConnectable := false
        isReadable := false
        isWritable := true
        connected := none
        reads := []
        writes := [.accepted 1] }]

theorem datagrams_in_order_refusedBurst :
    ((run (datagramStep 0) (Engine.start fun _ => 0)
            refusedBurst).sessions 0).channel.sentDatagrams ++
        ((run (datagramStep 0) (Engine.start fun _ => 0)
          refusedBurst).sessions 0).session.sendingDatagrams =
      [[1], [2, 3]] ∧
    (((run (datagramStep 0) (Engine.start fun _ => 0)
        refusedBurst).sessions 0).HasValidKey →
      ((run (datagramStep 0) (Engine.start fun _ => 0)
        refusedBurst).sessions 0).Announces) :=
  have inOrder :=
    @datagrams_in_order 0 (Engine.start fun _ => 0) refusedBurst rfl rfl
      (by intro bytes member; cases member)
      (by intro keyed waiting; exact absurd rfl waiting)
      ⟨⟨by decide, fun _ => rfl⟩, ⟨by decide, (by intro new; cases new)⟩,
        (by intro exception same; cases same),
        (by intro exception same; cases same), trivial⟩
  ⟨inOrder.1, inOrder.2.1⟩

end LanShield.Vpn
