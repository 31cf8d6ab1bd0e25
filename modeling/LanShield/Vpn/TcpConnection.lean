import LanShield.Transport.BuiltPackets
import LanShield.Vpn.ClientPacketWriter
import LanShield.Vpn.Session

/-!
# A TCP session with everything its steps touch

A step on a TCP session also acts on the upstream socket channel, on the
session table and on the writer to the client.  `TcpConnection` collects
these, seen from one session: whether the table maps the session's key to
it, the calls of `ClientPacketWriter.write`, and the payloads `addClientData`
has appended.  The logs are histories: no step reads them.  A packet in them
is its headers and its payload; `Serialised` says that the builders make an
array of it, and `delivered` leaves out what `write` drops for its size.
-/

namespace LanShield.Vpn

open LanShield.Library LanShield.Java LanShield.Transport

/-- What `DataConst.MAX_RECEIVE_BUFFER_SIZE` allows one read to return. -/
def maxReceiveBufferSize : Nat :=
  65535

/-- The bytes of one read that returned a positive number of them. -/
structure Chunk where
  bytes : List UInt8
  bytes_ne_nil : bytes ≠ []
  length_le : bytes.length ≤ maxReceiveBufferSize
  deriving DecidableEq

/-- The exceptions of a read or write; all but the first are
`IOException`s. -/
inductive SocketException where
  | notYetConnected
  | closedByInterrupt
  | closedChannel
  | other
  deriving DecidableEq, Repr

/-- What one `channel.read` does.  `nothing` is a read that returns zero,
also one that takes an empty datagram. -/
inductive ReadOutcome where
  | data (chunk : Chunk)
  | nothing
  | endOfStream
  | failure (exception : SocketException)
  deriving DecidableEq

/-- What one `channel.write` does. -/
inductive WriteOutcome where
  | accepted (count : Nat)
  | failure (exception : SocketException)
  deriving DecidableEq, Repr

/-- A non-blocking `SocketChannel`, with the bytes it has returned and
taken so far. -/
structure SocketChannel where
  isOpen : Bool
  isConnected : Bool
  isConnectionPending : Bool
  atEnd : Bool
  received : List UInt8
  sent : List UInt8
  deriving DecidableEq, Repr

namespace SocketChannel

/-- Behind the end of the stream a read that does not fail reports the end
again. -/
def read (outcome : ReadOutcome) (channel : SocketChannel) :
    ReadOutcome × SocketChannel :=
  match outcome with
  | .failure exception => (.failure exception, channel)
  | .endOfStream => (.endOfStream, { channel with atEnd := true })
  | .nothing =>
      if channel.atEnd then (.endOfStream, channel) else (.nothing, channel)
  | .data chunk =>
      if channel.atEnd then
        (.endOfStream, channel)
      else
        (.data chunk,
          { channel with received := channel.received ++ chunk.bytes })

/-- `finishConnect` with its result, or with the exception that closes the
channel. -/
def finishConnect (outcome : Option Bool) (channel : SocketChannel) :
    SocketChannel :=
  match outcome with
  | some true =>
      { channel with isConnected := true, isConnectionPending := false }
  | some false => channel
  | none =>
      { channel with isOpen := false, isConnectionPending := false }

/-- Closing a channel also invalidates its key, which `Session` holds. -/
def close (channel : SocketChannel) : SocketChannel :=
  { channel with
    isOpen := false
    isConnected := false
    isConnectionPending := false }

end SocketChannel

/-- The methods that write a packet to the client for a session. -/
inductive Sender where
  | replySynAck
  | resendAck
  | sendAck
  | sendAckForDisorder
  | sendFinAck
  | ackFinAck
  | sendLastAck
  | sendRstPacket
  | pumpToClient
  | sendFin
  | writeTCP
  deriving DecidableEq, Repr

/-- One call of `ClientPacketWriter.write`, with the session as it was. -/
structure WrittenPacket where
  sender : Sender
  packet : Packet
  session : Session
  deriving DecidableEq, Repr

namespace WrittenPacket

/-- The length of the array the packet is serialised to. -/
def size (entry : WrittenPacket) : Nat :=
  headersLength entry.packet.ipHeader entry.packet.transportHeader +
    entry.packet.data.length

/-- `write` drops the packet for its size, or it does not. -/
theorem fits_iff {entry : WrittenPacket} {packetId : Int}
    {data : List UInt8}
    (built : entry.packet.getBuffer packetId = .ok data) :
    Fits data ↔ entry.size ≤ maxWritePacketSize := by
  rw [Fits, Packet.length_getBuffer built, size]

/-- The packet is serialised to an array that `write` does not drop. -/
def Serialised (entry : WrittenPacket) : Prop :=
  ∀ packetId, ∃ data,
    entry.packet.getBuffer packetId = .ok data ∧ Fits data

end WrittenPacket

structure TcpConnection where
  session : Session
  channel : SocketChannel
  tracked : Bool
  written : List WrittenPacket
  appended : List (Int × List UInt8)
  deriving DecidableEq, Repr

namespace TcpConnection

def updateSession (update : Session → Session) (connection : TcpConnection) :
    TcpConnection :=
  { connection with session := update connection.session }

/-- A call of `ClientPacketWriter.write`. -/
def write (sender : Sender) (packet : Packet) (connection : TcpConnection) :
    TcpConnection :=
  { connection with
    written :=
      connection.written ++ [⟨sender, packet, connection.session⟩] }

/-- What `ClientPacketWriter.write` hands on: it drops every packet of more
than `MAX_WRITE_PACKET_SIZE` bytes. -/
def delivered (connection : TcpConnection) : List WrittenPacket :=
  connection.written.filter fun entry => entry.size ≤ maxWritePacketSize

/-- `SessionManager.addClientData`; `sequenceNumber` only labels the
history. -/
def addClientData (sequenceNumber : Int) (buffer : ByteBuffer)
    (connection : TcpConnection) : Nat × TcpConnection :=
  if buffer.limit ≤ buffer.position then
    (0, connection)
  else
    let (count, session) := connection.session.setSendingData buffer
    (count,
      { connection with
        session
        appended :=
          connection.appended ++ [(sequenceNumber, buffer.unread)] })

theorem addClientData_tcp
    {connection : TcpConnection} (tcp : connection.session.protocol = .tcp)
    (sequenceNumber : Int) {buffer : ByteBuffer}
    (hasData : 0 < buffer.remaining) :
    connection.addClientData sequenceNumber buffer =
      (buffer.remaining,
        { connection with
          session :=
            { connection.session with
              sendingStream :=
                connection.session.sendingStream ++ buffer.unread }
          appended :=
            connection.appended ++
              [(sequenceNumber, buffer.unread)] }) := by
  have nonempty : ¬ buffer.limit ≤ buffer.position := by
    rw [ByteBuffer.remaining] at hasData
    omega
  rw [addClientData]
  rw [if_neg nonempty, Session.setSendingData_tcp tcp]

theorem addClientData_nothing
    (connection : TcpConnection) (sequenceNumber : Int)
    {buffer : ByteBuffer} (nothing : buffer.remaining = 0) :
    connection.addClientData sequenceNumber buffer = (0, connection) :=
  if_pos (Nat.sub_eq_zero_iff_le.mp nothing)

/-- `SessionManager.closeSession`, which closes the channel of the session
it removes from the table. -/
def closeSession (connection : TcpConnection) : TcpConnection :=
  if connection.tracked then
    { connection with
      tracked := false
      session := connection.session.cancelKey
      channel := connection.channel.close }
  else
    connection

/-- Closing a session only cancels its key. -/
theorem closeSession_session (connection : TcpConnection) :
    connection.closeSession.session =
      { connection.session with
        selectionkey := connection.closeSession.session.selectionkey } := by
  rw [closeSession]
  split
  · rfl
  · rfl

theorem tracked_closeSession (connection : TcpConnection) :
    connection.closeSession.tracked = false := by
  rw [closeSession]
  split
  · rfl
  · next untracked => exact Bool.eq_false_iff.mpr untracked

theorem written_closeSession (connection : TcpConnection) :
    connection.closeSession.written = connection.written := by
  rw [closeSession]
  split
  · rfl
  · rfl

/-- A closed channel stays closed. -/
private theorem isOpen_closeSession {connection : TcpConnection}
    (closed : connection.channel.isOpen = false) :
    connection.closeSession.channel.isOpen = false := by
  rw [closeSession]
  split
  · rfl
  · exact closed

/-- `SessionManager.keepSessionAlive`. -/
def keepSessionAlive (connection : TcpConnection) : TcpConnection :=
  { connection with tracked := true }

/-- The end of `read` and `write` for an aborting session: cancel the key,
close a connected channel and remove the session. -/
def removeAborted (connection : TcpConnection) : TcpConnection :=
  let cancelled := connection.updateSession Session.cancelKey
  let closed :=
    if cancelled.channel.isConnected then
      { cancelled with channel := cancelled.channel.close }
    else
      cancelled
  closed.closeSession

theorem removeAborted_session (connection : TcpConnection) :
    connection.removeAborted.session =
      { connection.session with
        selectionkey := connection.session.selectionkey.cancel } := by
  rw [removeAborted, closeSession]
  dsimp only
  split
  · split
    · rfl
    · rfl
  · split
    · rfl
    · rfl

theorem tracked_removeAborted (connection : TcpConnection) :
    connection.removeAborted.tracked = false :=
  tracked_closeSession _

theorem written_removeAborted (connection : TcpConnection) :
    connection.removeAborted.written = connection.written := by
  rw [removeAborted]
  refine (written_closeSession _).trans ?_
  split
  · rfl
  · rfl

theorem isOpen_removeAborted {connection : TcpConnection}
    (connected : connection.channel.isConnected = true) :
    connection.removeAborted.channel.isOpen = false := by
  rw [removeAborted]
  apply isOpen_closeSession
  split
  · rfl
  · next disconnected => exact (disconnected connected).elim

end TcpConnection

end LanShield.Vpn
