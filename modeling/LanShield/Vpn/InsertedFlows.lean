import LanShield.Library.ProgramViews
import LanShield.Vpn.PacketHandling

/-!
# The flows inserted for new sessions

The engine with a history of the flows `insertFlow` has put into the
database.  A packet that opens a session is handled as `SessionHandler` does
it; the steps of the packet thread do the same one after another.
-/

namespace LanShield.Vpn

open LanShield.Library LanShield.Java LanShield.Transport Program

/-- `flows` has the session object of each flow inserted so far. -/
structure Recorded where
  engine : Engine
  flows : List Nat

abbrev Recording :=
  Program Recorded ThreadException

namespace Recorded

def view : View Recorded Engine where
  get := engine
  set engine recorded := { recorded with engine := engine }
  get_set _ _ := rfl
  set_get _ := rfl
  set_set _ _ _ := rfl

/-- A program of the engine inserts no flow. -/
abbrev onEngine {Value : Type} (program : Running Value) : Recording Value :=
  focus view program

/-- `FlowDao.insertFlow` for the flow of a session. -/
def insertFlow (answers : Answers) (id : Nat) : Recording Unit := do
  onEngine (platformCall .insertFlow answers)
  modify fun recorded => { recorded with flows := recorded.flows ++ [id] }

/-- `createNewUDPSession`. -/
def createNewUDPSession (key : SessionKey) (length : Int)
    (answers : Answers) : Recording Nat := do
  let existingSession ← onEngine (getSession key)
  match existingSession with
  | some id => return id
  | none => do
      onEngine (platformCall .openChannel answers)
      let id ← onEngine (allocateSession (newUdpObject key))
      onEngine (platformCall .configureChannel answers)
      onEngine (platformCall .connect answers)
      onEngine (modify (Engine.updateObject id connectUdp))
      onEngine (keepSessionAlive id)
      onEngine (startFlow length false id)
      insertFlow answers id
      return id

/-- `createNewTCPSession`. -/
def createNewTCPSession (key : SessionKey) (length : Int)
    (answers : Answers) : Recording Nat := do
  let existingSession ← onEngine (getSession key)
  match existingSession with
  | some id => return id
  | none => do
      onEngine (platformCall .openChannel answers)
      let id ← onEngine (allocateSession (newTcpObject key))
      onEngine (platformCall .configureChannel answers)
      onEngine (connectSocket answers id)
      onEngine (startFlow length answers.connected id)
      insertFlow answers id
      onEngine (keepSessionAlive id)
      return id

/-- `handleUDPPacket` behind a lookup that has found no session. -/
def handleUDPPacket (datagram : UdpDatagram) (answers : Answers) :
    Recording Unit := do
  let id ←
    createNewUDPSession datagram.sessionKey
      datagram.ipHeader.getTotalLength answers
  onEngine (PacketHandling.handleDatagram datagram true answers id)
  onEngine (keepSessionAlive id)

/-- `replySynAck` behind the packet it builds first. -/
def replySynAck (syn : TcpSegment) (packet : Packet) (data : List UInt8)
    (answers : Answers) : Recording Unit := do
  let id ←
    createNewTCPSession syn.sessionKey syn.ipHeader.getTotalLength answers
  let session ← onEngine (readSession id)
  if session.lastIpHeader.isSome then
    onEngine (PacketHandling.resendAck answers.currentTime id)
  else
    onEngine (PacketHandling.populate syn packet data answers id)

/-- A step of the packet thread, with the flows it inserts. -/
def proceed (answers : Answers) : PacketThread → Recording PacketThread
  | .createUdp datagram => do
      let id ←
        createNewUDPSession datagram.sessionKey
          datagram.ipHeader.getTotalLength answers
      return .enterUdp datagram true id
  | .createTcp syn packet data => do
      let id ←
        createNewTCPSession syn.sessionKey syn.ipHeader.getTotalLength
          answers
      let session ← onEngine (readSession id)
      if session.lastIpHeader.isSome then
        return .resendAck id
      else
        return .populate syn packet data id
  | thread => onEngine (PacketHandling.proceed answers thread)

private theorem insertFlow_implements (answers : Answers) (id : Nat) :
    Implements view (insertFlow answers id)
      (platformCall .insertFlow answers) := by
  have inserted :=
    (@implements_focus _ _ _ _ view (platformCall .insertFlow answers)).bind
      fun _ =>
        @implements_hidden _ _ ThreadException view
          (fun recorded =>
            { recorded with flows := recorded.flows ++ [id] })
          fun _ => rfl
  rw [bind_pure] at inserted
  exact inserted

private theorem createNewUDPSession_implements (key : SessionKey)
    (length : Int)
    (answers : Answers) :
    Implements view (createNewUDPSession key length answers)
      (Vpn.createNewUDPSession key length answers) := by
  apply (implements_focus _).bind
  intro existingSession
  cases existingSession with
  | some id => exact implements_pure id
  | none =>
      apply (implements_focus _).bind
      intro _
      apply (implements_focus _).bind
      intro id
      apply (implements_focus _).bind
      intro _
      apply (implements_focus _).bind
      intro _
      apply (implements_focus _).bind
      intro _
      apply (implements_focus _).bind
      intro _
      apply (implements_focus _).bind
      intro _
      apply (insertFlow_implements answers id).bind
      intro _
      exact implements_pure id

private theorem createNewTCPSession_implements (key : SessionKey)
    (length : Int)
    (answers : Answers) :
    Implements view (createNewTCPSession key length answers)
      (Vpn.createNewTCPSession key length answers) := by
  apply (implements_focus _).bind
  intro existingSession
  cases existingSession with
  | some id => exact implements_pure id
  | none =>
      apply (implements_focus _).bind
      intro _
      apply (implements_focus _).bind
      intro id
      apply (implements_focus _).bind
      intro _
      apply (implements_focus _).bind
      intro _
      apply (implements_focus _).bind
      intro _
      apply (insertFlow_implements answers id).bind
      intro _
      apply (implements_focus _).bind
      intro _
      exact implements_pure id

/-- The steps are those of the engine's packet thread. -/
theorem proceed_implements (answers : Answers) (thread : PacketThread) :
    Implements view (proceed answers thread)
      (PacketHandling.proceed answers thread) := by
  cases thread with
  | createUdp datagram =>
      apply (createNewUDPSession_implements _ _ answers).bind
      intro id
      exact implements_pure _
  | createTcp syn packet data =>
      apply (createNewTCPSession_implements _ _ answers).bind
      intro id
      apply (implements_focus _).bind
      intro session
      split
      · exact implements_pure _
      · exact implements_pure _
  | idle => exact implements_focus _
  | enterUdp datagram newSession id => exact implements_focus _
  | keepUdp id => exact implements_focus _
  | resendAck id => exact implements_focus _
  | populate syn packet data id => exact implements_focus _
  | enterTcp segment id => exact implements_focus _
  | keepFin id => exact implements_focus _
  | abort id => exact implements_focus _

/-- A datagram that opens a session takes three steps. -/
theorem handleUDPPacket_steps (datagram : UdpDatagram) (answers : Answers) :
    handleUDPPacket datagram answers =
      (do
        let enter ← proceed answers (.createUdp datagram)
        let keep ← proceed answers enter
        let _ ← proceed answers keep
        return) := by
  rw [handleUDPPacket]
  simp only [proceed, PacketHandling.proceed, bind_assoc, pure_bind,
    onEngine, focus_bind, focus_pure, bind_pure_unit]

theorem replySynAck_steps (syn : TcpSegment) (packet : Packet)
    (data : List UInt8) (answers : Answers) :
    replySynAck syn packet data answers =
      (do
        let reply ← proceed answers (.createTcp syn packet data)
        let _ ← proceed answers reply
        return) := by
  rw [replySynAck]
  simp only [proceed, bind_assoc]
  congr
  funext id
  congr
  funext session
  split
  · simp only [PacketHandling.proceed, bind_assoc, pure_bind, onEngine,
      focus_bind, focus_pure, bind_pure_unit]
  · simp only [PacketHandling.proceed, bind_assoc, pure_bind, onEngine,
      focus_bind, focus_pure, bind_pure_unit]

end Recorded

end LanShield.Vpn
