import LanShield.Transport.OptionWalk
import LanShield.Vpn.DownloadEffects

/-!
# The client window and the window-scale option

A window scale only holds when both the SYN and the SYN-ACK carry the
option.  The SYN-ACK of `replySynAck` has the length of the SYN's header and
zeros in place of its options, yet the scale of the SYN is applied.
-/

namespace LanShield.Vpn.WindowNegotiation

open LanShield.Library LanShield.Java LanShield.Transport

/-- A SYN as it arrives behind its IP header, and the bytes of the SYN-ACK
it is answered with. -/
structure Handshake where
  syn : ClientSegment
  stream : ByteBuffer
  opening : SessionHandler.Opening
  packetId : Int
  synAck : List UInt8
  parsed :
    TCPPacketFactory.createTCPHeader stream =
      .ok (syn.tcpheader, syn.data)
  answered :
    (TCPPacketFactory.createSynAckPacketData syn.ipHeader syn.tcpheader
      opening.random opening.currentTime).getBuffer packetId = .ok synAck

namespace Handshake

def synAckPacket (handshake : Handshake) : Packet :=
  TCPPacketFactory.createSynAckPacketData handshake.syn.ipHeader
    handshake.syn.tcpheader handshake.opening.random
    handshake.opening.currentTime

/-- The shift that both sides have agreed on. -/
def shift (handshake : Handshake) : Nat :=
  match
    windowScaleOption (optionArea handshake.stream.unread),
    windowScaleOption
      (optionArea (handshake.synAckPacket.tcpBytes handshake.synAck))
  with
  | some scale, some _ => min scale 14
  | _, _ => 0

/-- The session the SYN opens. -/
def opened (handshake : Handshake) : TcpConnection :=
  SessionHandler.replySynAck handshake.syn handshake.opening

private theorem shift_eq_zero (handshake : Handshake) :
    handshake.shift = 0 := by
  have absent :
      windowScaleOption
          (optionArea (handshake.synAckPacket.tcpBytes handshake.synAck)) =
        none :=
    windowScaleOption_getBuffer rfl handshake.syn.dataOffset_le
      handshake.answered
  unfold shift
  rw [absent]
  split
  · next impossible => cases impossible
  · rfl

end Handshake

/-- An ACK of the session sets the window as negotiated. -/
def FollowsNegotiation (shift : Nat) (connection : TcpConnection) :
    AtomicStep → Prop
  | .handleTCPPacket segment currentTime =>
      SessionHandler.Reaches connection segment →
        (SessionHandler.handleTCPPacket segment currentTime
            connection).session.clientWindow =
          segment.tcpheader.unsignedWindow * 2 ^ shift
  | .processSelectionKey _ => True

/-- An ACK of the session advertises no window, or the last window-scale
option that is found along the bytes of the SYN is a multiple of sixty-four,
the width of a `long`. -/
def Unscaled (syn : List UInt8) (connection : TcpConnection) :
    AtomicStep → Prop
  | .handleTCPPacket segment _ =>
      SessionHandler.Reaches connection segment →
        segment.tcpheader.unsignedWindow = 0 ∨ walkedScale syn % 64 = 0
  | .processSelectionKey _ => True

def WindowBounded (connection : TcpConnection) : Prop :=
  0 ≤ connection.session.clientWindow ∧
    connection.session.clientWindow < 2 ^ 30

private theorem flow_window {before after : TcpConnection}
    (effects : FlowEffects before after) :
    after.session.clientWindow = before.session.clientWindow ∧
      after.session.clientWindowScale =
        before.session.clientWindowScale := by
  refine
    Prod.ext_iff.mp
      (@Effects.view_eq (Int × Int) FlowEffect
        (fun connection =>
          (connection.session.clientWindow,
            connection.session.clientWindowScale))
        ?_ _ _ effects)
  intro before after effect
  cases effect with
  | read effect =>
      cases effect with
      | pump effect =>
          cases effect with
          | segment => rfl
          | finish => rfl
          | interest => rfl
      | stage => rfl
      | endUpstream => rfl
      | abort => rfl
  | none same =>
      exact
        Prod.ext (congrArg Download.clientWindow same)
          (congrArg Download.clientWindowScale same)
  | halt same =>
      exact
        Prod.ext (congrArg Download.clientWindow same)
          (congrArg Download.clientWindowScale same)
  | acknowledge wire _ same =>
      exact
        Prod.ext (congrArg Download.clientWindow same)
          (congrArg Download.clientWindowScale same)

private theorem handleTCPPacket_window
    {segment : ClientSegment} (currentTime : Int)
    {connection : TcpConnection} (sound : Sound connection)
    (reaches : SessionHandler.Reaches connection segment) :
    let handled :=
      SessionHandler.handleTCPPacket segment currentTime connection
    handled.session.clientWindow =
        shiftLeft64 segment.tcpheader.unsignedWindow
          connection.session.clientWindowScale ∧
      handled.session.clientWindowScale =
        connection.session.clientWindowScale := by
  intro handled
  have flow := handleSessionSegment_flow segment currentTime sound
  rw [← SessionHandler.handleTCPPacket_reaches reaches] at flow
  exact flow_window flow

/-- Any other step leaves window and scale alone. -/
private theorem atomicStep_flow
    {connection : TcpConnection} (sound : Sound connection)
    {step : AtomicStep}
    (outside :
      ∀ segment currentTime,
        step = .handleTCPPacket segment currentTime →
          ¬ SessionHandler.Reaches connection segment) :
    FlowEffects connection (atomicStep connection step) := by
  cases step with
  | handleTCPPacket segment currentTime =>
      exact
        handleTCPPacket_flow currentTime (outside segment currentTime rfl)
  | processSelectionKey ready =>
      exact
        selected_flow
          (SocketNIODataService.runSelectedKey_selected ready connection)
          sound.noted

/-- What holds in every reachable state: the scale is that of the SYN. -/
structure Carries (windowScale : Int) (connection : TcpConnection) :
    Prop where
  sound : Sound connection
  scale : connection.session.clientWindowScale = windowScale

theorem Carries.step {windowScale : Int} {connection : TcpConnection}
    (carries : Carries windowScale connection) (step : AtomicStep) :
    Carries windowScale (atomicStep connection step) := by
  refine
    ⟨carries.sound.effects (atomicStep_effects carries.sound step), ?_⟩
  rw [← carries.scale]
  refine
    @Effects.view_eq Int DownloadEffect
      (fun connection => connection.session.clientWindowScale)
      ?_ _ _ (atomicStep_effects carries.sound step)
  intro before after effect
  cases effect with
  | flow effect =>
      exact (flow_window (.single effect)).2
  | window segment => rfl

/-- The scale stored for a SYN, modulo sixty-four. -/
private theorem scale_walk (handshake : Handshake) :
    handshake.syn.tcpheader.windowScale % 64 = 0 ↔
      walkedScale handshake.stream.unread % 64 = 0 := by
  rw [TCPPacketFactory.windowScale_walk handshake.parsed, signed8]
  omega

/-- The window follows the negotiation exactly where scaling leaves it
alone. -/
private theorem followsNegotiation_iff
    (handshake : Handshake) {connection : TcpConnection}
    (carries : Carries handshake.syn.tcpheader.windowScale connection)
    (step : AtomicStep) :
    FollowsNegotiation handshake.shift connection step ↔
      Unscaled handshake.stream.unread connection step := by
  cases step with
  | processSelectionKey ready => exact Iff.rfl
  | handleTCPPacket segment currentTime =>
      refine forall_congr' fun reaches => ?_
      rw [(handleTCPPacket_window currentTime carries.sound reaches).1,
        carries.scale, handshake.shift_eq_zero, pow_zero, mul_one,
        ← scale_walk]
      exact
        shiftLeft64_eq_self_iff segment.tcpheader.unsignedWindow_nonneg
          segment.tcpheader.unsignedWindow_lt

private theorem windowBounded_step
    (handshake : Handshake) (connection : TcpConnection)
    (step : AtomicStep)
    (follows : FollowsNegotiation handshake.shift connection step)
    (bounded :
      Carries handshake.syn.tcpheader.windowScale connection ∧
        WindowBounded connection) :
    Carries handshake.syn.tcpheader.windowScale
        (atomicStep connection step) ∧
      WindowBounded (atomicStep connection step) := by
  obtain ⟨carries, bounded⟩ := bounded
  refine ⟨carries.step step, ?_⟩
  by_cases reaches :
      ∃ segment currentTime,
        step = .handleTCPPacket segment currentTime ∧
          SessionHandler.Reaches connection segment
  · obtain ⟨segment, currentTime, rfl, reaches⟩ := reaches
    have window :
        (atomicStep connection
            (.handleTCPPacket segment
              currentTime)).session.clientWindow =
          segment.tcpheader.unsignedWindow * 2 ^ handshake.shift :=
      follows reaches
    have nonneg := segment.tcpheader.unsignedWindow_nonneg
    have small := segment.tcpheader.unsignedWindow_lt
    rw [WindowBounded]
    rw [window, handshake.shift_eq_zero, pow_zero, mul_one]
    omega
  · have flow :=
      atomicStep_flow carries.sound
        fun segment currentTime same reached =>
          reaches ⟨segment, currentTime, same, reached⟩
    rw [WindowBounded]
    rw [(flow_window flow).1]
    exact bounded

private theorem carries_opened (handshake : Handshake) :
    Carries handshake.syn.tcpheader.windowScale handshake.opened :=
  ⟨sound_replySynAck handshake.syn handshake.opening, rfl⟩

private theorem windowBounded_opened (handshake : Handshake) :
    WindowBounded handshake.opened := by
  have nonneg := handshake.syn.tcpheader.unsignedWindow_nonneg
  have small := handshake.syn.tcpheader.unsignedWindow_lt
  change
    0 ≤ handshake.syn.tcpheader.unsignedWindow ∧
      handshake.syn.tcpheader.unsignedWindow < 2 ^ 30
  omega

/-- In a run every ACK sets the window that was negotiated, and the window
stays in its bounds, exactly when every ACK advertises a window that the
options of the SYN leave alone. -/
theorem window_follows_negotiation_iff
    (handshake : Handshake) (steps : List AtomicStep) :
    (StepsMeet atomicStep (FollowsNegotiation handshake.shift)
          handshake.opened steps ∧
        ∀ visited, visited <+: steps →
          WindowBounded (run atomicStep handshake.opened visited)) ↔
      StepsMeet atomicStep (Unscaled handshake.stream.unread)
        handshake.opened steps := by
  have guards :=
    @stepsMeet_congr TcpConnection AtomicStep atomicStep
      (Carries handshake.syn.tcpheader.windowScale)
      (FollowsNegotiation handshake.shift)
      (Unscaled handshake.stream.unread)
      (fun _ step carries => carries.step step)
      (fun _ step carries => followsNegotiation_iff handshake carries step)
      steps handshake.opened (carries_opened handshake)
  rw [← guards]
  refine ⟨And.left, fun follows => ⟨follows, ?_⟩⟩
  intro visited isPrefix
  exact
    (run_guarded_invariant (windowBounded_step handshake) visited
      ⟨carries_opened handshake, windowBounded_opened handshake⟩
      (follows.of_isPrefix isPrefix)).2

/-- A SYN with a window scale of seven. -/
def scaledSynBytes : List UInt8 :=
  [4, 0, 0, 80, 0, 0, 0, 7, 0, 0, 0, 0, 0x60, 0x02, 3, 232, 0, 0, 0, 0,
    3, 3, 7, 0]

def scaledSyn : ClientSegment :=
  { ClientSegment.plain 0x02 7 0 1000 [] with
    tcpheader :=
      { (ClientSegment.plain 0x02 7 0 1000 []).tcpheader with
        dataOffset := 6
        windowScale := 7 }
    data := (ByteBuffer.wrap scaledSynBytes).advance 24
    dataOffset_le := by decide
    sequenceNumber_ge := by decide
    sequenceNumber_lt := by decide
    ackNumber_ge := by decide
    ackNumber_lt := by decide }

def scaledHandshake : Handshake where
  syn := scaledSyn
  stream := ByteBuffer.wrap scaledSynBytes
  opening := { random := 100, currentTime := 0, connected := true }
  packetId := 0
  synAck :=
    [69, 0, 0, 44, 0, 0, 0, 0, 64, 6, 102, 202, 10, 0, 0, 2, 10, 0, 0, 1,
      0, 80, 4, 0, 0, 0, 0, 100, 0, 0, 0, 8, 0x60, 0x12, 3, 232, 131, 40,
      0, 0, 0, 0, 0, 0]
  parsed := by decide +kernel
  answered := by decide +kernel

/-- The SYN carries the option and the SYN-ACK does not; the window of one
hundred bytes is taken for 12800. -/
theorem window_scaled_alone :
    windowScaleOption (optionArea scaledHandshake.stream.unread) = some 7 ∧
      scaledHandshake.shift = 0 ∧
      (SessionHandler.handleTCPPacket
          (ClientSegment.plain 0x10 8 101 100 []) 0
          scaledHandshake.opened).session.clientWindow = 12800 ∧
      ¬ FollowsNegotiation scaledHandshake.shift scaledHandshake.opened
          (.handleTCPPacket
            (ClientSegment.plain 0x10 8 101 100 []) 0) := by
  refine ⟨by decide, scaledHandshake.shift_eq_zero, by decide, ?_⟩
  intro follows
  have window := follows ⟨rfl, rfl, rfl⟩
  rw [scaledHandshake.shift_eq_zero] at window
  exact absurd window (by decide)

end LanShield.Vpn.WindowNegotiation
