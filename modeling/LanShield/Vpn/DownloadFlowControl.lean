import LanShield.Vpn.DownloadEffects

/-!
# Flow control of the download

The counters `sendUnack` and `sendNext` are exact integers; a client only
sends residues and window fields.  Whatever these are, the bytes in flight
stay within one period of the wire numbers, and within the window when a
segment is sent.
-/

namespace LanShield.Vpn.DownloadFlowControl

open LanShield.Library LanShield.Transport

/-- The bytes sent and not acknowledged. -/
def inFlight (session : Session) : Int :=
  session.sendNext - session.sendUnack

structure FlowControlled (connection : TcpConnection) : Prop where
  inFlight_nonneg : 0 ≤ inFlight connection.session
  inFlight_lt : inFlight connection.session < 2 ^ 32
  fits :
    ∀ entry ∈ connection.written,
      entry.packet.data ≠ [] →
        inFlight entry.session ≤ entry.session.clientWindow

/-- The `int` the pump computes is the number of bytes in flight. -/
theorem FlowControlled.unsigned32_inFlight {connection : TcpConnection}
    (controlled : FlowControlled connection) :
    unsigned32 (inFlight connection.session) =
      inFlight connection.session :=
  unsigned32_eq_self controlled.inFlight_nonneg controlled.inFlight_lt

/-- What holds of a download in every reachable state, and that
`sendUnack` has not fallen below `floor`. -/
structure Controlled (floor : Int) (download : Download) : Prop where
  scale_nonneg : 0 ≤ download.clientWindowScale
  scale_le : download.clientWindowScale ≤ 14
  window_lt : download.clientWindow < 2 ^ 30
  floor_le : floor ≤ download.sendUnack
  inFlight_lt : download.sendNext - download.sendUnack < 2 ^ 32
  fits :
    ∀ entry ∈ download.written,
      entry.packet.data ≠ [] →
        inFlight entry.session ≤ entry.session.clientWindow

private theorem shiftLeft64_lt {field scale : Int}
    (nonneg : 0 ≤ field) (small : field < 2 ^ 16)
    (scaleNonneg : 0 ≤ scale) (scaleSmall : scale ≤ 14) :
    shiftLeft64 field scale < 2 ^ 30 := by
  rw [shiftLeft64_eq_mul nonneg small scaleNonneg scaleSmall]
  have power_le : (2 : Int) ^ scale.toNat ≤ 2 ^ 14 :=
    pow_le_pow_right₀ (by norm_num) (by omega)
  calc
    field * 2 ^ scale.toNat ≤ field * 2 ^ 14 :=
      mul_le_mul_of_nonneg_left power_le nonneg
    _ < 2 ^ 30 := by omega

theorem Controlled.segment
    {floor : Int} {connection : TcpConnection}
    (controlled : Controlled floor connection.download)
    (sound : Sound connection)
    (ipHeader : IPHeader) (tcpheader : TCPHeader)
    {packetBody : List UInt8} (rest : List UInt8)
    (nonempty : packetBody ≠ [])
    (room :
      (packetBody.length : Int) ≤
        connection.session.clientWindow -
          unsigned32
            (connection.session.sendNext - connection.session.sendUnack)) :
    Controlled floor
      (SocketChannelReader.sendSegment ipHeader tcpheader packetBody
        { connection with
          session :=
            { connection.session with
              receivingStream := rest } }).download := by
  have window_lt : connection.session.clientWindow < 2 ^ 30 :=
    controlled.window_lt
  have exact_inFlight :=
    unsigned32_eq_self (Int.sub_nonneg.mpr sound.unack_le)
      controlled.inFlight_lt
  rw [exact_inFlight] at room
  rw [SocketChannelReader.sendSegment]
  dsimp only
  rw [download_write_kept (Or.inr nonempty)]
  refine
    ⟨controlled.scale_nonneg, controlled.scale_le, window_lt,
      controlled.floor_le, ?_, ?_⟩
  · change
      connection.session.sendNext + packetBody.length -
          connection.session.sendUnack <
        2 ^ 32
    omega
  · intro entry member hasData
    rcases List.mem_append.mp member with earlier | last
    · exact controlled.fits entry earlier hasData
    · rw [List.mem_singleton.mp last]
      rw [inFlight]
      dsimp only
      omega

theorem Controlled.finish
    {floor : Int} {connection : TcpConnection}
    (controlled : Controlled floor connection.download)
    (ipHeader : IPHeader) (tcpheader : TCPHeader) :
    Controlled floor
      (SocketChannelReader.sendFin ipHeader tcpheader
        connection).download := by
  unfold SocketChannelReader.sendFin
  dsimp only
  rw [download_write_kept (Or.inl rfl)]
  refine { controlled with fits := ?_ }
  intro entry member hasData
  rcases List.mem_append.mp member with earlier | last
  · exact controlled.fits entry earlier hasData
  · rw [List.mem_singleton.mp last] at hasData
    exact (hasData rfl).elim

theorem Controlled.flow
    {floor : Int} {before after : TcpConnection}
    (effect : FlowEffect before after) (sound : Sound before)
    (controlled : Controlled floor before.download) :
    Controlled floor after.download := by
  cases effect with
  | read effect =>
      cases effect with
      | pump effect =>
          cases effect with
          | segment ipHeader tcpheader packetBody rest _ nonempty room =>
              exact
                controlled.segment sound ipHeader tcpheader rest nonempty
                  room
          | finish ipHeader tcpheader =>
              exact { controlled.finish ipHeader tcpheader with }
          | interest => exact controlled
      | stage => exact { controlled with }
      | endUpstream => exact { controlled with }
      | abort => exact { controlled with }
  | none same =>
      rw [same]
      exact controlled
  | halt same =>
      rw [same]
      exact { controlled with }
  | acknowledge wire advances same =>
      have unack_le := sound.unack_le
      have floor_le : floor ≤ before.session.sendUnack :=
        controlled.floor_le
      have above := lt_reconstruct before.session.sendNext wire
      rw [same]
      refine
        { controlled with
          floor_le := ?_
          inFlight_lt := ?_ }
      · dsimp only
        omega
      · change
          before.session.sendNext -
              reconstruct before.session.sendNext wire <
            2 ^ 32
        omega

theorem Controlled.effect
    {floor : Int} {before after : TcpConnection}
    (effect : DownloadEffect before after) (sound : Sound before)
    (controlled : Controlled floor before.download) :
    Controlled floor after.download := by
  cases effect with
  | flow effect => exact controlled.flow effect sound
  | window segment =>
      exact
        { controlled with
          window_lt :=
            shiftLeft64_lt segment.tcpheader.unsignedWindow_nonneg
              segment.tcpheader.unsignedWindow_lt
              controlled.scale_nonneg controlled.scale_le }

private theorem controlled_replySynAck
    (syn : ClientSegment) (opening : SessionHandler.Opening)
    (scale_nonneg : 0 ≤ syn.tcpheader.windowScale)
    (scale_le : syn.tcpheader.windowScale ≤ 14) :
    Controlled
      (SessionHandler.replySynAck syn opening).session.sendUnack
      (SessionHandler.replySynAck syn opening).download := by
  have window_lt := syn.tcpheader.unsignedWindow_lt
  rw [SessionHandler.replySynAck]
  rw [download_write_other (by decide) rfl]
  refine ⟨scale_nonneg, scale_le, ?_, le_refl _, ?_, ?_⟩
  · exact window_lt.trans (by norm_num)
  · have one_in_flight (sequenceNumber : Int) :
        sequenceNumber + 1 - sequenceNumber < 2 ^ 32 := by
      omega
    exact one_in_flight _
  · intro entry member
    cases member

private theorem Controlled.controlled
    {floor : Int} {connection : TcpConnection}
    (controlled : Controlled floor connection.download)
    (sound : Sound connection) : FlowControlled connection where
  inFlight_nonneg := Int.sub_nonneg.mpr sound.unack_le
  inFlight_lt := controlled.inFlight_lt
  fits := by
    intro entry member hasData
    refine controlled.fits entry ?_ hasData
    exact
      List.mem_filter.mpr ⟨member, decide_eq_true (Or.inr hasData)⟩

theorem Controlled.run
    {floor : Int} {connection : TcpConnection}
    (controlled : Controlled floor connection.download)
    (sound : Sound connection) (calls : List DownloadCall) :
    Sound (run downloadCall connection calls) ∧
      Controlled floor (run downloadCall connection calls).download :=
  run_downloadCall_preserves
    (fun _ _ effect reached => Controlled.effect effect reached) calls
    sound controlled

/-- However the client acknowledges and moves its window, `sendUnack` only
grows, the bytes in flight are those the pump computes, and no segment has
been sent beyond the window. -/
theorem download_flow_controlled
    (syn : ClientSegment) (opening : SessionHandler.Opening)
    (scale_nonneg : 0 ≤ syn.tcpheader.windowScale)
    (scale_le : syn.tcpheader.windowScale ≤ 14)
    (earlier later : List DownloadCall) :
    let reached :=
      Library.run downloadCall (SessionHandler.replySynAck syn opening)
        earlier
    FlowControlled reached ∧
      reached.session.sendUnack ≤
        (Library.run downloadCall reached later).session.sendUnack := by
  intro reached
  obtain ⟨sound, controlled⟩ :=
    (controlled_replySynAck syn opening scale_nonneg scale_le).run
      (sound_replySynAck syn opening) earlier
  refine ⟨controlled.controlled sound, ?_⟩
  have from_here :
      Controlled reached.session.sendUnack reached.download :=
    { controlled with floor_le := le_refl _ }
  exact (from_here.run sound later).2.floor_le

theorem download_flow_controlled_without_scale :
    let reached :=
      Library.run downloadCall (SessionHandler.openedConnection 7)
        [.readTCP [.data ⟨[1, 2, 3], by decide, by decide⟩]]
    FlowControlled reached ∧
      reached.session.sendUnack ≤
        (Library.run downloadCall reached
          [.pumpToClient]).session.sendUnack :=
  download_flow_controlled (ClientSegment.plain 0x02 7 0 1000 [])
    { random := 100, currentTime := 0, connected := true }
    (by decide) (by decide)
    [.readTCP [.data ⟨[1, 2, 3], by decide, by decide⟩]] [.pumpToClient]

end LanShield.Vpn.DownloadFlowControl
