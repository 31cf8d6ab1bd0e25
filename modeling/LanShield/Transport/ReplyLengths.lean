import LanShield.Transport.UDPReplies

/-!
# The length of a UDP reply

Whatever the header a reply is built from, the array is as long as that
header says, with eight bytes for the UDP header and the payload behind it.
-/

namespace LanShield.Transport

open LanShield.Library LanShield.Java

private theorem PacketUtil.length_overwrite_le (buffer : List UInt8)
    (offset : Nat)
    (source : List UInt8) :
    (overwrite buffer offset source).length ≤
      max buffer.length (offset + source.length) := by
  simp only [overwrite, List.length_append, List.length_take,
    List.length_drop]
  omega

/-- A serialised IP header is no longer than it says, and leaves room for
the checksum. -/
private theorem IPHeader.length_headerData_le {header : IPHeader}
    {bytes : List UInt8} (built : header.headerData = .ok bytes) :
    bytes.length ≤ header.headerLength ∧ 12 ≤ header.headerLength := by
  cases header with
  | v4 header =>
      rw [headerData, IPv4Header.headerData] at built
      split at built
      · cases built
      · next long =>
        cases built
        simp only [headerLength, IPv4Header.getIPHeaderLength,
          List.length_append, List.length_cons, List.length_nil,
          List.length_take, List.length_replicate]
        omega
  | v6 header =>
      cases built
      simp only [headerLength, IPv6Header.headerData, List.length_append,
        List.length_cons, List.length_nil, List.length_take]
      omega

namespace UDPPacketFactory

/-- The five copies behind the IP header stay inside the array. -/
private theorem length_written {ipData data : List UInt8} {total : Nat}
    (sourcePort destinationPort udpLen : Int)
    (room : ipData.length + (8 + data.length) ≤ total) :
    (PacketUtil.overwrite
        (writeShort (0 : Int) (ipData.length + 6)
          (writeShort udpLen (ipData.length + 4)
            (writeShort destinationPort (ipData.length + 2)
              (writeShort sourcePort ipData.length
                (PacketUtil.overwrite (List.replicate total 0) 0
                  ipData)))))
        (ipData.length + 8) data).length = total := by
  have header :
      (PacketUtil.overwrite (List.replicate total 0) 0 ipData).length =
        total := by
    rw [PacketUtil.length_overwrite, List.length_replicate]
    rw [List.length_replicate]
    omega
  have field {buffer : List UInt8} (whole : buffer.length = total)
      (value : Int) (start : Nat) (inside : start + 2 ≤ total) :
      (writeShort value start buffer).length = total := by
    rw [writeShort_eq, PacketUtil.length_overwrite, whole]
    rw [length_toBigEndian, whole]
    exact inside
  have first := field header sourcePort ipData.length (by omega)
  have second :=
    field first destinationPort (ipData.length + 2) (by omega)
  have third := field second udpLen (ipData.length + 4) (by omega)
  have fourth := field third 0 (ipData.length + 6) (by omega)
  rw [PacketUtil.length_overwrite, fourth]
  omega

/-- A reply has the header of the request, its own and the payload. -/
theorem length_createResponsePacket {packetId : Int} {data : List UInt8}
    {objects : HeaderObjects} {bytes : List UInt8}
    (built :
      (createResponsePacket packetId data objects).map Prod.fst =
        .ok bytes) :
    bytes.length = objects.ip.headerLength + (8 + data.length) := by
  have total :
      (replyHeader packetId objects.ip
          (8 + data.length : Nat)).getTotalLength.toNat =
        objects.ip.headerLength + (8 + data.length) := by
    rcases objects.ip with header | header
    · show
        Int.toNat
            (header.getIPHeaderLength + ((8 + data.length : Nat) : Int)) =
          header.getIPHeaderLength + (8 + data.length)
      omega
    · show
        Int.toNat (40 + ((8 + data.length : Nat) : Int)) =
          40 + (8 + data.length)
      omega
  have same :
      (replyHeader packetId objects.ip
          (8 + data.length : Nat)).headerLength =
        objects.ip.headerLength := by
    rcases objects.ip with header | header
    · rfl
    · rfl
  rw [createResponsePacket_eq] at built
  rcases headerBuilt :
    (replyHeader packetId objects.ip (8 + data.length : Nat)).headerData with
    exception | ipData
  · rw [headerBuilt] at built
    cases built
  · obtain ⟨short, room⟩ := IPHeader.length_headerData_le headerBuilt
    rw [same] at short room
    rw [headerBuilt, total] at built
    have written := Except.ok.inj built
    rw [← written]
    apply length_written
    have zeroed := PacketUtil.length_overwrite_le ipData 10 [0, 0]
    have summed :=
      PacketUtil.length_overwrite_le (PacketUtil.overwrite ipData 10 [0, 0])
        10
        (PacketUtil.calculateChecksum
          (PacketUtil.overwrite ipData 10 [0, 0]) 0
          (PacketUtil.overwrite ipData 10 [0, 0]).length)
    rw [PacketUtil.length_calculateChecksum] at summed
    simp only [List.length_cons, List.length_nil] at zeroed
    omega

end UDPPacketFactory

end LanShield.Transport
