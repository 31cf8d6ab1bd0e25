import LanShield.Transport.PacketLayout
import LanShield.Transport.ParsedHeaders

/-!
# Parsing what was serialised

The parsers accept the layouts of `PacketLayout` and stop behind them.
-/

namespace LanShield.Transport

open LanShield.Library LanShield.Java

private theorem ByteBuffer.rewind_advance {stream : ByteBuffer}
    (start : stream.position = 0) (count : Nat) :
    (stream.advance count).rewind = stream := by
  cases stream
  cases start
  rfl

/-- `createIPHeader` parses what the version nibble names. -/
theorem createIPHeader_eq {stream : ByteBuffer}
    (start : stream.position = 0) (some_bytes : 1 ≤ stream.remaining) :
    createIPHeader stream =
      if signed8 (bigEndian (slice stream.array 0 1)) / 16 = 4 then
        (IPHeader.v4 <$> IPv4Header.ofStream) stream
      else
        (IPHeader.v6 <$> IPv6Header.ofStream) stream := by
  have first := Reading.getByte_eq_ok.mpr ⟨some_bytes, rfl, rfl⟩
  rw [start] at first
  rw [createIPHeader]
  rw [Reading.bind_of_eq_ok first, Reading.modify_bind,
    ByteBuffer.rewind_advance start]
  split <;> rfl

theorem IPv4Header.ofStream_accepts {stream : ByteBuffer}
    (version :
      signed8 (bigEndian (slice stream.array stream.position 1)) / 16 = 4)
    (long :
      5 ≤ bigEndian (slice stream.array stream.position 1) % 16)
    (room :
      4 * (bigEndian (slice stream.array stream.position 1) % 16) ≤
        stream.remaining) :
    ∃ header after, IPv4Header.ofStream stream = .ok (header, after) := by
  have length_eq :
      (signed8 (bigEndian (slice stream.array stream.position 1)) %
          16).toNat =
        bigEndian (slice stream.array stream.position 1) % 16 := by
    rw [signed8]
    omega
  have capacity : stream.remaining ≤ stream.capacity := by
    have := stream.limit_le_capacity
    rw [ByteBuffer.remaining, ByteBuffer.capacity]
    omega
  rw [IPv4Header.ofStream]
  rw [Reading.get_bind, if_neg (by omega),
    Reading.bind_of_eq_ok (Reading.getByte_eq_ok.mpr ⟨by omega, rfl, rfl⟩),
    if_neg (not_not.mpr version), length_eq, if_neg (by omega)]
  simp only [Reading.bind_eq_ok, Reading.getByte_eq_ok,
    Reading.getShort_eq_ok, IPAddress.ofStream, Reading.getBytes_eq_ok,
    Reading.pure_eq_ok, and_assoc, exists_and_left, exists_eq_left,
    ByteBuffer.advance_advance, ByteBuffer.array_advance,
    ByteBuffer.remaining_advance, Nat.reduceAdd]
  refine
    ⟨by omega, by omega, by omega, by omega, by omega, by omega, by omega,
      by omega, by omega, by omega, ?_⟩
  exact ⟨_, rfl⟩

theorem IPv6Header.ofStream_accepts {stream : ByteBuffer}
    (version :
      signed8 (bigEndian (slice stream.array stream.position 1)) / 16 = 6)
    (room : 40 ≤ stream.remaining) :
    ∃ header after, IPv6Header.ofStream stream = .ok (header, after) := by
  rw [IPv6Header.ofStream]
  rw [Reading.get_bind, if_neg (by omega),
    Reading.bind_of_eq_ok (Reading.getByte_eq_ok.mpr ⟨by omega, rfl, rfl⟩),
    if_neg (not_not.mpr version)]
  simp only [Reading.bind_eq_ok, Reading.getByte_eq_ok,
    Reading.getShort_eq_ok, IPAddress.ofStream, Reading.getBytes_eq_ok,
    Reading.pure_eq_ok, and_assoc, exists_and_left, exists_eq_left,
    ByteBuffer.advance_advance, ByteBuffer.array_advance,
    ByteBuffer.remaining_advance, Nat.reduceAdd]
  refine
    ⟨by omega, by omega, by omega, by omega, by omega, by omega, by omega,
      ?_⟩
  exact ⟨_, rfl⟩

/-- The version and header-length byte of a complete header. -/
theorem IPv4Header.Complete.version {header : IPv4Header}
    (complete : header.Complete) :
    (byteOf header.internetHeaderLength &&& 0xF ||| 0x40).toNat =
      64 + header.internetHeaderLength := by
  obtain ⟨long, short, -, -⟩ := complete
  generalize header.internetHeaderLength = length at long short ⊢
  interval_cases length <;> rfl

/-- A packet that starts with the bytes of a header is parsed to its
addresses. -/
theorem IPv4Header.Layout.reparsed {header : IPv4Header}
    {ipBuffer : List UInt8} (complete : header.Complete)
    (layout : header.Layout ipBuffer) (back : List UInt8) :
    ∃ parsed after,
      createIPHeader (ByteBuffer.wrap (ipBuffer ++ back)) =
          .ok (.v4 parsed, after) ∧
        parsed.sourceIP = header.sourceIP ∧
        parsed.destinationIP = header.destinationIP ∧
        parsed.internetHeaderLength = header.internetHeaderLength ∧
        after.unread = back := by
  have long := complete.long
  have short := complete.short
  have length_eq := layout.length_eq
  rw [getIPHeaderLength] at length_eq
  have version := complete.version
  have first :
      bigEndian (slice (ipBuffer ++ back) 0 1) =
        64 + header.internetHeaderLength := by
    rw [slice_append_left (by omega), layout.version, bigEndian_cons,
      version]
    simp
  have source :
      slice (ipBuffer ++ back) 12 4 = header.sourceIP.address := by
    rw [slice_append_left (by omega), layout.source]
  have destination :
      slice (ipBuffer ++ back) 16 4 = header.destinationIP.address := by
    rw [slice_append_left (by omega), layout.destination]
  generalize stream_eq : ByteBuffer.wrap (ipBuffer ++ back) = stream
  have array_eq : stream.array = ipBuffer ++ back := by
    rw [← stream_eq]
    rfl
  have position_eq : stream.position = 0 := by
    rw [← stream_eq]
    rfl
  have remaining_eq :
      stream.remaining =
        header.internetHeaderLength * 4 + back.length := by
    rw [← stream_eq, ByteBuffer.remaining_wrap, List.length_append,
      length_eq]
  have unread_eq : stream.unread = ipBuffer ++ back := by
    rw [← stream_eq, ByteBuffer.unread_wrap]
  rw [← array_eq] at first source destination
  have four : signed8 (bigEndian (slice stream.array 0 1)) / 16 = 4 := by
    rw [first]
    rw [signed8]
    omega
  obtain ⟨parsed, after, run⟩ :=
    @IPv4Header.ofStream_accepts stream
      (by rw [position_eq]; exact four)
      (by rw [position_eq, first]; omega)
      (by rw [position_eq, first, remaining_eq]; omega)
  obtain ⟨-, words, -, sourceRead, destinationRead, -, rest⟩ :=
    IPv4Header.ofStream_fields run
  rw [position_eq] at words sourceRead destinationRead
  have words_eq :
      parsed.internetHeaderLength = header.internetHeaderLength := by
    rw [words, first]
    omega
  refine ⟨parsed, after, ?_, ?_, ?_, words_eq, ?_⟩
  · rw [createIPHeader_eq position_eq (by omega), if_pos four]
    exact Reading.map_of_eq_ok run
  · rw [sourceRead, source]
  · rw [destinationRead, destination]
  · rw [rest, ByteBuffer.unread_advance, unread_eq, words_eq]
    exact List.drop_left' (by omega)

namespace TCPPacketFactory

/-- Writing over the checksum changes the header's checksum. -/
theorem overwrite_checksum (tcpheader : TCPHeader) (data : List UInt8)
    (checksum : Int) :
    PacketUtil.overwrite (segmentBytes tcpheader data) 16
        (toBigEndian 2 checksum) =
      segmentBytes { tcpheader with checksum } data := by
  generalize front_eq :
    toBigEndian 2 tcpheader.sourcePort ++
        toBigEndian 2 tcpheader.destinationPort ++
        toBigEndian 4 tcpheader.sequenceNumber ++
        toBigEndian 4 tcpheader.ackNumber ++
        [byteOf (tcpheader.dataOffset * 16) |||
            (if tcpheader.isNS then 1 else 0),
          tcpheader.tcpFlags] ++
        toBigEndian 2 tcpheader.windowSize = front
  have front_length : front.length = 16 := by
    rw [← front_eq]
    simp
  generalize back_eq :
    toBigEndian 2 tcpheader.urgentPointer ++
      (List.replicate (tcpheader.getTCPHeaderLength - 20) 0 ++ data) = back
  have split (value : Int) :
      segmentBytes { tcpheader with checksum := value } data =
        front ++ (toBigEndian 2 value ++ back) := by
    rw [← front_eq, ← back_eq]
    rw [segmentBytes, fixedFields]
    simp only [List.append_assoc]
    rfl
  have own : segmentBytes tcpheader data = _ := split tcpheader.checksum
  have same :
      (toBigEndian 2 checksum).length =
        (toBigEndian 2 tcpheader.checksum).length := by
    rw [length_toBigEndian, length_toBigEndian]
  have inner :
      PacketUtil.overwrite (toBigEndian 2 tcpheader.checksum ++ back) 0
          (toBigEndian 2 checksum) =
        toBigEndian 2 checksum ++ back := by
    rw [PacketUtil.overwrite_append_left (by omega),
      PacketUtil.overwrite_whole same]
  have written :=
    PacketUtil.overwrite_append_right front
      (toBigEndian 2 tcpheader.checksum ++ back) (toBigEndian 2 checksum) 0
  rw [inner, front_length] at written
  rw [split checksum, own]
  exact written

/-- The header a receiver reads from the serialised fields. -/
def wireHeader (tcpheader : TCPHeader) : TCPHeader :=
  TCPHeader.create (tcpheader.sourcePort % 65536)
    (tcpheader.destinationPort % 65536)
    (signed32 tcpheader.sequenceNumber) (signed32 tcpheader.ackNumber)
    tcpheader.dataOffset tcpheader.isNS tcpheader.tcpFlags
    (signed16 tcpheader.windowSize) (signed16 tcpheader.checksum)
    (signed16 tcpheader.urgentPointer)

/-- Zero bytes are options of one byte each that set nothing. -/
private theorem handleTcpOptions_zeros {optionsSize : Int}
    {header : TCPHeader}
    {count : Nat} :
    ∀ {rounds : Nat} {index : Int} {stream : ByteBuffer},
      slice stream.unread 0 count = List.replicate count 0 →
        optionsSize = index + count → count ≤ rounds →
          count ≤ stream.remaining →
            handleTcpOptions optionsSize rounds index header stream =
              .ok (header, stream.advance count) := by
  induction count with
  | zero =>
      intro rounds index stream _ ends _ _
      have ended : ¬ index < optionsSize := by omega
      rw [ByteBuffer.advance_zero]
      cases rounds with
      | zero =>
          rw [handleTcpOptions]
          rw [if_neg ended]
          rfl
      | succ rounds =>
          rw [handleTcpOptions]
          rw [if_neg ended]
          rfl
  | succ count inductionHypothesis =>
      intro rounds index stream zeros ends enough fits
      obtain ⟨rounds, rfl⟩ : ∃ fewer, rounds = fewer + 1 :=
        ⟨rounds - 1, by omega⟩
      rw [Nat.add_comm count 1, slice_add, List.replicate_add] at zeros
      obtain ⟨firstZero, restZero⟩ :=
        List.append_inj zeros (by
          rw [List.length_replicate, length_slice_of_le]
          rw [ByteBuffer.length_unread]
          omega)
      rw [ByteBuffer.slice_unread (by omega), Nat.add_zero] at firstZero
      have read :=
        Reading.getByte_eq_ok.mpr
          ⟨(by omega : 1 ≤ stream.remaining), rfl, rfl⟩
      rw [firstZero] at read
      have restUnread :
          slice (stream.advance 1).unread 0 count =
            List.replicate count 0 := by
        rw [← restZero, ByteBuffer.unread_advance]
        rfl
      have later :=
        @inductionHypothesis rounds (index + 1) (stream.advance 1)
          restUnread (by omega) (by omega)
          (by rw [ByteBuffer.remaining_advance]; omega)
      rw [ByteBuffer.advance_advance] at later
      have kind : signed8 (bigEndian (List.replicate 1 0)) = 0 := rfl
      rw [handleTcpOptions]
      rw [if_pos (by omega), Reading.bind_of_eq_ok read,
        if_pos (Or.inl kind), later, Nat.add_comm]

/-- Behind twenty bytes the fixed fields are read.  The room for the options
is compared with what follows the first thirteen of them. -/
theorem createTCPHeader_of_twenty {stream : ByteBuffer}
    (enough : 20 ≤ stream.remaining) :
    createTCPHeader stream =
      if stream.remaining < 13 + ((fixedHeader stream).dataOffset - 5) * 4
      then
        .error
          (.packetHeader
            ("invalid array size for TCP header from " ++
              "given starting position"))
      else if 5 < (fixedHeader stream).dataOffset then
        handleTcpOptions ((fixedHeader stream).dataOffset * 4 - 20)
          (stream.remaining - 20) 0 (fixedHeader stream) (stream.advance 20)
      else
        .ok (fixedHeader stream, stream.advance 20) := by
  have short (offset : Nat) (fits : offset + 2 ≤ 20) :=
    @Reading.getShort_advance stream offset (by omega)
  have int (offset : Nat) (fits : offset + 4 ≤ 20) :=
    @Reading.getInt_advance stream offset (by omega)
  have byte (offset : Nat) (fits : offset + 1 ≤ 20) :=
    @Reading.getByte_advance stream offset (by omega)
  have first := short 0 (by decide)
  rw [ByteBuffer.advance_zero] at first
  rw [createTCPHeader]
  rw [Reading.get_bind, if_neg (by omega), Reading.bind_of_eq_ok first,
    Reading.bind_of_eq_ok (short 2 (by decide)),
    Reading.bind_of_eq_ok (int 4 (by decide)),
    Reading.bind_of_eq_ok (int 8 (by decide)),
    Reading.bind_of_eq_ok (byte 12 (by decide)), Reading.get_bind]
  have words :
      (fixedHeader stream).dataOffset =
        (signed8
            (bigEndian (slice stream.array (stream.position + 12) 1)) %
              256 / 16).toNat :=
    rfl
  dsimp only
  rw [← words, ByteBuffer.remaining_advance]
  by_cases refused :
      stream.remaining < 13 + ((fixedHeader stream).dataOffset - 5) * 4
  · rw [if_pos refused, if_pos (by omega)]
    rfl
  · rw [if_neg refused, if_neg (by omega),
      Reading.bind_of_eq_ok (byte 13 (by decide)),
      Reading.bind_of_eq_ok (short 14 (by decide)),
      Reading.bind_of_eq_ok (short 16 (by decide)),
      Reading.bind_of_eq_ok (short 18 (by decide)),
      signed16_bigEndian_mod, signed16_bigEndian_mod]
    split
    · rw [Reading.get_bind, ByteBuffer.remaining_advance]
      rfl
    · rfl

/-- Where there is room for the header and its options, the options are
what is left. -/
private theorem createTCPHeader_eq {stream : ByteBuffer}
    (room :
      20 + ((fixedHeader stream).dataOffset - 5) * 4 ≤ stream.remaining) :
    createTCPHeader stream =
      if 5 < (fixedHeader stream).dataOffset then
        handleTcpOptions ((fixedHeader stream).dataOffset * 4 - 20)
          (stream.remaining - 20) 0 (fixedHeader stream) (stream.advance 20)
      else
        .ok (fixedHeader stream, stream.advance 20) := by
  rw [createTCPHeader_of_twenty (by omega), if_neg (by omega)]

theorem bigEndian_port (port : Nat) :
    bigEndian (toBigEndian 2 port) = port % 65536 := by
  have read := bigEndian_toBigEndian 2 port
  omega

theorem signed16_field (value : Int) :
    signed16 (bigEndian (toBigEndian 2 value)) = signed16 value := by
  rw [bigEndian_toBigEndian]
  unfold signed16
  omega

private theorem signed32_field (value : Int) :
    signed32 (bigEndian (toBigEndian 4 value)) = signed32 value := by
  rw [bigEndian_toBigEndian]
  unfold signed32
  omega

theorem byteOf_signed8 (byte : UInt8) :
    byteOf (signed8 (bigEndian [byte])) = byte := by
  have small := byte.toNat_lt
  have residue : (signed8 (bigEndian [byte]) % 256).toNat = byte.toNat := by
    rw [bigEndian_cons, bigEndian_nil, List.length_nil, pow_zero]
    rw [signed8]
    omega
  rw [byteOf]
  rw [residue, UInt8.ofNat_toNat]

/-- The offset byte holds the data offset and the NS bit. -/
private theorem offsetByte_fields {dataOffset : Nat} (short : dataOffset ≤ 15)
    (isNS : Bool) :
    let byte := byteOf (dataOffset * 16) ||| (if isNS then 1 else 0)
    (signed8 (bigEndian [byte]) % 256 / 16).toNat = dataOffset ∧
      bitSet (signed8 (bigEndian [byte])) 0 = isNS := by
  interval_cases dataOffset <;> cases isNS <;> decide

private theorem fixedHeader_segmentBytes {stream : ByteBuffer}
    {tcpheader : TCPHeader} {data : List UInt8}
    (complete : tcpheader.Complete)
    (unread : stream.unread = segmentBytes tcpheader data) :
    fixedHeader stream = wireHeader tcpheader := by
  have enough : 20 ≤ stream.remaining := by
    rw [← ByteBuffer.length_unread, unread, length_segmentBytes complete]
    exact complete.twenty_le.trans (Nat.le_add_right _ _)
  have field (offset count : Nat) (within : offset + count ≤ 20) :
      slice stream.array (stream.position + offset) count =
        slice (fixedFields tcpheader) offset count := by
    have fixed := length_fixedFields tcpheader
    rw [← ByteBuffer.slice_unread (by omega), unread, segmentBytes,
      List.append_assoc, slice_append_left (by omega)]
  have sourcePort :
      slice (fixedFields tcpheader) 0 2 =
        toBigEndian 2 tcpheader.sourcePort :=
    rfl
  have destinationPort :
      slice (fixedFields tcpheader) 2 2 =
        toBigEndian 2 tcpheader.destinationPort :=
    rfl
  have sequenceNumber :
      slice (fixedFields tcpheader) 4 4 =
        toBigEndian 4 tcpheader.sequenceNumber :=
    rfl
  have ackNumber :
      slice (fixedFields tcpheader) 8 4 =
        toBigEndian 4 tcpheader.ackNumber :=
    rfl
  have offsetByte :
      slice (fixedFields tcpheader) 12 1 =
        [byteOf (tcpheader.dataOffset * 16) |||
          (if tcpheader.isNS then 1 else 0)] :=
    rfl
  have flags :
      slice (fixedFields tcpheader) 13 1 = [tcpheader.tcpFlags] :=
    rfl
  have windowSize :
      slice (fixedFields tcpheader) 14 2 =
        toBigEndian 2 tcpheader.windowSize :=
    rfl
  have checksum :
      slice (fixedFields tcpheader) 16 2 =
        toBigEndian 2 tcpheader.checksum :=
    rfl
  have urgentPointer :
      slice (fixedFields tcpheader) 18 2 =
        toBigEndian 2 tcpheader.urgentPointer :=
    rfl
  obtain ⟨words, ns⟩ := offsetByte_fields complete.short tcpheader.isNS
  rw [fixedHeader, wireHeader]
  dsimp only
  rw [field 0 2 (by decide), field 2 2 (by decide),
    field 4 4 (by decide), field 8 4 (by decide),
    field 12 1 (by decide), field 13 1 (by decide),
    field 14 2 (by decide), field 16 2 (by decide),
    field 18 2 (by decide), sourcePort, destinationPort,
    sequenceNumber, ackNumber, offsetByte, flags, windowSize, checksum,
    urgentPointer, bigEndian_port, bigEndian_port, signed32_field,
    signed32_field, words, ns, byteOf_signed8, signed16_field,
    signed16_field, signed16_field]

/-- A segment is parsed to the values of its header's fields, and the
buffer is left at the payload. -/
theorem createTCPHeader_segmentBytes {stream : ByteBuffer}
    {tcpheader : TCPHeader} {data : List UInt8}
    (complete : tcpheader.Complete)
    (unread : stream.unread = segmentBytes tcpheader data) :
    ∃ after,
      createTCPHeader stream = .ok (wireHeader tcpheader, after) ∧
        after.unread = data := by
  have long := complete.long
  have header_eq := fixedHeader_segmentBytes complete unread
  have words :
      (wireHeader tcpheader).dataOffset = tcpheader.dataOffset :=
    rfl
  have length_eq : tcpheader.getTCPHeaderLength = tcpheader.dataOffset * 4 :=
    rfl
  have remaining_eq :
      stream.remaining = tcpheader.dataOffset * 4 + data.length := by
    rw [← ByteBuffer.length_unread, unread, length_segmentBytes complete,
      length_eq]
  have rest_eq :
      stream.unread.drop 20 =
        List.replicate (tcpheader.getTCPHeaderLength - 20) 0 ++ data := by
    rw [unread, segmentBytes, List.append_assoc]
    exact List.drop_left' (length_fixedFields tcpheader)
  have parsed :=
    @createTCPHeader_eq stream (by rw [header_eq, words]; omega)
  rw [header_eq, words] at parsed
  by_cases options : 5 < tcpheader.dataOffset
  · have zeros :
        slice (stream.advance 20).unread 0
            (tcpheader.getTCPHeaderLength - 20) =
          List.replicate (tcpheader.getTCPHeaderLength - 20) 0 := by
      rw [ByteBuffer.unread_advance, rest_eq, slice_append_left,
        slice_all (List.length_replicate ..)]
      rw [List.length_replicate]
      omega
    have skipped :=
      @handleTcpOptions_zeros (tcpheader.dataOffset * 4 - 20)
        (wireHeader tcpheader) _ (stream.remaining - 20) 0
        (stream.advance 20) zeros (by omega) (by omega)
        (by rw [ByteBuffer.remaining_advance]; omega)
    rw [if_pos options, skipped] at parsed
    refine ⟨_, parsed, ?_⟩
    rw [ByteBuffer.unread_advance, ByteBuffer.unread_advance, rest_eq]
    exact List.drop_left' (List.length_replicate ..)
  · rw [if_neg options] at parsed
    refine ⟨_, parsed, ?_⟩
    have none : tcpheader.getTCPHeaderLength - 20 = 0 := by omega
    rw [ByteBuffer.unread_advance, rest_eq, none]
    rfl

end TCPPacketFactory

end LanShield.Transport
