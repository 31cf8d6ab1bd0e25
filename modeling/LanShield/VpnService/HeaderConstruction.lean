import LanShield.Library.Throwing
import LanShield.VpnService.PacketLengths

/-!
# The construction of the firewall's header

The constructor of `IPHeader` with the object it fills: a `lateinit`
property is unset until it is assigned.
-/

namespace LanShield.VpnService

open LanShield.Library LanShield.Java

/-- The constructor `InetSocketAddress(InetAddress, int)`. -/
def InetSocketAddress.create (address : InetAddress) (port : Nat) :
    Except JavaException InetSocketAddress :=
  if 65535 < port then
    .error (.illegalArgument ("port out of range:" ++ toString port))
  else
    .ok ⟨address, port⟩

/-- An `IPHeader` under construction, and the buffer it is read from. -/
structure Construction where
  rawPacket : ByteBuffer
  source : Option InetSocketAddress
  destination : Option InetSocketAddress
  protocol : Nat
  ipVersion : Option Int
  size : Int
  canDoDpi : Bool
  deriving DecidableEq

/-- An action of the constructor. -/
abbrev Constructing :=
  Action Construction JavaException

namespace Construction

/-- The object before its `init` block. -/
def unset (packetBuffer : ByteBuffer) : Construction where
  rawPacket := packetBuffer
  source := none
  destination := none
  protocol := 0
  ipVersion := none
  size := 0
  canDoDpi := false

/-- What is read from the buffer while the object is filled. -/
def reading {α : Type} (action : Reading α) : Constructing α :=
  fun object =>
    (action object.rawPacket).map fun outcome =>
      (outcome.1, { object with rawPacket := outcome.2 })

def socketAddress (address : InetAddress) (port : Nat) :
    Constructing InetSocketAddress := fun object =>
  (InetSocketAddress.create address port).map fun value => (value, object)

/-- `parseIPHeader`. -/
def parseIPHeader
    (addressSize sourceOffset protocolOffset sourcePortOffset : Nat)
    (version : Nat) : Constructing Unit := do
  reading (Reading.setPosition protocolOffset)
  let protocolByte ← reading Reading.getByte
  modify fun object =>
    { object with protocol := (protocolByte % 256).toNat }
  reading (Reading.setPosition sourceOffset)
  let sourceIp ← reading (IPHeader.parseInetAddress addressSize)
  let destinationIp ← reading (IPHeader.parseInetAddress addressSize)
  let length ←
    reading
      (Reading.absolute (·.getShortAt (if version = 4 then 2 else 4)))
  modify fun object =>
    { object with
      size := if version = 4 then length else length % 65536 + 40 }
  let object ← get
  let ports ← reading (IPHeader.parsePorts object.protocol sourcePortOffset)
  let source ← socketAddress sourceIp ports.1
  modify fun object => { object with source := some source }
  let destination ← socketAddress destinationIp ports.2
  modify fun object => { object with destination := some destination }
  let object ← get
  let canDoDpi ←
    reading (IPHeader.parseCanDoDpi object.protocol version object.size)
  modify fun object => { object with canDoDpi }

/-- The `init` block. -/
def init : Constructing Unit := do
  let object ← get
  if object.rawPacket.limit < 24 then
    reading (Reading.throw (.illegalArgument "Failed requirement."))
  else
    let first ← reading (Reading.absolute (·.getAt 0))
    let ipVersion : Int :=
      if first.toNat < 128 then
        first.toNat / 16
      else
        2 ^ 28 - 16 + first.toNat / 16
    modify fun object => { object with ipVersion := some ipVersion }
    if ipVersion = 4 then
      parseIPHeader 4 12 9 20 4
    else if ipVersion = 6 then
      let object ← get
      if object.rawPacket.limit < 44 then
        reading (Reading.throw (.illegalArgument "Failed requirement."))
      else
        parseIPHeader 16 8 6 40 6
    else
      reading
        (Reading.throw
          (.illegalArgument
            ("Invalid IP version: " ++ toString ipVersion)))

/-- The object holds the values of a header. -/
structure Filled (object : Construction) (header : IPHeader) : Prop where
  source : object.source = some header.source
  destination : object.destination = some header.destination
  protocol : object.protocol = header.protocol
  ipVersion : object.ipVersion = some (header.ipVersion : Int)
  size : object.size = header.size
  canDoDpi : object.canDoDpi = header.canDoDpi

section Mirrors

variable {α : Type} {object : Construction} {image : ByteBuffer}
  {β γ : Type} {action : Reading α} {next : α → Constructing β}
  {mirror : α → Reading γ}
  {related : β → Construction → γ → ByteBuffer → Prop}

private theorem reading_of_eq_ok {value : α} {after : ByteBuffer}
    (returned : action object.rawPacket = .ok (value, after)) :
    reading action object =
      .ok (value, { object with rawPacket := after }) := by
  rw [reading, returned]
  rfl

private theorem reading_of_eq_error {failure : JavaException}
    (thrown : action object.rawPacket = .error failure) :
    reading action object = .error failure := by
  rw [reading, thrown]
  rfl

private theorem mirrors_reading_bind
    (right :
      ∀ value after, action object.rawPacket = .ok (value, after) →
        Action.Mirrors related (next value) (mirror value)
          { object with rawPacket := after } after) :
    Action.Mirrors related (reading action >>= next) (action >>= mirror)
      object object.rawPacket := by
  rcases ended : action object.rawPacket with failure | ⟨value, after⟩
  · exact
      Action.mirrors_of_error
        (Action.bind_of_error (reading_of_eq_error ended))
        (Action.bind_of_error ended)
  · rw [Action.Mirrors, Action.bind_of_ok (reading_of_eq_ok ended),
      Action.bind_of_ok ended]
    exact right value after ended

private theorem mirrors_reading_throw {failure : JavaException}
    {related : Unit → Construction → γ → ByteBuffer → Prop} :
    Action.Mirrors related (reading (Reading.throw failure))
      (Reading.throw failure) object image :=
  Action.mirrors_of_error (reading_of_eq_error rfl) rfl

end Mirrors

private theorem parsePorts_small
    {protocol portsOffset : Nat} {buffer after : ByteBuffer}
    {ports : Nat × Nat}
    (parsed :
      IPHeader.parsePorts protocol portsOffset buffer = .ok (ports, after)) :
    ports.1 ≤ 65535 ∧ ports.2 ≤ 65535 := by
  rw [IPHeader.parsePorts] at parsed
  split at parsed
  · rw [Reading.bind_eq_ok] at parsed
    obtain ⟨_, _, -, parsed⟩ := parsed
    rw [Reading.bind_eq_ok] at parsed
    obtain ⟨sourcePort, _, -, parsed⟩ := parsed
    rw [Reading.bind_eq_ok] at parsed
    obtain ⟨destinationPort, _, -, parsed⟩ := parsed
    obtain ⟨rfl, -⟩ := Reading.pure_eq_ok.mp parsed
    constructor
    · dsimp only
      omega
    · dsimp only
      omega
  · obtain ⟨rfl, -⟩ := Reading.pure_eq_ok.mp parsed
    exact ⟨Nat.zero_le _, Nat.zero_le _⟩

private theorem socketAddress_small {address : InetAddress} {port : Nat}
    (small : port ≤ 65535) (object : Construction) :
    socketAddress address port object = .ok (⟨address, port⟩, object) := by
  rw [socketAddress, InetSocketAddress.create,
    if_neg (Nat.not_lt.mpr small)]
  rfl

/-- The values end up in the object whatever it held before. -/
private theorem parseIPHeader_mirrors
    (addressSize sourceOffset protocolOffset sourcePortOffset : Nat)
    {version : Nat} {object : Construction}
    (named : object.ipVersion = some (version : Int)) :
    Action.Mirrors
      (fun _ built header after =>
        Filled built header ∧ built.rawPacket = after)
      (parseIPHeader addressSize sourceOffset protocolOffset
        sourcePortOffset version)
      (IPHeader.parseIPHeader addressSize sourceOffset protocolOffset
        sourcePortOffset version)
      object object.rawPacket := by
  rw [parseIPHeader, IPHeader.parseIPHeader]
  apply mirrors_reading_bind
  intro _ atProtocol _
  apply mirrors_reading_bind
  intro protocolByte afterProtocol _
  apply Action.mirrors_modify_bind
  apply mirrors_reading_bind
  intro _ atSource _
  apply mirrors_reading_bind
  intro sourceIp afterSource _
  apply mirrors_reading_bind
  intro destinationIp afterDestination _
  apply mirrors_reading_bind
  intro length afterLength _
  apply Action.mirrors_modify_bind
  apply Action.mirrors_get_bind
  apply mirrors_reading_bind
  intro ports afterPorts readPorts
  have small := parsePorts_small readPorts
  have sourceSmall := small.1
  have destinationSmall := small.2
  rw [Action.Mirrors, Action.bind_of_ok (socketAddress_small sourceSmall _)]
  apply Action.mirrors_modify_bind
  rw [Action.Mirrors,
    Action.bind_of_ok (socketAddress_small destinationSmall _)]
  apply Action.mirrors_modify_bind
  apply Action.mirrors_get_bind
  apply mirrors_reading_bind
  intro canDoDpi afterDpi _
  exact ⟨⟨rfl, rfl, rfl, named, rfl, rfl⟩, rfl⟩

/-- The constructor fills the object with the header `ofPacket` returns,
or throws what it throws. -/
private theorem init_mirrors (packetBuffer : ByteBuffer) :
    Action.Mirrors
      (fun _ built header after =>
        Filled built header ∧ built.rawPacket = after)
      init IPHeader.ofPacket (unset packetBuffer) packetBuffer := by
  rw [init, IPHeader.ofPacket]
  apply Action.mirrors_get_bind
  apply Action.mirrors_get_bind_right
  apply Action.Mirrors.ite
  · exact mirrors_reading_throw
  · apply mirrors_reading_bind
    intro first _ readFirst
    have byte_lt := first.toNat_lt
    obtain ⟨-, rfl⟩ := Reading.absolute_eq_ok.mp readFirst
    apply Action.mirrors_modify_bind
    by_cases four : first.toNat / 16 = 4
    · have signed : first.toNat < 128 := by omega
      rw [if_pos four, if_pos signed, if_pos (by omega)]
      apply parseIPHeader_mirrors
      exact congrArg some (by omega)
    · rw [if_neg four, if_neg (by split <;> omega)]
      by_cases six : first.toNat / 16 = 6
      · have signed : first.toNat < 128 := by omega
        rw [if_pos six, if_pos signed, if_pos (by omega)]
        apply Action.mirrors_get_bind
        apply Action.Mirrors.ite
        · exact mirrors_reading_throw
        · apply parseIPHeader_mirrors
          exact congrArg some (by omega)
      · rw [if_neg six, if_neg (by split <;> omega)]
        exact mirrors_reading_throw

end Construction

def IllegalArgument (failure : JavaException) : Prop :=
  ∃ message, failure = .illegalArgument message

namespace IPHeader

private theorem payloadBehind_safe (size : Int) (headerLength : Nat)
    (buffer : ByteBuffer) :
    Action.Completes (fun _ _ => True) IllegalArgument
      (payloadBehind size headerLength) buffer := by
  rw [payloadBehind]
  apply Action.completes_get_bind
  by_cases short : buffer.limit < headerLength + 13
  · rw [if_pos short]
    exact Action.completes_of_error rfl ⟨_, rfl⟩
  · rw [if_neg short]
    have inside : headerLength + 12 < buffer.limit := by omega
    obtain ⟨byte, read⟩ := ByteBuffer.getAt_of_lt inside
    exact
      Action.completes_bind_of_ok
        (Reading.absolute_eq_ok.mpr ⟨read, rfl⟩)
        (Action.completes_pure trivial)

private theorem parseCanDoDpi_safe (protocol version : Nat) (size : Int)
    {buffer : ByteBuffer} (some_bytes : 0 < buffer.limit) :
    Action.Completes (fun _ _ => True) IllegalArgument
      (parseCanDoDpi protocol version size) buffer := by
  by_cases tcp : protocol = 6
  · rw [tcp, parseCanDoDpi_tcp]
    by_cases four : version = 4
    · rw [if_pos four]
      obtain ⟨first, read⟩ := ByteBuffer.getAt_of_lt some_bytes
      exact
        Action.completes_bind_of_ok
          (Reading.absolute_eq_ok.mpr ⟨read, rfl⟩)
          (payloadBehind_safe _ _ _)
    · rw [if_neg four]
      exact payloadBehind_safe _ _ _
  · rw [parseCanDoDpi, if_neg tcp]
    exact Action.completes_pure trivial

/-- The ports are inside the limit, or are not read. -/
private theorem parsePorts_safe (protocol : Nat) {portsOffset : Nat}
    {buffer : ByteBuffer} (fits : portsOffset + 4 ≤ buffer.limit) :
    Action.Completes (fun _ after => after.limit = buffer.limit)
      IllegalArgument (parsePorts protocol portsOffset) buffer := by
  rw [parsePorts]
  by_cases transport : protocol = 6 ∨ protocol = 17
  · rw [if_pos transport]
    have inside : portsOffset ≤ buffer.limit := by omega
    obtain ⟨placed, moved, position_eq, limit_eq⟩ :=
      Reading.setPosition_of_le inside
    have room : 4 ≤ placed.remaining := by
      rw [ByteBuffer.remaining]
      omega
    have enough : 2 ≤ placed.remaining := by omega
    have enoughBehind : 2 ≤ (placed.advance 2).remaining := by
      rw [ByteBuffer.remaining_advance]
      omega
    apply Action.completes_bind_of_ok moved
    apply Action.completes_bind_of_ok
      (Reading.getShort_eq_ok.mpr ⟨enough, rfl, rfl⟩)
    apply Action.completes_bind_of_ok
      (Reading.getShort_eq_ok.mpr ⟨enoughBehind, rfl, rfl⟩)
    exact Action.completes_pure limit_eq
  · rw [if_neg transport]
    exact Action.completes_pure rfl

/-- An address of four or sixteen bytes is one. -/
private theorem getByAddress_of_length {bytes : List UInt8}
    (proper : bytes.length = 4 ∨ bytes.length = 16) :
    ∃ address, InetAddress.getByAddress bytes = .ok address := by
  rw [InetAddress.getByAddress]
  rcases proper with four | sixteen
  · rw [if_pos four]
    exact ⟨_, rfl⟩
  · rw [if_neg (by omega), if_pos sixteen]
    split
    · exact ⟨_, rfl⟩
    · exact ⟨_, rfl⟩

private theorem parseInetAddress_of_le {addressSize : Nat}
    {buffer : ByteBuffer}
    (proper : addressSize = 4 ∨ addressSize = 16)
    (fits : addressSize ≤ buffer.remaining) :
    ∃ address,
      parseInetAddress addressSize buffer =
        .ok (address, buffer.advance addressSize) := by
  have length_eq :
      (slice buffer.array buffer.position addressSize).length =
        addressSize := by
    have within := buffer.position_le_limit
    have inside := buffer.limit_le_capacity
    rw [ByteBuffer.remaining] at fits
    exact length_slice_of_le (by omega)
  rw [← length_eq] at proper
  obtain ⟨address, resolved⟩ := getByAddress_of_length proper
  exact ⟨address, parseInetAddress_eq_ok.mpr ⟨fits, resolved, rfl⟩⟩

/-- Every read of `parseIPHeader` is inside a limit that holds the two
addresses and the ports. -/
private theorem parseIPHeader_safe
    {addressSize sourceOffset protocolOffset portsOffset : Nat}
    (version : Nat) {packet : ByteBuffer}
    (proper : addressSize = 4 ∨ addressSize = 16)
    (lengths : 6 ≤ packet.limit)
    (protocol : protocolOffset + 1 ≤ packet.limit)
    (addresses : sourceOffset + 2 * addressSize ≤ packet.limit)
    (ports : portsOffset + 4 ≤ packet.limit) :
    Action.Completes (fun _ _ => True) IllegalArgument
      (parseIPHeader addressSize sourceOffset protocolOffset portsOffset
        version)
      packet := by
  have protocolInside : protocolOffset ≤ packet.limit := by omega
  obtain ⟨atProtocol, moved, position_eq, limit_eq⟩ :=
    Reading.setPosition_of_le protocolInside
  have one : 1 ≤ atProtocol.remaining := by
    rw [ByteBuffer.remaining]
    omega
  have sourceInside : sourceOffset ≤ (atProtocol.advance 1).limit := by
    change sourceOffset ≤ atProtocol.limit
    omega
  obtain ⟨atSource, movedToSource, source_eq, source_limit⟩ :=
    Reading.setPosition_of_le sourceInside
  have atSource_limit : atSource.limit = packet.limit :=
    source_limit.trans limit_eq
  have bothAddresses : 2 * addressSize ≤ atSource.remaining := by
    rw [ByteBuffer.remaining]
    omega
  have sourceFits : addressSize ≤ atSource.remaining := by omega
  have destinationFits :
      addressSize ≤ (atSource.advance addressSize).remaining := by
    rw [ByteBuffer.remaining_advance]
    omega
  obtain ⟨sourceIp, readSource⟩ :=
    parseInetAddress_of_le proper sourceFits
  obtain ⟨destinationIp, readDestination⟩ :=
    parseInetAddress_of_le proper destinationFits
  let placed := (atSource.advance addressSize).advance addressSize
  have placed_limit : placed.limit = packet.limit := atSource_limit
  have lengthInside :
      (if version = 4 then 2 else 4) + 2 ≤ placed.limit := by
    split <;> omega
  obtain ⟨length, readLength⟩ := ByteBuffer.getShortAt_of_le lengthInside
  rw [parseIPHeader]
  apply Action.completes_bind_of_ok moved
  apply Action.completes_bind_of_ok
    (Reading.getByte_eq_ok.mpr ⟨one, rfl, rfl⟩)
  apply Action.completes_bind_of_ok movedToSource
  apply Action.completes_bind_of_ok readSource
  apply Action.completes_bind_of_ok readDestination
  apply Action.completes_bind_of_ok
    (Reading.absolute_eq_ok.mpr ⟨readLength, rfl⟩)
  have portsFit : portsOffset + 4 ≤ placed.limit := by omega
  apply (parsePorts_safe _ portsFit).bind
  intro _ afterPorts ports_limit
  have some_bytes : 0 < afterPorts.limit := by omega
  apply (parseCanDoDpi_safe _ version _ some_bytes).bind
  intro _ _ _
  exact Action.completes_pure trivial

/-- The length checks of the constructor cover every read. -/
private theorem ofPacket_safe (packet : ByteBuffer) :
    Action.Completes (fun _ _ => True) IllegalArgument ofPacket packet := by
  rw [ofPacket]
  apply Action.completes_get_bind
  by_cases short : packet.limit < 24
  · rw [if_pos short]
    exact Action.completes_of_error rfl ⟨_, rfl⟩
  · rw [if_neg short]
    have some_bytes : 0 < packet.limit := by omega
    obtain ⟨first, read⟩ := ByteBuffer.getAt_of_lt some_bytes
    apply Action.completes_bind_of_ok
      (Reading.absolute_eq_ok.mpr ⟨read, rfl⟩)
    by_cases four : first.toNat / 16 = 4
    · rw [if_pos four]
      apply parseIPHeader_safe 4 (Or.inl rfl)
      · omega
      · omega
      · omega
      · omega
    · rw [if_neg four]
      by_cases six : first.toNat / 16 = 6
      · rw [if_pos six]
        by_cases shorter : packet.limit < 44
        · rw [if_pos shorter]
          exact Action.completes_of_error rfl ⟨_, rfl⟩
        · rw [if_neg shorter]
          apply parseIPHeader_safe 6 (Or.inr rfl)
          · omega
          · omega
          · omega
          · omega
      · rw [if_neg six]
        exact Action.completes_of_error rfl ⟨_, rfl⟩

end IPHeader

namespace Construction

/-- Every property is set, the protocol and the size to what the packet
states. -/
structure Initialised (packet : ByteBuffer) (object : Construction) :
    Prop where
  source : object.source.isSome
  destination : object.destination.isSome
  protocol :
    object.protocol =
      bigEndian (slice packet.array (if version packet = 4 then 9 else 6) 1)
  size :
    object.size =
      if version packet = 4 then
        signed16 (bigEndian (slice packet.array 2 2))
      else
        bigEndian (slice packet.array 4 2) + 40

private theorem Filled.initialised
    {packet after : ByteBuffer} {object : Construction} {header : IPHeader}
    (filled : object.Filled header)
    (parsed : IPHeader.ofPacket packet = .ok (header, after)) :
    object.Initialised packet := by
  have source : object.source.isSome := by
    rw [filled.source]
    rfl
  have destination : object.destination.isSome := by
    rw [filled.destination]
    rfl
  refine ⟨source, destination, ?_, ?_⟩
  · rw [filled.protocol]
    rcases ofPacket_fields parsed with ⟨four, judged⟩ | ⟨six, judged⟩
    · rw [judged.protocol, four]
      rfl
    · rw [judged.protocol, six]
      rfl
  · rw [filled.size]
    rcases ofPacket_lengths parsed with ⟨four, lengths⟩ | ⟨six, lengths⟩
    · rw [lengths.size, four]
    · rw [lengths.size, six]

/-- On every buffer the constructor completes the object, or throws an
`IllegalArgumentException`. -/
theorem init_completes (packetBuffer : ByteBuffer) :
    (∃ object,
        init (unset packetBuffer) = .ok ((), object) ∧
          object.Initialised packetBuffer) ∨
      ∃ message,
        init (unset packetBuffer) = .error (.illegalArgument message) := by
  have mirrors := init_mirrors packetBuffer
  rcases Action.completes_iff.mp (IPHeader.ofPacket_safe packetBuffer) with
    ⟨header, after, parsed, -⟩ | ⟨failure, thrown, message, rfl⟩
  · obtain ⟨_, object, built, filled, -⟩ := mirrors.returned parsed
    exact Or.inl ⟨object, built, filled.initialised parsed⟩
  · exact Or.inr ⟨message, mirrors.thrown thrown⟩

end Construction

end LanShield.VpnService
