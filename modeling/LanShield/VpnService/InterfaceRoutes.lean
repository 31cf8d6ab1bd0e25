import LanShield.Library.BitPrefix
import LanShield.VpnService.IPHeader
import Mathlib.Data.Finset.Dedup

/-!
# The routes of the tunnel

The static routes of `VPNService` and the prefixes `InterfaceRoutes.kt` adds
for the addresses of the device's interfaces.
-/

namespace LanShield.VpnService

open LanShield.Library LanShield.Java

namespace InetAddress

/-- `getAddress`. -/
def getAddress : InetAddress → List UInt8
  | .v4 address => address
  | .v6 address => address

def isInet4 : InetAddress → Bool
  | .v4 _ => true
  | .v6 _ => false

/-- The address has the bytes of its family. -/
def HasWidth : InetAddress → Prop
  | .v4 address => address.length = 4
  | .v6 address => address.length = 16

instance : DecidablePred HasWidth
  | .v4 address => inferInstanceAs (Decidable (address.length = 4))
  | .v6 address => inferInstanceAs (Decidable (address.length = 16))

/-- The first twelve bytes of an IPv4-mapped address. -/
def mappedPrefix : List UInt8 :=
  List.replicate 10 0 ++ [255, 255]

/-- The bytes of an IPv4-mapped IPv6 address, which the platform never
returns as an `Inet6Address`. -/
def Mapped (bytes : List UInt8) : Prop :=
  bytes.take 12 = mappedPrefix

instance (bytes : List UInt8) : Decidable (Mapped bytes) :=
  inferInstanceAs (Decidable (_ = _))

def byteAt (address : InetAddress) (index : Nat) : UInt8 :=
  address.getAddress.getD index 0

def isAnyLocalAddress (address : InetAddress) : Bool :=
  address.getAddress.all (· = 0)

def isLoopbackAddress : InetAddress → Bool
  | .v4 address => address.getD 0 0 = 127
  | .v6 address => address = List.replicate 15 0 ++ [1]

def isLinkLocalAddress : InetAddress → Bool
  | .v4 address => address.getD 0 0 = 169 ∧ address.getD 1 0 = 254
  | .v6 address => address.getD 0 0 = 0xFE ∧ address.getD 1 0 &&& 0xC0 = 0x80

def isSiteLocalAddress : InetAddress → Bool
  | .v4 address =>
      address.getD 0 0 = 10 ∨
        address.getD 0 0 = 172 ∧ address.getD 1 0 &&& 0xF0 = 16 ∨
          address.getD 0 0 = 192 ∧ address.getD 1 0 = 168
  | .v6 address => address.getD 0 0 = 0xFE ∧ address.getD 1 0 &&& 0xC0 = 0xC0

def isMulticastAddress : InetAddress → Bool
  | .v4 address => address.getD 0 0 &&& 0xF0 = 0xE0
  | .v6 address => address.getD 0 0 = 0xFF

end InetAddress

structure RoutePrefix where
  address : InetAddress
  prefixLength : Int
  deriving DecidableEq, Repr

/-- The bytes `networkAddress` computes: the host bits are zeroed. -/
def networkBytes (bytes : List UInt8) (prefixLength : Int) : List UInt8 :=
  let fullBytes := prefixLength.tdiv 8
  let remainingBits := prefixLength.tmod 8
  bytes.mapIdx fun i byte =>
    if (i : Int) < fullBytes then
      byte
    else if (i : Int) = fullBytes ∧ remainingBits ≠ 0 then
      UInt8.ofNat (byte.toNat &&& (255 <<< (8 - remainingBits).toNat))
    else
      0

/-- `networkAddress`. -/
def networkAddress (address : InetAddress) (prefixLength : Int) :
    Except JavaException InetAddress :=
  InetAddress.getByAddress (networkBytes address.getAddress prefixLength)

/-- `isUniqueLocal`. -/
def isUniqueLocal (address : InetAddress) : Bool :=
  address.getAddress.length = 16 ∧ address.byteAt 0 &&& 0xFE = 0xFC

/-- An address of an interface and its prefix length. -/
structure InterfaceAddress where
  address : InetAddress
  prefixLength : Int
  hasWidth : address.HasWidth
  notMapped : ¬ InetAddress.Mapped address.getAddress

/-- The interfaces `interfaceRoutePrefixes` filters out. -/
def InterfaceAddress.isFiltered (entry : InterfaceAddress) : Bool :=
  entry.prefixLength ≤ 0 ||
    entry.address.isAnyLocalAddress ||
    entry.address.isLoopbackAddress ||
    entry.address.isLinkLocalAddress ||
    entry.address.isSiteLocalAddress ||
    entry.address.isMulticastAddress ||
    isUniqueLocal entry.address

/-- The route for an interface that is not filtered out. -/
def InterfaceAddress.route (entry : InterfaceAddress) :
    Except JavaException RoutePrefix := do
  let address ← networkAddress entry.address entry.prefixLength
  return ⟨address, entry.prefixLength⟩

/-- `interfaceRoutePrefixes`. -/
def interfaceRoutePrefixes (addresses : List InterfaceAddress) :
    Except JavaException (Finset RoutePrefix) := do
  let routes ←
    (addresses.filter fun entry => !entry.isFiltered).mapM
      InterfaceAddress.route
  return routes.toFinset

def ipv4 (a b c d : UInt8) : InetAddress :=
  .v4 [a, b, c, d]

/-- The address whose text is these groups and `::`. -/
def ipv6 (groups : List UInt16) : InetAddress :=
  .v6
    (groups.flatMap (fun group : UInt16 =>
        [(group >>> 8).toUInt8, group.toUInt8]) ++
      List.replicate (16 - 2 * groups.length) 0)

/-- `addIpv4Routes`. -/
def addIpv4Routes : List RoutePrefix :=
  [⟨ipv4 10 0 0 0, 8⟩,
    ⟨ipv4 172 16 0 0, 12⟩,
    ⟨ipv4 192 168 0 0, 16⟩,
    ⟨ipv4 0 0 0 0, 8⟩,
    ⟨ipv4 169 254 0 0, 16⟩,
    ⟨ipv4 192 0 0 0, 24⟩,
    ⟨ipv4 192 0 2 0, 24⟩,
    ⟨ipv4 192 88 99 0, 24⟩,
    ⟨ipv4 198 18 0 0, 15⟩,
    ⟨ipv4 198 51 100 0, 24⟩,
    ⟨ipv4 203 0 113 0, 24⟩,
    ⟨ipv4 224 0 0 0, 4⟩,
    ⟨ipv4 255 255 255 255, 32⟩,
    ⟨ipv4 100 64 0 0, 10⟩,
    ⟨ipv4 240 0 0 0, 4⟩]

/-- `addIpv6Routes`. -/
def addIpv6Routes : List RoutePrefix :=
  [⟨ipv6 [0x100], 64⟩,
    ⟨ipv6 [0x2001, 0x2], 32⟩,
    ⟨ipv6 [0x2001, 0xdb8], 32⟩,
    ⟨ipv6 [0x5f00], 16⟩,
    ⟨ipv6 [0xfc00], 7⟩,
    ⟨ipv6 [0xfe80], 10⟩,
    ⟨ipv6 [0xfec0], 10⟩,
    ⟨ipv6 [0xff00], 8⟩]

/-- The addresses of the same family under the route's leading bits. -/
def RoutePrefix.Contains (route : RoutePrefix) (ip : InetAddress) : Prop :=
  route.address.isInet4 = ip.isInet4 ∧
    AgreeOn route.prefixLength.toNat route.address.getAddress ip.getAddress

instance (route : RoutePrefix) : DecidablePred route.Contains :=
  fun _ => inferInstanceAs (Decidable (_ ∧ _))

end LanShield.VpnService
