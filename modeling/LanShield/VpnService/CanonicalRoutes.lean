import LanShield.VpnService.RouteCoverage

/-!
# The routes of a list of interfaces

`interfaceRoutePrefixes` returns the networks of the addresses that are not
filtered out, each once: a network is fixed by its family, its prefix length
and the bits of its prefix.
-/

namespace LanShield.VpnService

open LanShield.Library LanShield.Java InetAddress

/-- All bits behind the prefix are zero. -/
def RoutePrefix.HostBitsZero (route : RoutePrefix) : Prop :=
  ∀ index, route.prefixLength.toNat ≤ index →
    bitAt route.address.getAddress index = false

/-- The route has the leading bits of the interface's address, and zeroes
behind them. -/
structure RoutePrefix.IsNetworkOf (route : RoutePrefix)
    (entry : InterfaceAddress) : Prop where
  prefixLength_eq : route.prefixLength = entry.prefixLength
  family : route.address.isInet4 = entry.address.isInet4
  hasWidth : route.address.HasWidth
  agree :
    AgreeOn entry.prefixLength.toNat route.address.getAddress
      entry.address.getAddress
  hostBitsZero : route.HostBitsZero

private theorem InetAddress.length_getAddress {address other : InetAddress}
    (width : address.HasWidth) (otherWidth : other.HasWidth)
    (family : address.isInet4 = other.isInet4) :
    address.getAddress.length = other.getAddress.length := by
  cases address with
  | v4 bytes =>
      cases other with
      | v4 otherBytes => exact width.trans otherWidth.symm
      | v6 otherBytes => exact Bool.noConfusion family
  | v6 bytes =>
      cases other with
      | v4 otherBytes => exact Bool.noConfusion family
      | v6 otherBytes => exact width.trans otherWidth.symm

private theorem InetAddress.eq_of_getAddress {address other : InetAddress}
    (family : address.isInet4 = other.isInet4)
    (same : address.getAddress = other.getAddress) : address = other := by
  cases address with
  | v4 bytes =>
      cases other with
      | v4 otherBytes => exact congrArg InetAddress.v4 same
      | v6 otherBytes => exact Bool.noConfusion family
  | v6 bytes =>
      cases other with
      | v4 otherBytes => exact Bool.noConfusion family
      | v6 otherBytes => exact congrArg InetAddress.v6 same

namespace RoutePrefix.IsNetworkOf

variable {route otherRoute : RoutePrefix} {entry other : InterfaceAddress}

theorem contains (network : route.IsNetworkOf entry) :
    route.Contains entry.address := by
  refine ⟨network.family, ?_⟩
  rw [network.prefixLength_eq]
  exact network.agree

/-- Networks of one family and prefix length are equal when the addresses
agree on the prefix. -/
private theorem eq_of_agree (network : route.IsNetworkOf entry)
    (otherNetwork : otherRoute.IsNetworkOf other)
    (family : entry.address.isInet4 = other.address.isInet4)
    (prefixLength_eq : entry.prefixLength = other.prefixLength)
    (agree :
      AgreeOn entry.prefixLength.toNat entry.address.getAddress
        other.address.getAddress) :
    route = otherRoute := by
  have routeFamily : route.address.isInet4 = otherRoute.address.isInet4 :=
    network.family.trans (family.trans otherNetwork.family.symm)
  have routeLength : route.prefixLength = otherRoute.prefixLength :=
    network.prefixLength_eq.trans
      (prefixLength_eq.trans otherNetwork.prefixLength_eq.symm)
  have bits (index : Nat) :
      bitAt route.address.getAddress index =
        bitAt otherRoute.address.getAddress index := by
    by_cases inside : index < entry.prefixLength.toNat
    · have otherInside : index < other.prefixLength.toNat := by
        rwa [← prefixLength_eq]
      exact
        (network.agree index inside).trans
          ((agree index inside).trans
            (otherNetwork.agree index otherInside).symm)
    · have behind := Nat.not_lt.mp inside
      rw [← network.prefixLength_eq] at behind
      rw [network.hostBitsZero index behind]
      rw [routeLength] at behind
      rw [otherNetwork.hostBitsZero index behind]
  have bytes :=
    eq_of_bitAt
      (length_getAddress network.hasWidth otherNetwork.hasWidth routeFamily)
      bits
  have address := InetAddress.eq_of_getAddress routeFamily bytes
  cases route
  cases otherRoute
  subst address routeLength
  rfl

/-- Addresses with a common network agree on its prefix. -/
private theorem agree_of_common (network : route.IsNetworkOf entry)
    (otherNetwork : route.IsNetworkOf other) :
    AgreeOn entry.prefixLength.toNat entry.address.getAddress
      other.address.getAddress := by
  have lengths : other.prefixLength = entry.prefixLength :=
    otherNetwork.prefixLength_eq.symm.trans network.prefixLength_eq
  have agree := otherNetwork.agree
  rw [lengths] at agree
  exact network.agree.symm.trans agree

end RoutePrefix.IsNetworkOf

private theorem masked_isNetworkOf {entry : InterfaceAddress}
    (positive : 0 ≤ entry.prefixLength) :
    RoutePrefix.IsNetworkOf
      ⟨entry.address.masked entry.prefixLength, entry.prefixLength⟩
      entry := by
  obtain ⟨address, prefixLength, hasWidth, notMapped⟩ := entry
  obtain ⟨count, rfl⟩ := Int.eq_ofNat_of_zero_le positive
  have behind (bytes : List UInt8) (index : Nat) (le : count ≤ index) :
      bitAt (networkBytes bytes count) index = false := by
    rw [bitAt_networkBytes, decide_eq_false (Nat.not_lt.mpr le),
      Bool.and_false]
  cases address with
  | v4 bytes =>
      exact
        { prefixLength_eq := rfl
          family := rfl
          hasWidth := (length_networkBytes bytes count).trans hasWidth
          agree := agreeOn_networkBytes bytes count
          hostBitsZero := behind bytes }
  | v6 bytes =>
      exact
        { prefixLength_eq := rfl
          family := rfl
          hasWidth := (length_networkBytes bytes count).trans hasWidth
          agree := agreeOn_networkBytes bytes count
          hostBitsZero := behind bytes }

private theorem positive_of_not_filtered {entry : InterfaceAddress}
    (kept : entry.isFiltered = false) : 0 < entry.prefixLength := by
  by_contra nonpositive
  have filtered : entry.isFiltered = true := by
    simp [InterfaceAddress.isFiltered, Int.not_lt.mp nonpositive]
  rw [kept] at filtered
  exact Bool.noConfusion filtered

private theorem InterfaceAddress.route_isNetworkOf {entry : InterfaceAddress}
    {route : RoutePrefix} (kept : entry.isFiltered = false)
    (computed : entry.route = .ok route) : route.IsNetworkOf entry := by
  rw [InterfaceAddress.route_eq kept] at computed
  obtain rfl := Except.ok.inj computed
  exact masked_isNetworkOf (positive_of_not_filtered kept).le

/-- A mask that is applied twice is applied once. -/
private theorem networkBytes_idempotent (bytes : List UInt8)
    (prefixLength : Int) :
    networkBytes (networkBytes bytes prefixLength) prefixLength =
      networkBytes bytes prefixLength := by
  have masked (byte : UInt8) (mask : Nat) :
      UInt8.ofNat ((UInt8.ofNat (byte.toNat &&& mask)).toNat &&& mask) =
        UInt8.ofNat (byte.toNat &&& mask) := by
    have small : byte.toNat &&& mask < 2 ^ 8 :=
      Nat.and_le_left.trans_lt byte.toNat_lt
    rw [UInt8.toNat_ofNat', Nat.mod_eq_of_lt small, Nat.and_assoc,
      Nat.and_self]
  apply List.ext_getElem (length_networkBytes _ _)
  intro index inside inside'
  simp only [networkBytes, List.getElem_mapIdx]
  split
  · rfl
  · split
    · exact masked _ _
    · rfl

/-- A prefix of whole bytes keeps them. -/
private theorem networkBytes_of_le {bytes : List UInt8} {prefixLength : Int}
    (le : (bytes.length : Int) ≤ prefixLength.tdiv 8) :
    networkBytes bytes prefixLength = bytes := by
  apply List.ext_getElem (length_networkBytes _ _)
  intro index inside inside'
  have whole : (index : Int) < prefixLength.tdiv 8 := by omega
  simp only [networkBytes, List.getElem_mapIdx, if_pos whole]

/-- Only prefixes of 96 bits and more can leave an IPv4-mapped address. -/
private theorem prefix_of_mapped {bytes : List UInt8} {prefixLength : Int}
    (width : bytes.length = 16)
    (mapped : InetAddress.Mapped (networkBytes bytes prefixLength)) :
    96 ≤ prefixLength := by
  have agree :=
    (mapped_iff_agreeOn ((length_networkBytes _ _).trans width)).mp mapped
  have last :
      bitAt (networkBytes bytes prefixLength) 95 = bitAt mappedPrefix 95 :=
    agree 95 (by decide)
  have set : bitAt mappedPrefix 95 = true := by decide
  rw [set] at last
  rcases Int.lt_or_le prefixLength 0 with negative | nonnegative
  · have inside : 11 < (networkBytes bytes prefixLength).length := by
      rw [length_networkBytes, width]
      decide
    have zero : (networkBytes bytes prefixLength)[11] = 0 := by
      have nonpositive : prefixLength.tdiv 8 ≤ 0 :=
        Int.tdiv_le_tdiv (by decide) negative.le
      have notFull : ¬ ((11 : Nat) : Int) < prefixLength.tdiv 8 := by omega
      have notPartial :
          ¬ (((11 : Nat) : Int) = prefixLength.tdiv 8 ∧
            prefixLength.tmod 8 ≠ 0) := by
        omega
      simp only [networkBytes, List.getElem_mapIdx, if_neg notFull,
        if_neg notPartial]
    rw [bitAt, List.getD_eq_getElem _ _ inside, zero] at last
    exact Bool.noConfusion last
  · obtain ⟨count, rfl⟩ := Int.eq_ofNat_of_zero_le nonnegative
    rw [bitAt_networkBytes, Bool.and_eq_true, decide_eq_true_eq] at last
    have kept := last.2
    omega

/-- `networkAddress` is idempotent for a fixed prefix length, also where it
leaves the family of an IPv4-mapped address. -/
private theorem networkAddress_idempotent {address : InetAddress}
    (width : address.HasWidth) (prefixLength : Int) :
    ∃ network,
      networkAddress address prefixLength = .ok network ∧
        networkAddress network prefixLength = .ok network := by
  cases address with
  | v4 bytes =>
      have length_eq : (networkBytes bytes prefixLength).length = 4 :=
        (length_networkBytes _ _).trans width
      refine ⟨.v4 (networkBytes bytes prefixLength), if_pos length_eq, ?_⟩
      rw [networkAddress, getAddress, networkBytes_idempotent]
      exact if_pos length_eq
  | v6 bytes =>
      have length_eq : (networkBytes bytes prefixLength).length = 16 :=
        (length_networkBytes _ _).trans width
      have other : (networkBytes bytes prefixLength).length ≠ 4 := by
        omega
      by_cases mapped :
          InetAddress.Mapped (networkBytes bytes prefixLength)
      · have dropped :
            ((networkBytes bytes prefixLength).drop 12).length = 4 := by
          rw [List.length_drop, length_eq]
        refine ⟨.v4 ((networkBytes bytes prefixLength).drop 12), ?_, ?_⟩
        · exact
            (if_neg other).trans ((if_pos length_eq).trans (if_pos mapped))
        · have wide := prefix_of_mapped width mapped
          have whole :
              (((networkBytes bytes prefixLength).drop 12).length : Int) ≤
                prefixLength.tdiv 8 := by
            obtain ⟨count, rfl⟩ :=
              Int.eq_ofNat_of_zero_le (Int.le_trans (by decide) wide)
            have quotient : (count : Int).tdiv 8 = (count / 8 : Nat) := rfl
            rw [dropped, quotient]
            omega
          rw [networkAddress, getAddress, networkBytes_of_le whole]
          exact if_pos dropped
      · refine ⟨.v6 (networkBytes bytes prefixLength), ?_, ?_⟩
        · exact
            (if_neg other).trans ((if_pos length_eq).trans (if_neg mapped))
        · rw [networkAddress, getAddress, networkBytes_idempotent]
          exact
            (if_neg other).trans ((if_pos length_eq).trans (if_neg mapped))

/-- The routes for a list of interfaces. -/
structure CanonicalRoutes (addresses : List InterfaceAddress)
    (routes : Finset RoutePrefix) : Prop where
  positive : ∀ route ∈ routes, 0 < route.prefixLength
  hostBitsZero : ∀ route ∈ routes, route.HostBitsZero
  shared_iff :
    ∀ entry ∈ addresses, ∀ other ∈ addresses,
      entry.isFiltered = false → other.isFiltered = false →
        entry.address.isInet4 = other.address.isInet4 →
          entry.prefixLength = other.prefixLength →
            ((∃ route ∈ routes,
                entry.route = .ok route ∧ other.route = .ok route) ↔
              AgreeOn entry.prefixLength.toNat entry.address.getAddress
                other.address.getAddress)
  covered :
    ∀ entry ∈ addresses, entry.isFiltered = false →
      ∃ route ∈ routes, route.Contains entry.address
  networks :
    ∀ route ∈ routes, ∃ entry ∈ addresses,
      entry.isFiltered = false ∧ entry.route = .ok route ∧
        route.IsNetworkOf entry

private theorem canonicalRoutes_of_mem {addresses : List InterfaceAddress}
    {routes : Finset RoutePrefix}
    (member : ∀ route, route ∈ routes ↔
      ∃ entry ∈ addresses,
        entry.isFiltered = false ∧ entry.route = .ok route) :
    CanonicalRoutes addresses routes := by
  have networks :
      ∀ route ∈ routes, ∃ entry ∈ addresses,
        entry.isFiltered = false ∧ entry.route = .ok route ∧
          route.IsNetworkOf entry := by
    intro route inside
    obtain ⟨entry, listed, kept, computed⟩ := (member route).mp inside
    exact
      ⟨entry, listed, kept, computed,
        InterfaceAddress.route_isNetworkOf kept computed⟩
  refine ⟨?_, ?_, ?_, ?_, networks⟩
  · intro route inside
    obtain ⟨entry, _, kept, _, network⟩ := networks route inside
    rw [network.prefixLength_eq]
    exact positive_of_not_filtered kept
  · intro route inside
    obtain ⟨entry, _, _, _, network⟩ := networks route inside
    exact network.hostBitsZero
  · intro entry listed other _ kept otherKept family prefixLength_eq
    constructor
    · rintro ⟨route, _, computed, otherComputed⟩
      exact
        (InterfaceAddress.route_isNetworkOf kept computed).agree_of_common
          (InterfaceAddress.route_isNetworkOf otherKept otherComputed)
    · intro agree
      have computed := InterfaceAddress.route_eq kept
      have otherComputed := InterfaceAddress.route_eq otherKept
      have same :=
        (InterfaceAddress.route_isNetworkOf kept computed).eq_of_agree
          (InterfaceAddress.route_isNetworkOf otherKept otherComputed)
          family prefixLength_eq agree
      rw [← same] at otherComputed
      exact
        ⟨_, (member _).mpr ⟨entry, listed, kept, computed⟩, computed,
          otherComputed⟩
  · intro entry listed kept
    have computed := InterfaceAddress.route_eq kept
    exact
      ⟨_, (member _).mpr ⟨entry, listed, kept, computed⟩,
        (InterfaceAddress.route_isNetworkOf kept computed).contains⟩

/-- Order and repetition of the interfaces do not matter. -/
private theorem interfaceRoutePrefixes_congr
    {addresses reordered : List InterfaceAddress}
    (same : ∀ entry, entry ∈ reordered ↔ entry ∈ addresses) :
    interfaceRoutePrefixes reordered = interfaceRoutePrefixes addresses := by
  obtain ⟨routes, computed, member⟩ := mem_interfaceRoutePrefixes addresses
  obtain ⟨otherRoutes, otherComputed, otherMember⟩ :=
    mem_interfaceRoutePrefixes reordered
  have routes_eq : otherRoutes = routes := by
    ext route
    rw [otherMember, member]
    simp only [same]
  rw [computed, otherComputed, routes_eq]

/-- The routes for a list of interfaces are canonical and complete, and
depend on nothing but which interfaces are listed. -/
theorem interfaceRoutePrefixes_canonical
    (addresses : List InterfaceAddress) :
    (∃ routes,
        interfaceRoutePrefixes addresses = .ok routes ∧
          CanonicalRoutes addresses routes) ∧
      (∀ reordered : List InterfaceAddress,
        (∀ entry, entry ∈ reordered ↔ entry ∈ addresses) →
          interfaceRoutePrefixes reordered =
            interfaceRoutePrefixes addresses) ∧
      ∀ address : InetAddress, address.HasWidth → ∀ prefixLength,
        ∃ network,
          networkAddress address prefixLength = .ok network ∧
            networkAddress network prefixLength = .ok network := by
  obtain ⟨routes, computed, member⟩ := mem_interfaceRoutePrefixes addresses
  refine ⟨⟨routes, computed, canonicalRoutes_of_mem member⟩, ?_, ?_⟩
  · intro reordered same
    exact interfaceRoutePrefixes_congr same
  · intro address width prefixLength
    exact networkAddress_idempotent width prefixLength

end LanShield.VpnService
