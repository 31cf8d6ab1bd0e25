import LanShield.VpnService.InterfaceRoutes

/-!
# On-link traffic and the routes of the tunnel

An interface is filtered out by the class of its address, and the static
routes cover that class; they cover the on-link prefix only where it is not
wider than the class.
-/

namespace LanShield.VpnService

open LanShield.Library LanShield.Java InetAddress

@[simp]
theorem length_networkBytes (bytes : List UInt8) (prefixLength : Int) :
    (networkBytes bytes prefixLength).length = bytes.length :=
  List.length_mapIdx

/-- The bits of the prefix stay and the others are zero. -/
theorem bitAt_networkBytes (bytes : List UInt8) (count index : Nat) :
    bitAt (networkBytes bytes count) index =
      (bitAt bytes index && decide (index < count)) := by
  have quotient : (count : Int).tdiv 8 = (count / 8 : Nat) := rfl
  have remainder : (count : Int).tmod 8 = (count % 8 : Nat) := rfl
  have distance : (8 - ((count % 8 : Nat) : Int)).toNat = 8 - count % 8 := by
    omega
  unfold bitAt networkBytes
  rw [quotient, remainder]
  dsimp only
  by_cases inside : index / 8 < bytes.length
  · rw [List.getD_eq_getElem _ _ (by simpa using inside),
      List.getD_eq_getElem _ _ inside, List.getElem_mapIdx]
    split
    · next full =>
      have kept : index < count := by omega
      rw [decide_eq_true kept, Bool.and_true]
    · split
      · next _ partial_byte =>
        obtain ⟨byte, _⟩ := partial_byte
        have kept : index % 8 < count % 8 ↔ index < count := by omega
        have masked :=
          @testBit_and_highMask bytes[index / 8] (count % 8) (index % 8)
            (by omega) (by omega)
        rw [← distance, decide_eq_decide.mpr kept] at masked
        exact masked
      · have dropped : ¬ index < count := by omega
        rw [decide_eq_false dropped, Bool.and_false]
        exact Nat.zero_testBit _
  · rw [List.getD_eq_default _ _ (by simpa using inside),
      List.getD_eq_default _ _ (Nat.not_lt.mp inside)]
    simp

theorem agreeOn_networkBytes (bytes : List UInt8) (count : Nat) :
    AgreeOn count (networkBytes bytes count) bytes := by
  intro index below
  rw [bitAt_networkBytes, decide_eq_true below, Bool.and_true]

theorem mapped_iff_agreeOn {bytes : List UInt8}
    (width : bytes.length = 16) :
    InetAddress.Mapped bytes ↔ AgreeOn 96 bytes mappedPrefix := by
  have twelve : (bytes.take 12).length = mappedPrefix.length := by
    rw [List.length_take, width]
    rfl
  have bytewise :
      AgreeOn 96 bytes mappedPrefix ↔
        ∀ index < 12, bytes.getD index 0 = mappedPrefix.getD index 0 :=
    @agreeOn_bytes_iff bytes mappedPrefix 12
  rw [bytewise]
  constructor
  · intro mapped index inside
    have front : bytes.take 12 = mappedPrefix := mapped
    rw [← front]
    simp [List.getD, inside]
  · intro same
    refine List.ext_getElem twelve fun index below inside => ?_
    have byte := same index inside
    have long : index < bytes.length :=
      below.trans_le (List.length_take_le' 12 bytes)
    rw [List.getD_eq_getElem _ _ long,
      List.getD_eq_getElem _ _ inside] at byte
    rw [List.getElem_take]
    exact byte

/-- Zeroing host bits does not make an IPv4-mapped address. -/
private theorem not_mapped_networkBytes {bytes : List UInt8} (count : Nat)
    (width : bytes.length = 16) (notMapped : ¬ InetAddress.Mapped bytes) :
    ¬ InetAddress.Mapped (networkBytes bytes count) := by
  intro mapped
  have networkWidth : (networkBytes bytes count).length = 16 :=
    (length_networkBytes bytes count).trans width
  have agree := (mapped_iff_agreeOn networkWidth).mp mapped
  have last :
      bitAt (networkBytes bytes count) 95 = bitAt mappedPrefix 95 :=
    agree 95 (by decide)
  have set : bitAt mappedPrefix 95 = true := by decide
  rw [set, bitAt_networkBytes, Bool.and_eq_true, decide_eq_true_eq] at last
  obtain ⟨_, kept⟩ := last
  apply notMapped
  apply (mapped_iff_agreeOn width).mpr
  exact ((agreeOn_networkBytes bytes count).mono kept).symm.trans agree

/-- The network address of a prefix, which is of the same family. -/
def InetAddress.masked (address : InetAddress) (prefixLength : Int) :
    InetAddress :=
  match address with
  | .v4 bytes => .v4 (networkBytes bytes prefixLength)
  | .v6 bytes => .v6 (networkBytes bytes prefixLength)

private theorem networkAddress_eq (entry : InterfaceAddress)
    (positive : 0 ≤ entry.prefixLength) :
    networkAddress entry.address entry.prefixLength =
      .ok (entry.address.masked entry.prefixLength) := by
  obtain ⟨address, prefixLength, hasWidth, notMapped⟩ := entry
  obtain ⟨count, rfl⟩ := Int.eq_ofNat_of_zero_le positive
  rw [networkAddress, InetAddress.getByAddress]
  cases address with
  | v4 bytes =>
      have width : (networkBytes bytes count).length = 4 :=
        (length_networkBytes bytes count).trans hasWidth
      exact if_pos width
  | v6 bytes =>
      have width : (networkBytes bytes count).length = 16 :=
        (length_networkBytes bytes count).trans hasWidth
      have other : (networkBytes bytes count).length ≠ 4 := by
        omega
      have free := not_mapped_networkBytes count hasWidth notMapped
      exact (if_neg other).trans ((if_pos width).trans (if_neg free))

/-- The on-link prefix of the interface. -/
def InterfaceAddress.onLink (entry : InterfaceAddress) : RoutePrefix :=
  ⟨entry.address, entry.prefixLength⟩

private theorem contains_masked_iff {entry : InterfaceAddress}
    (positive : 0 ≤ entry.prefixLength) (ip : InetAddress) :
    RoutePrefix.Contains
        ⟨entry.address.masked entry.prefixLength, entry.prefixLength⟩ ip ↔
      entry.onLink.Contains ip := by
  obtain ⟨address, prefixLength, hasWidth, notMapped⟩ := entry
  obtain ⟨count, rfl⟩ := Int.eq_ofNat_of_zero_le positive
  cases address with
  | v4 bytes =>
      have same := agreeOn_networkBytes bytes count
      exact
        and_congr_right fun _ => ⟨same.symm.trans, same.trans⟩
  | v6 bytes =>
      have same := agreeOn_networkBytes bytes count
      exact
        and_congr_right fun _ => ⟨same.symm.trans, same.trans⟩

private theorem mapM_eq_ok {A B : Type} {step : A → Except JavaException B}
    {value : A → B} :
    ∀ {items : List A}, (∀ item ∈ items, step item = .ok (value item)) →
      items.mapM step = .ok (items.map value) := by
  intro items
  induction items with
  | nil => exact fun _ => rfl
  | cons item rest inductionHypothesis =>
      intro steps
      have first := steps item List.mem_cons_self
      have later :=
        inductionHypothesis fun other inside =>
          steps other (List.mem_cons_of_mem item inside)
      rw [List.mapM_cons, first, later]
      rfl

/-- The interfaces that get a route of their own. -/
def Watched (addresses : List InterfaceAddress) (ip : InetAddress) : Prop :=
  ∃ entry ∈ addresses,
    entry.isFiltered = false ∧ entry.onLink.Contains ip

private theorem nonneg_of_not_filtered {entry : InterfaceAddress}
    (kept : (!entry.isFiltered) = true) : 0 ≤ entry.prefixLength := by
  by_contra negative
  have filtered : entry.isFiltered = true := by
    have nonpositive : entry.prefixLength ≤ 0 := by omega
    simp [InterfaceAddress.isFiltered, nonpositive]
  rw [filtered] at kept
  exact Bool.noConfusion kept

/-- The route of an interface that is not filtered out. -/
theorem InterfaceAddress.route_eq {entry : InterfaceAddress}
    (kept : entry.isFiltered = false) :
    entry.route =
      .ok ⟨entry.address.masked entry.prefixLength, entry.prefixLength⟩ := by
  have positive : 0 ≤ entry.prefixLength :=
    nonneg_of_not_filtered (by rw [kept]; rfl)
  rw [route, networkAddress_eq entry positive]
  rfl

/-- The routes are those of the interfaces that are not filtered out. -/
theorem mem_interfaceRoutePrefixes (addresses : List InterfaceAddress) :
    ∃ routes, interfaceRoutePrefixes addresses = .ok routes ∧
      ∀ route, route ∈ routes ↔
        ∃ entry ∈ addresses,
          entry.isFiltered = false ∧ entry.route = .ok route := by
  have kept {entry : InterfaceAddress}
      (inside : entry ∈ addresses.filter fun entry => !entry.isFiltered) :
      entry.isFiltered = false :=
    (Bool.not_eq_true' _).mp (List.mem_filter.mp inside).2
  have computed :=
    @mapM_eq_ok InterfaceAddress RoutePrefix InterfaceAddress.route _
      (addresses.filter fun entry => !entry.isFiltered)
      fun entry inside => InterfaceAddress.route_eq (kept inside)
  rw [interfaceRoutePrefixes, computed]
  refine ⟨_, rfl, fun route => ?_⟩
  rw [List.mem_toFinset, List.mem_map]
  constructor
  · rintro ⟨entry, member, rfl⟩
    exact
      ⟨entry, (List.mem_filter.mp member).1, kept member,
        InterfaceAddress.route_eq (kept member)⟩
  · rintro ⟨entry, listed, watched, computed⟩
    refine ⟨entry, List.mem_filter.mpr ⟨listed, by rw [watched]; rfl⟩, ?_⟩
    rw [InterfaceAddress.route_eq watched] at computed
    exact Except.ok.inj computed

private theorem interfaceRoutePrefixes_contains
    (addresses : List InterfaceAddress) :
    ∃ routes, interfaceRoutePrefixes addresses = .ok routes ∧
      ∀ ip, (∃ route ∈ routes, route.Contains ip) ↔
        Watched addresses ip := by
  obtain ⟨routes, computed, member⟩ := mem_interfaceRoutePrefixes addresses
  refine ⟨routes, computed, fun ip => ?_⟩
  have positive {entry : InterfaceAddress}
      (kept : entry.isFiltered = false) : 0 ≤ entry.prefixLength :=
    nonneg_of_not_filtered (by rw [kept]; rfl)
  constructor
  · rintro ⟨route, inside, contains⟩
    obtain ⟨entry, listed, kept, route_eq⟩ := (member route).mp inside
    rw [InterfaceAddress.route_eq kept] at route_eq
    obtain rfl := Except.ok.inj route_eq
    exact
      ⟨entry, listed, kept,
        (contains_masked_iff (positive kept) ip).mp contains⟩
  · rintro ⟨entry, listed, kept, contains⟩
    exact
      ⟨_, (member _).mpr
          ⟨entry, listed, kept, InterfaceAddress.route_eq kept⟩,
        (contains_masked_iff (positive kept) ip).mpr contains⟩

/-- A static route takes the address. -/
def StaticallyRouted (ip : InetAddress) : Prop :=
  ∃ route ∈ addIpv4Routes ++ addIpv6Routes, route.Contains ip

instance : DecidablePred StaticallyRouted :=
  fun _ => inferInstanceAs (Decidable (∃ _ ∈ _, _))

/-- A static route or the route of an interface takes the address. -/
def Routed (addresses : List InterfaceAddress) (ip : InetAddress) : Prop :=
  StaticallyRouted ip ∨
    ∃ routes, interfaceRoutePrefixes addresses = .ok routes ∧
      ∃ route ∈ routes, route.Contains ip

private theorem routed_iff (addresses : List InterfaceAddress)
    (ip : InetAddress) :
    Routed addresses ip ↔ StaticallyRouted ip ∨ Watched addresses ip := by
  obtain ⟨routes, computed, contains⟩ :=
    interfaceRoutePrefixes_contains addresses
  rw [Routed]
  rw [← contains ip, computed]
  simp

/-- The interfaces whose traffic is to be monitored. -/
structure InterfaceAddress.Eligible (entry : InterfaceAddress) : Prop where
  positive : 0 < entry.prefixLength
  fits :
    entry.prefixLength ≤ 8 * entry.address.getAddress.length
  notLoopback : entry.address.isLoopbackAddress = false
  notUnspecified : entry.address.isAnyLocalAddress = false
  notMulticast : entry.address.isMulticastAddress = false

/-- The classes by which interfaces are filtered out, as far as static
routes cover them: the two halves of `fe80::/9` are routed one by one. -/
def staticBlocks : List RoutePrefix :=
  [⟨ipv4 169 254 0 0, 16⟩,
    ⟨ipv4 10 0 0 0, 8⟩,
    ⟨ipv4 172 16 0 0, 12⟩,
    ⟨ipv4 192 168 0 0, 16⟩,
    ⟨ipv6 [0xfe80], 9⟩,
    ⟨ipv6 [0xfc00], 7⟩]

/-- A block of whole bytes contains the addresses that start with them. -/
private theorem contains_bytes_iff (bytes block : List UInt8) (count : Nat) :
    RoutePrefix.Contains ⟨.v4 block, (8 * count : Nat)⟩ (.v4 bytes) ↔
      ∀ index < count, bytes.getD index 0 = block.getD index 0 := by
  have agree :
      RoutePrefix.Contains ⟨.v4 block, (8 * count : Nat)⟩ (.v4 bytes) ↔
        AgreeOn (8 * count) bytes block :=
    (and_iff_right rfl).trans AgreeOn.comm
  exact agree.trans agreeOn_bytes_iff

private theorem linkLocal_v4_iff (bytes : List UInt8) :
    isLinkLocalAddress (.v4 bytes) = true ↔
      RoutePrefix.Contains ⟨ipv4 169 254 0 0, 16⟩ (.v4 bytes) := by
  have contains :
      RoutePrefix.Contains ⟨ipv4 169 254 0 0, 16⟩ (.v4 bytes) ↔ _ :=
    contains_bytes_iff bytes [169, 254, 0, 0] 2
  rw [contains]
  simp only [Nat.forall_lt_succ_right]
  simp [isLinkLocalAddress]

private theorem siteLocal_v4_iff (bytes : List UInt8) :
    isSiteLocalAddress (.v4 bytes) = true ↔
      RoutePrefix.Contains ⟨ipv4 10 0 0 0, 8⟩ (.v4 bytes) ∨
        RoutePrefix.Contains ⟨ipv4 172 16 0 0, 12⟩ (.v4 bytes) ∨
          RoutePrefix.Contains ⟨ipv4 192 168 0 0, 16⟩ (.v4 bytes) := by
  have ten :
      RoutePrefix.Contains ⟨ipv4 10 0 0 0, 8⟩ (.v4 bytes) ↔ _ :=
    contains_bytes_iff bytes [10, 0, 0, 0] 1
  have many :
      RoutePrefix.Contains ⟨ipv4 192 168 0 0, 16⟩ (.v4 bytes) ↔ _ :=
    contains_bytes_iff bytes [192, 168, 0, 0] 2
  have sixteen :
      RoutePrefix.Contains ⟨ipv4 172 16 0 0, 12⟩ (.v4 bytes) ↔
        AgreeOn (8 * 1 + 4) bytes [172, 16, 0, 0] :=
    (and_iff_right rfl).trans AgreeOn.comm
  have bitwise :=
    @agreeOn_masked_iff bytes [172, 16, 0, 0] 1 4 0xF0 (by decide)
      (by decide)
  have masked : (16 : UInt8) &&& 0xF0 = 16 := rfl
  rw [ten, many, sixteen, bitwise]
  simp only [Nat.forall_lt_succ_right]
  simp [isSiteLocalAddress, masked]

/-- The two classes differ in the bit behind the block's. -/
private theorem local_v6_iff (bytes : List UInt8) :
    isLinkLocalAddress (.v6 bytes) = true ∨
        isSiteLocalAddress (.v6 bytes) = true ↔
      RoutePrefix.Contains ⟨ipv6 [0xfe80], 9⟩ (.v6 bytes) := by
  have bitwise :=
    @agreeOn_masked_iff bytes (ipv6 [0xfe80]).getAddress 1 1 0x80
      (by decide) (by decide)
  have contains :
      RoutePrefix.Contains ⟨ipv6 [0xfe80], 9⟩ (.v6 bytes) ↔
        AgreeOn (8 * 1 + 1) bytes (ipv6 [0xfe80]).getAddress :=
    (and_iff_right rfl).trans AgreeOn.comm
  have first : (ipv6 [0xfe80]).getAddress.getD 0 0 = 0xFE := by decide
  have second : (ipv6 [0xfe80]).getAddress.getD 1 0 = 0x80 := by decide
  have halves (byte : UInt8) :
      byte &&& 0xC0 = 0x80 ∨ byte &&& 0xC0 = 0xC0 ↔
        byte &&& 0x80 = 0x80 := by
    obtain ⟨bits⟩ := byte
    revert bits
    decide +kernel
  rw [contains, bitwise, second, Nat.forall_lt_succ_right, first]
  simp [isLinkLocalAddress, isSiteLocalAddress, ← halves, and_or_left]

private theorem uniqueLocal_v6_iff {bytes : List UInt8}
    (width : bytes.length = 16) :
    isUniqueLocal (.v6 bytes) = true ↔
      RoutePrefix.Contains ⟨ipv6 [0xfc00], 7⟩ (.v6 bytes) := by
  have bitwise :=
    @agreeOn_masked_iff bytes (ipv6 [0xfc00]).getAddress 0 7 0xFE
      (by decide) (by decide)
  have contains :
      RoutePrefix.Contains ⟨ipv6 [0xfc00], 7⟩ (.v6 bytes) ↔
        AgreeOn (8 * 0 + 7) bytes (ipv6 [0xfc00]).getAddress :=
    (and_iff_right rfl).trans AgreeOn.comm
  have first : (ipv6 [0xfc00]).getAddress.getD 0 0 = 0xFC := by decide
  have masked : (0xFC : UInt8) &&& 0xFE = 0xFC := rfl
  rw [contains, bitwise, first, masked]
  simp [isUniqueLocal, byteAt, getAddress, width]

/-- An eligible interface is filtered out exactly when its address lies in
one of the blocks. -/
private theorem isFiltered_iff {entry : InterfaceAddress}
    (eligible : entry.Eligible) :
    entry.isFiltered = true ↔
      ∃ block ∈ staticBlocks, block.Contains entry.address := by
  obtain ⟨positive, _, notLoopback, notUnspecified, notMulticast⟩ :=
    eligible
  have by_class :
      entry.isFiltered = true ↔
        isLinkLocalAddress entry.address = true ∨
          isSiteLocalAddress entry.address = true ∨
            isUniqueLocal entry.address = true := by
    simp [InterfaceAddress.isFiltered, notLoopback, notUnspecified,
      notMulticast, positive, or_assoc]
  rw [by_class]
  obtain ⟨address, prefixLength, hasWidth, notMapped⟩ := entry
  cases address with
  | v4 bytes =>
      have other (groups : List UInt16) (length : Int) :
          ¬ RoutePrefix.Contains ⟨ipv6 groups, length⟩ (.v4 bytes) :=
        fun contains => Bool.noConfusion contains.1
      have notUnique : isUniqueLocal (.v4 bytes) = false := by
        have width : bytes.length = 4 := hasWidth
        simp [isUniqueLocal, getAddress, width]
      simp only [staticBlocks, List.mem_cons, List.not_mem_nil, or_false,
        exists_eq_or_imp, exists_eq_left, other, notUnique,
        Bool.false_eq_true, linkLocal_v4_iff, siteLocal_v4_iff]
  | v6 bytes =>
      have other (a b c d : UInt8) (length : Int) :
          ¬ RoutePrefix.Contains ⟨ipv4 a b c d, length⟩ (.v6 bytes) :=
        fun contains => Bool.noConfusion contains.1
      simp only [staticBlocks, List.mem_cons, List.not_mem_nil, or_false,
        exists_eq_or_imp, exists_eq_left, other, false_or,
        ← local_v6_iff, ← uniqueLocal_v6_iff hasWidth, or_assoc]

/-- The static routes cover the blocks. -/
private theorem staticallyRouted_of_block {block : RoutePrefix}
    (listed : block ∈ staticBlocks) {ip : InetAddress}
    (contains : block.Contains ip) : StaticallyRouted ip := by
  have single (route : RoutePrefix)
      (added : route ∈ addIpv4Routes ++ addIpv6Routes)
      (taken : route.Contains ip) : StaticallyRouted ip :=
    ⟨route, added, taken⟩
  simp only [staticBlocks, List.mem_cons, List.not_mem_nil,
    or_false] at listed
  rcases listed with rfl | rfl | rfl | rfl | rfl | rfl
  · exact single _ (by decide) contains
  · exact single _ (by decide) contains
  · exact single _ (by decide) contains
  · exact single _ (by decide) contains
  · obtain ⟨family, agree⟩ := contains
    have agree : AgreeOn 9 (ipv6 [0xfe80]).getAddress ip.getAddress := agree
    cases half : bitAt ip.getAddress 9 with
    | false =>
        have next : bitAt (ipv6 [0xfe80]).getAddress 9 = false := by decide
        exact
          single ⟨ipv6 [0xfe80], 10⟩ (by decide)
            ⟨family, agree.succ (next.trans half.symm)⟩
    | true =>
        have next : bitAt (ipv6 [0xfec0]).getAddress 9 = true := by decide
        have same :
            AgreeOn 9 (ipv6 [0xfec0]).getAddress
              (ipv6 [0xfe80]).getAddress := by
          decide
        exact
          single ⟨ipv6 [0xfec0], 10⟩ (by decide)
            ⟨family, (same.trans agree).succ (next.trans half.symm)⟩
  · exact single _ (by decide) contains

/-- One bit wider than a block there is an address without a static route.
-/
private theorem exists_neighbour {block : RoutePrefix}
    (listed : block ∈ staticBlocks) :
    ∃ ip : InetAddress,
      ip.HasWidth ∧ ¬ StaticallyRouted ip ∧
        RoutePrefix.Contains ⟨block.address, block.prefixLength - 1⟩ ip := by
  simp only [staticBlocks, List.mem_cons, List.not_mem_nil,
    or_false] at listed
  rcases listed with rfl | rfl | rfl | rfl | rfl | rfl
  · exact ⟨ipv4 169 255 0 0, by decide, by decide, by decide⟩
  · exact ⟨ipv4 11 0 0 0, by decide, by decide, by decide⟩
  · exact ⟨ipv4 172 0 0 0, by decide, by decide, by decide⟩
  · exact ⟨ipv4 192 169 0 0, by decide, by decide, by decide⟩
  · exact ⟨ipv6 [0xfe00], by decide, by decide, by decide⟩
  · exact ⟨ipv6 [0xfe00], by decide, by decide, by decide⟩

/-- Every address of the interface's on-link prefix is routed. -/
def OnLinkRouted (addresses : List InterfaceAddress)
    (entry : InterfaceAddress) : Prop :=
  ∀ ip : InetAddress, ip.HasWidth → entry.onLink.Contains ip →
    Routed addresses ip

/-- The on-link prefix is not wider than a block around the address. -/
def InterfaceAddress.Narrow (entry : InterfaceAddress) : Prop :=
  ∀ block ∈ staticBlocks, block.Contains entry.address →
    block.prefixLength ≤ entry.prefixLength

instance (entry : InterfaceAddress) : Decidable entry.Narrow :=
  inferInstanceAs (Decidable (∀ _ ∈ _, _))

/-- Interfaces with routes of their own fill what the static routes leave
open. -/
def RestWatched (addresses : List InterfaceAddress)
    (entry : InterfaceAddress) : Prop :=
  ∀ ip : InetAddress, ip.HasWidth → entry.onLink.Contains ip →
    ¬ StaticallyRouted ip → Watched addresses ip

private theorem onLinkRouted_iff_restWatched
    (addresses : List InterfaceAddress)
    (entry : InterfaceAddress) :
    OnLinkRouted addresses entry ↔ RestWatched addresses entry := by
  constructor
  · intro routed ip width onLink uncovered
    have taken := (routed_iff addresses ip).mp (routed ip width onLink)
    exact taken.resolve_left uncovered
  · intro watched ip width onLink
    rw [routed_iff]
    by_cases covered : StaticallyRouted ip
    · exact Or.inl covered
    · exact Or.inr (watched ip width onLink covered)

private theorem onLinkRouted_of_narrow {addresses : List InterfaceAddress}
    {entry : InterfaceAddress} (eligible : entry.Eligible)
    (listed : entry ∈ addresses) (narrow : entry.Narrow) :
    OnLinkRouted addresses entry := by
  intro ip _ onLink
  rw [routed_iff]
  cases filtered : entry.isFiltered with
  | false => exact Or.inr ⟨entry, listed, filtered, onLink⟩
  | true =>
      obtain ⟨block, member, family, agree⟩ :=
        (isFiltered_iff eligible).mp filtered
      have shorter := narrow block member ⟨family, agree⟩
      refine Or.inl (staticallyRouted_of_block member ⟨?_, ?_⟩)
      · exact family.trans onLink.1
      · exact agree.trans (onLink.2.mono (Int.toNat_le_toNat shorter))

/-- Where an interface is wider than its block, it does not get a route of
its own either. -/
private theorem exists_unrouted {entry : InterfaceAddress}
    (eligible : entry.Eligible) (wide : ¬ entry.Narrow) :
    ¬ OnLinkRouted [entry] entry := by
  intro routed
  rw [InterfaceAddress.Narrow] at wide
  push Not at wide
  obtain ⟨block, member, contains, shorter⟩ := wide
  obtain ⟨ip, width, uncovered, neighbour⟩ := exists_neighbour member
  have onLink : entry.onLink.Contains ip := by
    refine ⟨contains.1.symm.trans neighbour.1, ?_⟩
    have length_le :
        entry.prefixLength.toNat ≤ (block.prefixLength - 1).toNat :=
      Int.toNat_le_toNat (Int.le_sub_one_of_lt shorter)
    have wider : entry.prefixLength.toNat ≤ block.prefixLength.toNat :=
      Int.toNat_le_toNat shorter.le
    exact (contains.2.mono wider).symm.trans (neighbour.2.mono length_le)
  rcases (routed_iff [entry] ip).mp (routed ip width onLink) with
    covered | ⟨other, listed, kept, _⟩
  · exact uncovered covered
  · obtain rfl := List.mem_singleton.mp listed
    have filtered := (isFiltered_iff eligible).mpr ⟨block, member, contains⟩
    rw [kept] at filtered
    exact Bool.noConfusion filtered

/-- The on-link prefixes of a list are routed if and only if every interface
is narrow or is helped by the routes of others; and an interface can do
without the help of others if and only if it is narrow. -/
theorem onLinkRouted_iff (addresses : List InterfaceAddress) :
    ((∀ entry ∈ addresses, entry.Eligible → OnLinkRouted addresses entry) ↔
      ∀ entry ∈ addresses, entry.Eligible →
        entry.Narrow ∨ RestWatched addresses entry) ∧
      ∀ entry : InterfaceAddress, entry.Eligible →
        ((∀ addresses, entry ∈ addresses → OnLinkRouted addresses entry) ↔
          entry.Narrow) := by
  constructor
  · constructor
    · intro routed entry listed eligible
      right
      apply (onLinkRouted_iff_restWatched addresses entry).mp
      exact routed entry listed eligible
    · intro condition entry listed eligible
      rcases condition entry listed eligible with narrow | watched
      · exact onLinkRouted_of_narrow eligible listed narrow
      · exact (onLinkRouted_iff_restWatched addresses entry).mpr watched
  · intro entry eligible
    constructor
    · intro routed
      by_contra wide
      apply exists_unrouted eligible wide
      exact routed [entry] List.mem_cons_self
    · intro narrow addresses listed
      exact onLinkRouted_of_narrow eligible listed narrow

/-- The address 192.168.1.20 under the netmask 255.0.0.0. -/
def wideInterface : InterfaceAddress where
  address := ipv4 192 168 1 20
  prefixLength := 8
  hasWidth := rfl
  notMapped := by decide

theorem wideInterface_unrouted :
    wideInterface.Eligible ∧ (ipv4 192 1 2 3).HasWidth ∧
      wideInterface.onLink.Contains (ipv4 192 1 2 3) ∧
      interfaceRoutePrefixes [wideInterface] = .ok ∅ ∧
      ¬ Routed [wideInterface] (ipv4 192 1 2 3) := by
  refine ⟨⟨by decide, by decide, rfl, rfl, rfl⟩, rfl, by decide, rfl, ?_⟩
  rw [routed_iff]
  rintro (covered | ⟨other, listed, kept, _⟩)
  · exact absurd covered (by decide)
  · obtain rfl := List.mem_singleton.mp listed
    exact Bool.noConfusion kept

end LanShield.VpnService
