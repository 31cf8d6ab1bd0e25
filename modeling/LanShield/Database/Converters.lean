import LanShield.Java.Strings
import LanShield.Library.Texts
import LanShield.VpnService.IPHeader

/-!
# What the database stores as text

Sets of ports, lists of strings and endpoints are columns of text.  Each
converter prints a value for the database and reads a text from it.
-/

namespace LanShield.Database

open LanShield.Library LanShield.Java LanShield.VpnService

/-- `SortedSet<Int>`. -/
abbrev SortedIntSet := Std.ExtTreeSet Int32

namespace SortedIntSetConverter

/-- `fromSortedIntSet`. -/
def fromSortedIntSet : Option SortedIntSet → String
  | some sortedSet =>
      joinWith ','
        (sortedSet.toList.map fun number => toString number.toInt)
  | none => ""

/-- `toSortedIntSet`. -/
def toSortedIntSet : Option String → SortedIntSet
  | some data =>
      if isBlank data then
        ∅
      else
        Std.ExtTreeSet.ofList ((splitAt ',' data).filterMap toIntOrNull)
  | none => ∅

private theorem commaFree (numbers : List Int32) :
    ∀ part ∈ numbers.map fun number => toString number.toInt,
      ',' ∉ part.toList := by
  intro part inside member
  obtain ⟨number, -, rfl⟩ := List.mem_map.mp inside
  exact absurd (isDigit_of_mem_toString member) (by decide)

/-- The text of a set that is not empty has a digit. -/
private theorem isBlank_fromSortedIntSet {sortedSet : SortedIntSet}
    (nonempty : sortedSet.toList ≠ []) :
    isBlank (fromSortedIntSet (some sortedSet)) = false := by
  obtain ⟨number, inside⟩ := List.exists_mem_of_ne_nil _ nonempty
  obtain ⟨letter, member, visible⟩ :=
    List.all_eq_false.mp (isBlank_toString number.toInt)
  rw [isBlank, List.all_eq_false]
  refine ⟨letter, ?_, visible⟩
  exact mem_joinWith_of_mem (List.mem_map.mpr ⟨number, inside, rfl⟩) member

private theorem toSortedIntSet_fromSortedIntSet (sortedSet : SortedIntSet) :
    toSortedIntSet (some (fromSortedIntSet (some sortedSet))) =
      sortedSet := by
  by_cases empty : sortedSet.toList = []
  · have whole : sortedSet = ∅ := Std.ExtTreeSet.toList_eq_nil_iff.mp empty
    subst whole
    decide
  · rw [toSortedIntSet, if_neg (by simp [isBlank_fromSortedIntSet empty]),
      fromSortedIntSet,
      splitAt_joinWith (commaFree _) (by simpa using empty),
      List.filterMap_map]
    have read :
        (toIntOrNull ∘ fun number => toString number.toInt) = some :=
      funext toIntOrNull_toString
    rw [read, List.filterMap_some]
    apply Std.ExtTreeSet.ext_mem
    intro number
    rw [Std.ExtTreeSet.mem_ofList, List.contains_iff_mem,
      Std.ExtTreeSet.mem_toList]

end SortedIntSetConverter

namespace StringListConverter

/-- `fromStringList`. -/
def fromStringList (list : Option (List String)) : Option String :=
  list.map (joinWith ',')

/-- `toStringList`. -/
def toStringList (data : Option String) : Option (List String) :=
  data.map fun text => (splitAt ',' text).map trim

/-- A string that can stand between commas. -/
structure Plain (text : String) : Prop where
  commaFree : ',' ∉ text.toList
  trimmed : Trimmed text

instance (text : String) : Decidable (Plain text) :=
  decidable_of_iff (',' ∉ text.toList ∧ Trimmed text)
    ⟨fun both => ⟨both.1, both.2⟩, fun both => ⟨both.1, both.2⟩⟩

/-- Strings without commas are found again without the white space at their
ends, if there are any strings. -/
private theorem toStringList_fromStringList {list : List String}
    (commaFree : ∀ text ∈ list, ',' ∉ text.toList) (nonempty : list ≠ []) :
    toStringList (fromStringList (some list)) = some (list.map trim) := by
  rw [fromStringList, toStringList, Option.map_some, Option.map_some,
    splitAt_joinWith commaFree nonempty]

/-- No strings become one empty string. -/
private theorem toStringList_fromStringList_nil :
    toStringList (fromStringList (some [])) = some [""] := by
  rw [fromStringList, toStringList, Option.map_some, Option.map_some,
    splitAt_joinWith_nil]
  decide

theorem toStringList_fromStringList_iff {list : List String}
    (plain : ∀ text ∈ list, Plain text) :
    toStringList (fromStringList (some list)) = some list ↔ list ≠ [] := by
  constructor
  · rintro same rfl
    rw [toStringList_fromStringList_nil] at same
    exact absurd same (by decide)
  · intro nonempty
    have commaFree : ∀ text ∈ list, ',' ∉ text.toList :=
      fun text inside => (plain text inside).commaFree
    have trimmed : ∀ text ∈ list, trim text = id text :=
      fun text inside => (plain text inside).trimmed.trim_eq
    rw [toStringList_fromStringList commaFree nonempty,
      List.map_congr_left trimmed, List.map_id]

theorem toStringList_fromStringList_iff_protocols :
    toStringList (fromStringList (some ["HTTP", "SSDP"])) =
        some ["HTTP", "SSDP"] ↔
      ["HTTP", "SSDP"] ≠ [] :=
  toStringList_fromStringList_iff (by decide)

example :
    toStringList (some "a, b , c") = some ["a", "b", "c"] := by
  decide +kernel

/-- `protocols` of a flow as `LANFlow.createFlow` makes it. -/
def createFlowProtocols : List String :=
  []

/-- The protocols of a new flow do not come back. -/
theorem createFlowProtocols_lost :
    (∀ text ∈ createFlowProtocols, Plain text) ∧
      toStringList (fromStringList (some createFlowProtocols)) ≠
        some createFlowProtocols := by
  refine ⟨by decide, ?_⟩
  rw [createFlowProtocols, toStringList_fromStringList_nil]
  decide

end StringListConverter

/-- `java.net.InetSocketAddress`, which may have a host name only. -/
inductive SocketAddress where
  | resolved (endpoint : InetSocketAddress)
  | unresolved (hostname : String) (port : Int)
  deriving DecidableEq, Repr

/-- `InetSocketAddress(hostname, port)`; `getByName` resolves host names and
reads literals. -/
def SocketAddress.ofHost (getByName : String → Option InetAddress)
    (hostname : String) (port : Int32) :
    Except JavaException SocketAddress :=
  if port.toInt < 0 ∨ 65535 < port.toInt then
    .error (.illegalArgument ("port out of range:" ++ toString port.toInt))
  else
    match getByName hostname with
    | some address => .ok (.resolved ⟨address, port.toInt.toNat⟩)
    | none => .ok (.unresolved hostname port.toInt)

namespace InetSocketAddressConverter

/-- `fromInetSocketAddress`, where `hostAddress` prints an address. -/
def fromInetSocketAddress (hostAddress : InetAddress → String) :
    Option SocketAddress → Except JavaException (Option String)
  | none => .ok none
  | some (.resolved endpoint) =>
      .ok
        (some
          (hostAddress endpoint.address ++ ":" ++ toString endpoint.port))
  | some (.unresolved _ _) => .error .nullPointer

/-- `toInetSocketAddress`. -/
def toInetSocketAddress (getByName : String → Option InetAddress) :
    Option String → Except JavaException (Option SocketAddress)
  | none => .ok none
  | some address =>
      match lastIndexOf address ':' with
      | none => .ok none
      | some colonIndex =>
          tryCatch
            (do
              let host := substring address 0 colonIndex
              let port ←
                toInt (substring address (colonIndex + 1) address.length)
              let value ← SocketAddress.ofHost getByName host port
              return some value)
            fun
              | .numberFormat => .ok none
              | exception => .error exception

section RoundTrip

variable {hostAddress : InetAddress → String}
  {getByName : String → Option InetAddress} {address : InetAddress}
  {port : Nat}

private theorem toInt_toString (small : port ≤ 65535) :
    ∃ value : Int32,
      value.toInt = port ∧ toInt (toString port) = .ok value := by
  have value : (Int32.ofInt port).toInt = port :=
    Int32.toInt_ofInt_of_le (by omega) (by omega)
  have text : toString (port : Int) = toString port := by
    apply String.toList_inj.mp
    rw [toList_toString_nat]
    exact Nat.toList_repr.symm
  have read := toIntOrNull_toString (Int32.ofInt port)
  rw [value, text] at read
  refine ⟨Int32.ofInt port, value, ?_⟩
  rw [toInt, read]

/-- The last colon is the one in front of the port. -/
private theorem toInetSocketAddress_fromInetSocketAddress
    (small : port ≤ 65535)
    (literal : getByName (hostAddress address) = some address) :
    ∃ text,
      fromInetSocketAddress hostAddress (some (.resolved ⟨address, port⟩)) =
          .ok (some text) ∧
        toInetSocketAddress getByName (some text) =
          .ok (some (.resolved ⟨address, port⟩)) := by
  refine ⟨_, rfl, ?_⟩
  have whole :
      (hostAddress address ++ ":" ++ toString port).toList =
        (hostAddress address).toList ++ ':' :: (toString port).toList := by
    simp
  obtain ⟨value, value_eq, read⟩ := toInt_toString small
  have host : SocketAddress.ofHost getByName (hostAddress address) value =
      .ok (.resolved ⟨address, port⟩) := by
    rw [SocketAddress.ofHost, if_neg (by omega), literal, value_eq]
    rfl
  simp only [toInetSocketAddress,
    lastIndexOf_eq whole (notMem_decimal (by decide) _),
    substring_front whole, substring_back whole, String.ofList_toList, read]
  change
    tryCatch
        (SocketAddress.ofHost getByName (hostAddress address) value >>=
          fun value => pure (some value)) _ =
      _
  rw [host]
  rfl

end RoundTrip

end InetSocketAddressConverter

/-- Sets of ports and endpoints come back as they were stored. -/
theorem converters_roundTrip {hostAddress : InetAddress → String}
    {getByName : String → Option InetAddress} {address : InetAddress}
    {port : Nat} (small : port ≤ 65535)
    (literal : getByName (hostAddress address) = some address) :
    (∀ sortedSet : SortedIntSet,
        SortedIntSetConverter.toSortedIntSet
            (some
              (SortedIntSetConverter.fromSortedIntSet (some sortedSet))) =
          sortedSet) ∧
      ∃ text,
        InetSocketAddressConverter.fromInetSocketAddress hostAddress
              (some (.resolved ⟨address, port⟩)) =
            .ok (some text) ∧
          InetSocketAddressConverter.toInetSocketAddress getByName
              (some text) =
            .ok (some (.resolved ⟨address, port⟩)) :=
  ⟨SortedIntSetConverter.toSortedIntSet_fromSortedIntSet,
    InetSocketAddressConverter.toInetSocketAddress_fromInetSocketAddress small
      literal⟩

/-- The address `fd00::1`. -/
def uniqueLocal : InetAddress :=
  .v6 (0xFD :: List.replicate 14 0 ++ [1])

/-- How Android prints the address. -/
def uniqueLocalText (address : InetAddress) : String :=
  if address = uniqueLocal then "fd00::1" else "0.0.0.0"

/-- How Android reads its text. -/
def uniqueLocalByName (host : String) : Option InetAddress :=
  if host = "fd00::1" then some uniqueLocal else none

theorem converters_roundTrip_uniqueLocal :
    (∀ sortedSet : SortedIntSet,
        SortedIntSetConverter.toSortedIntSet
            (some
              (SortedIntSetConverter.fromSortedIntSet (some sortedSet))) =
          sortedSet) ∧
      ∃ text,
        InetSocketAddressConverter.fromInetSocketAddress uniqueLocalText
              (some (.resolved ⟨uniqueLocal, 53⟩)) =
            .ok (some text) ∧
          InetSocketAddressConverter.toInetSocketAddress uniqueLocalByName
              (some text) =
            .ok (some (.resolved ⟨uniqueLocal, 53⟩)) :=
  @converters_roundTrip uniqueLocalText uniqueLocalByName uniqueLocal 53
    (by decide) (by decide)

example :
    SortedIntSetConverter.toSortedIntSet (some "3,foo,-1,2") =
      Std.ExtTreeSet.ofList [-1, 2, 3] compare := by
  decide +kernel

example :
    InetSocketAddressConverter.toInetSocketAddress uniqueLocalByName
        (some "fd00::1:notaport") =
      .ok none := by
  decide +kernel

end LanShield.Database
