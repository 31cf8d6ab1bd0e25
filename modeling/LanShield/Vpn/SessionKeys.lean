import LanShield.Library.Texts
import LanShield.Vpn.SessionManager

/-!
# The texts the session table is keyed by

`Session.getSessionKey` writes the 5-tuple of a session as a text, with `:`
and `.` also inside the addresses.  The text determines the 5-tuple, so the
table can be seen as one keyed by 5-tuples.
-/

namespace LanShield.Transport.IPAddress

open LanShield.Library LanShield.Java

/-- `String.format("%04x", …)` of each two bytes. -/
def hexGroups : List UInt8 → List String
  | [] => []
  | [_] => []
  | high :: low :: rest =>
      String.ofList (hexDigits 4 (high.toNat * 256 + low.toNat)) ::
        hexGroups rest

/-- `toString`. -/
def toString (ip : IPAddress) : Except JavaException String :=
  if ip.address.length = 4 then
    .ok
      (joinWith '.' (ip.address.map fun byte => ToString.toString byte.toNat))
  else if ip.address.length < 16 then
    .error .indexOutOfBounds
  else
    .ok (joinWith ':' (hexGroups (ip.address.take 16)))

/-- The bytes of an IPv4 or IPv6 address. -/
def Proper (ip : IPAddress) : Prop :=
  ip.getBytes.length = 4 ∨ ip.getBytes.length = 16

instance : DecidablePred Proper :=
  fun _ => inferInstanceAs (Decidable (_ ∨ _))

private theorem hexGroups_inj {first second : List UInt8}
    (even : first.length % 2 = 0) (otherEven : second.length % 2 = 0)
    (same : hexGroups first = hexGroups second) : first = second := by
  induction first using hexGroups.induct generalizing second with
  | case1 =>
      rcases second with _ | ⟨otherHigh, _ | ⟨otherLow, otherRest⟩⟩
      · rfl
      · simp at otherEven
      · cases same
  | case2 last => simp at even
  | case3 high low rest inductionHypothesis =>
      rcases second with _ | ⟨otherHigh, _ | ⟨otherLow, otherRest⟩⟩
      · cases same
      · simp at otherEven
      · obtain ⟨group, groups⟩ := List.cons_eq_cons.mp same
        have := low.toNat_lt
        have := otherLow.toNat_lt
        have word :
            high.toNat * 256 + low.toNat =
              otherHigh.toNat * 256 + otherLow.toNat := by
          have := high.toNat_lt
          have := otherHigh.toNat_lt
          apply @hexDigits_inj 4
          · omega
          · omega
          · exact String.ofList_injective group
        have highSame : high = otherHigh := by
          rw [← UInt8.toNat_inj]
          omega
        have lowSame : low = otherLow := by
          rw [← UInt8.toNat_inj]
          omega
        have restSame : rest = otherRest := by
          simp only [List.length_cons] at even otherEven
          exact inductionHypothesis (by omega) (by omega) groups
        rw [highSame, lowSame, restSame]

theorem length_hexGroups (bytes : List UInt8) :
    (hexGroups bytes).length = bytes.length / 2 := by
  induction bytes using hexGroups.induct with
  | case1 => rfl
  | case2 last => simp [hexGroups]
  | case3 high low rest inductionHypothesis =>
      rw [hexGroups, List.length_cons, inductionHypothesis,
        List.length_cons, List.length_cons]
      omega

private theorem notMem_hexGroups {letter : Char}
    (other : ∀ digit < 16, Nat.digitChar digit ≠ letter)
    (bytes : List UInt8) :
    ∀ group ∈ hexGroups bytes, letter ∉ group.toList := by
  induction bytes using hexGroups.induct with
  | case1 => simp [hexGroups]
  | case2 last => simp [hexGroups]
  | case3 high low rest inductionHypothesis =>
      rw [hexGroups, List.forall_mem_cons, String.toList_ofList]
      exact ⟨notMem_hexDigits other 4 _, inductionHypothesis⟩

theorem notMem_decimals {letter : Char} (other : letter.isDigit = false)
    (bytes : List UInt8) :
    ∀ part ∈ bytes.map fun byte => ToString.toString byte.toNat,
      letter ∉ part.toList := by
  intro part member
  obtain ⟨byte, -, rfl⟩ := List.mem_map.mp member
  exact notMem_decimal other byte.toNat

/-- The text of an address, which is in decimal or in hexadecimal. -/
inductive Text : List UInt8 → String → Prop where
  | v4 {bytes : List UInt8} (four : bytes.length = 4) :
      Text bytes
        (joinWith '.' (bytes.map fun byte => ToString.toString byte.toNat))
  | v6 {bytes : List UInt8} (sixteen : bytes.length = 16) :
      Text bytes (joinWith ':' (hexGroups bytes))

section Texts

variable {ip : IPAddress} {bytes otherBytes : List UInt8} {text : String}

private theorem toString_text (proper : ip.Proper) :
    ∃ text, ip.toString = .ok text ∧ Text ip.getBytes text := by
  rcases proper with four | sixteen
  · exact ⟨_, if_pos four, .v4 four⟩
  · have whole : ip.address.take 16 = ip.address :=
      List.take_of_length_le (le_of_eq sixteen)
    have length : ip.address.length = 16 := sixteen
    refine ⟨_, ?_, .v6 sixteen⟩
    rw [toString, if_neg (by omega), if_neg (by omega), whole]
    rfl

/-- A dot is in the texts of IPv4 addresses only. -/
private theorem Text.dot_iff (bytes_text : Text bytes text) :
    '.' ∈ text.toList ↔ bytes.length = 4 := by
  cases bytes_text with
  | v4 four =>
      refine iff_of_true (mem_joinWith ?_) four
      rw [List.length_map, four]
      decide
  | v6 sixteen =>
      refine iff_of_false ?_ (by omega)
      exact notMem_joinWith (by decide) (notMem_hexGroups (by decide) _)

theorem decimals_inj
    (same :
      (bytes.map fun byte => ToString.toString byte.toNat) =
        otherBytes.map fun byte => ToString.toString byte.toNat) :
    bytes = otherBytes := by
  refine List.map_injective_iff.mpr ?_ same
  intro byte other same
  exact UInt8.toNat_inj.mp (decimal_inj.mp same)

/-- The texts of two addresses are different. -/
theorem Text.inj {otherText : String} (bytes_text : Text bytes text)
    (other_text : Text otherBytes otherText) (same : text = otherText) :
    bytes = otherBytes := by
  have sameKind : bytes.length = 4 ↔ otherBytes.length = 4 := by
    rw [← bytes_text.dot_iff, ← other_text.dot_iff, same]
  cases bytes_text with
  | v4 four =>
      cases other_text with
      | v4 otherFour =>
          apply decimals_inj
          apply
            joinWith_inj (notMem_decimals (by decide) _)
              (notMem_decimals (by decide) _) _ _ same
          · simpa using List.ne_nil_of_length_eq_add_one four
          · simpa using List.ne_nil_of_length_eq_add_one otherFour
      | v6 sixteen => exact absurd (sameKind.mp four) (by omega)
  | v6 sixteen =>
      cases other_text with
      | v4 four => exact absurd (sameKind.mpr four) (by omega)
      | v6 otherSixteen =>
          have groups (list : List UInt8) (length : list.length = 16) :
              hexGroups list ≠ [] := by
            apply @List.ne_nil_of_length_eq_add_one _ _ 7
            rw [length_hexGroups, length]
          apply hexGroups_inj (by omega) (by omega)
          exact
            joinWith_inj (notMem_hexGroups (by decide) _)
              (notMem_hexGroups (by decide) _) (groups _ sixteen)
              (groups _ otherSixteen) same

/-- The texts of addresses have no dash. -/
private theorem Text.notMem_dash (bytes_text : Text bytes text) :
    '-' ∉ text.toList := by
  cases bytes_text with
  | v4 four =>
      exact notMem_joinWith (by decide) (notMem_decimals (by decide) _)
  | v6 sixteen =>
      exact notMem_joinWith (by decide) (notMem_hexGroups (by decide) _)

end Texts

end LanShield.Transport.IPAddress

namespace LanShield.Vpn

open LanShield.Library LanShield.Java LanShield.Transport

/-- `name` of the enumeration. -/
def SessionProtocol.name : SessionProtocol → String
  | .tcp => "TCP"
  | .udp => "UDP"

namespace SessionKey

/-- The text of a 5-tuple with the texts of its addresses. -/
def keyText (protocol : SessionProtocol) (sourceIp : String)
    (sourcePort : Nat) (destIp : String) (destPort : Nat) : String :=
  protocol.name ++ "|" ++ sourceIp ++ ":" ++ toString sourcePort ++ "->" ++
    destIp ++ ":" ++ toString destPort

/-- `Session.getSessionKey`. -/
def getSessionKey (key : SessionKey) : Except JavaException String := do
  let sourceIp ← key.sourceIp.toString
  let destIp ← key.destIp.toString
  return keyText key.protocol sourceIp key.sourcePort destIp key.destPort

/-- Both addresses are IPv4 or IPv6 addresses. -/
structure Proper (key : SessionKey) : Prop where
  sourceIp : key.sourceIp.Proper
  destIp : key.destIp.Proper

private theorem eq_of_parts {first second : SessionKey}
    (protocol : first.protocol = second.protocol)
    (sourceIp : first.sourceIp.getBytes = second.sourceIp.getBytes)
    (sourcePort : first.sourcePort = second.sourcePort)
    (destIp : first.destIp.getBytes = second.destIp.getBytes)
    (destPort : first.destPort = second.destPort) : first = second := by
  obtain ⟨_, ⟨_⟩, _, ⟨_⟩, _⟩ := first
  obtain ⟨_, ⟨_⟩, _, ⟨_⟩, _⟩ := second
  simp_all [IPAddress.getBytes]

private theorem name_inj :
    ∀ first second : SessionProtocol,
      first.name = second.name → first = second := by
  rintro (_ | _) (_ | _) same
  · rfl
  · exact absurd same (by decide)
  · exact absurd same (by decide)
  · rfl

private theorem notMem_name : ∀ protocol : SessionProtocol,
    '|' ∉ protocol.name.toList := by
  rintro (_ | _)
  · decide
  · decide

private theorem toList_keyText (protocol : SessionProtocol)
    (sourceIp : String)
    (sourcePort : Nat) (destIp : String) (destPort : Nat) :
    (keyText protocol sourceIp sourcePort destIp destPort).toList =
      protocol.name.toList ++ '|' ::
        ((sourceIp.toList ++ ':' :: (toString sourcePort).toList) ++ '-' ::
          '>' ::
            (destIp.toList ++ ':' :: (toString destPort).toList)) := by
  simp [keyText]

/-- The bar, the dash and the last colons are where they seem to be. -/
private theorem keyText_inj {protocol otherProtocol : SessionProtocol}
    {sourceIp otherSourceIp destIp otherDestIp : String}
    {sourcePort otherSourcePort destPort otherDestPort : Nat}
    (dashless : '-' ∉ sourceIp.toList)
    (otherDashless : '-' ∉ otherSourceIp.toList)
    (same :
      keyText protocol sourceIp sourcePort destIp destPort =
        keyText otherProtocol otherSourceIp otherSourcePort otherDestIp
          otherDestPort) :
    protocol = otherProtocol ∧ sourceIp = otherSourceIp ∧
      sourcePort = otherSourcePort ∧ destIp = otherDestIp ∧
        destPort = otherDestPort := by
  have endpoint {ip otherIp : String} {port otherPort : Nat}
      (same :
        ip.toList ++ ':' :: (toString port).toList =
          otherIp.toList ++ ':' :: (toString otherPort).toList) :
      ip = otherIp ∧ port = otherPort := by
    obtain ⟨ipSame, portSame⟩ :=
      cut_at_last (notMem_decimal (by decide) _)
        (notMem_decimal (by decide) _) same
    exact
      ⟨String.toList_inj.mp ipSame,
        decimal_inj.mp (String.toList_inj.mp portSame)⟩
  have dashFree {ip : String} (free : '-' ∉ ip.toList) (port : Nat) :
      '-' ∉ ip.toList ++ ':' :: (toString port).toList := by
    rw [List.mem_append, List.mem_cons, not_or, not_or]
    exact ⟨free, by decide, notMem_decimal (by decide) _⟩
  have lists := congrArg String.toList same
  rw [toList_keyText, toList_keyText] at lists
  obtain ⟨name, behindBar⟩ :=
    cut_at_first (notMem_name _) (notMem_name _) lists
  obtain ⟨source, behindDash⟩ :=
    cut_at_first (dashFree dashless _) (dashFree otherDashless _) behindBar
  obtain ⟨sourceSame, sourcePortSame⟩ := endpoint source
  obtain ⟨destSame, destPortSame⟩ :=
    endpoint (List.tail_eq_of_cons_eq behindDash)
  exact
    ⟨name_inj _ _ (String.toList_inj.mp name), sourceSame, sourcePortSame,
      destSame, destPortSame⟩

/-- Two connections have different keys. -/
theorem getSessionKey_inj {first second : SessionKey}
    (proper : first.Proper) (otherProper : second.Proper) :
    ∃ key otherKey,
      first.getSessionKey = .ok key ∧
        second.getSessionKey = .ok otherKey ∧
          (key = otherKey ↔
            first.protocol = second.protocol ∧
              first.sourceIp.getBytes = second.sourceIp.getBytes ∧
                first.sourcePort = second.sourcePort ∧
                  first.destIp.getBytes = second.destIp.getBytes ∧
                    first.destPort = second.destPort) := by
  obtain ⟨source, source_eq, source_text⟩ :=
    IPAddress.toString_text proper.sourceIp
  obtain ⟨dest, dest_eq, dest_text⟩ :=
    IPAddress.toString_text proper.destIp
  obtain ⟨otherSource, otherSource_eq, otherSource_text⟩ :=
    IPAddress.toString_text otherProper.sourceIp
  obtain ⟨otherDest, otherDest_eq, otherDest_text⟩ :=
    IPAddress.toString_text otherProper.destIp
  have key_eq :
      first.getSessionKey =
        .ok
          (keyText first.protocol source first.sourcePort dest
            first.destPort) := by
    rw [getSessionKey, source_eq, dest_eq]
    rfl
  have otherKey_eq :
      second.getSessionKey =
        .ok
          (keyText second.protocol otherSource second.sourcePort otherDest
            second.destPort) := by
    rw [getSessionKey, otherSource_eq, otherDest_eq]
    rfl
  refine ⟨_, _, key_eq, otherKey_eq, ?_⟩
  constructor
  · intro same
    obtain ⟨protocol, sourceSame, sourcePort, destSame, destPort⟩ :=
      keyText_inj source_text.notMem_dash otherSource_text.notMem_dash same
    exact
      ⟨protocol, source_text.inj otherSource_text sourceSame, sourcePort,
        dest_text.inj otherDest_text destSame, destPort⟩
  · rintro ⟨protocol, sourceIp, sourcePort, destIp, destPort⟩
    have whole : first = second :=
      eq_of_parts protocol sourceIp sourcePort destIp destPort
    subst whole
    rw [key_eq] at otherKey_eq
    exact Except.ok.inj otherKey_eq

/-- A session between IPv4 addresses. -/
def key4 : SessionKey :=
  ⟨.udp, ⟨[10, 0, 0, 2]⟩, 53, ⟨[10, 0, 0, 1]⟩, 1024⟩

/-- A session between IPv6 addresses. -/
def key6 : SessionKey :=
  ⟨.udp, ⟨0xFD :: List.replicate 14 0 ++ [2]⟩, 53,
    ⟨0xFD :: List.replicate 14 0 ++ [1]⟩, 1024⟩

theorem getSessionKey_inj_key4_key6 :
    ∃ key otherKey,
      key4.getSessionKey = .ok key ∧
        key6.getSessionKey = .ok otherKey ∧
          (key = otherKey ↔
            key4.protocol = key6.protocol ∧
              key4.sourceIp.getBytes = key6.sourceIp.getBytes ∧
                key4.sourcePort = key6.sourcePort ∧
                  key4.destIp.getBytes = key6.destIp.getBytes ∧
                    key4.destPort = key6.destPort) :=
  @getSessionKey_inj key4 key6 ⟨by decide, by decide⟩
    ⟨by decide, by decide⟩

example :
    key6.getSessionKey =
      .ok
        ("UDP|fd00:0000:0000:0000:0000:0000:0000:0001:1024" ++
          "->fd00:0000:0000:0000:0000:0000:0000:0002:53") := by
  decide +kernel

end SessionKey

end LanShield.Vpn
