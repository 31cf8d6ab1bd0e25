import LanShield.BackendSync.SyncACL
import LanShield.Vpn.SessionKeys
import LanShield.VpnService.InterfaceRoutes
import Mathlib.Order.Basic

/-!
# `PolicyEngine`

Whether a packet is forwarded, and whether the user is told of it.  The
decision is compared with a rule that says once which packets may pass, and
the rule only gets weaker when a setting gets stricter.
-/

namespace LanShield.VpnService

open LanShield.Library LanShield.Transport
open LanShield.BackendSync (Policy)

namespace InetAddress

/-- The hexadecimal numeral of each two bytes. -/
def hexGroups : List UInt8 → List String
  | [] => []
  | [_] => []
  | high :: low :: rest =>
      String.ofList (Nat.toDigits 16 (high.toNat * 256 + low.toNat)) ::
        hexGroups rest

/-- `hostAddress` of an address without a scope. -/
def hostAddress : InetAddress → String
  | .v4 address =>
      joinWith '.' (address.map fun byte => toString byte.toNat)
  | .v6 address => joinWith ':' (hexGroups address)

/-- `255.255.255.255`. -/
def limitedBroadcast : InetAddress :=
  .v4 [255, 255, 255, 255]

theorem length_hexGroups (bytes : List UInt8) :
    (hexGroups bytes).length = bytes.length / 2 := by
  induction bytes using hexGroups.induct with
  | case1 => rfl
  | case2 last => simp [hexGroups]
  | case3 high low rest inductionHypothesis =>
      rw [hexGroups, List.length_cons, inductionHypothesis,
        List.length_cons, List.length_cons]
      omega

/-- Only the limited broadcast address has its text. -/
theorem hostAddress_eq_broadcast_iff {address : InetAddress}
    (width : address.HasWidth) :
    address.hostAddress = "255.255.255.255" ↔
      address = limitedBroadcast := by
  refine ⟨?_, fun same => by rw [same]; decide⟩
  intro same
  cases address with
  | v4 bytes =>
      have four : bytes.length = 4 := width
      have texts :
          joinWith '.' (bytes.map fun byte => toString byte.toNat) =
            joinWith '.'
              ([255, 255, 255, 255].map fun byte : UInt8 =>
                toString byte.toNat) :=
        same.trans (by decide)
      have parts :=
        joinWith_inj (IPAddress.notMem_decimals (by decide) bytes)
          (IPAddress.notMem_decimals (by decide) _)
          (by simpa using List.ne_nil_of_length_eq_add_one four)
          (by decide) texts
      rw [IPAddress.decimals_inj parts, limitedBroadcast]
  | v6 bytes =>
      have sixteen : bytes.length = 16 := width
      have colon : ':' ∈ (hostAddress (.v6 bytes)).toList := by
        apply mem_joinWith
        rw [length_hexGroups, sixteen]
        decide
      rw [same] at colon
      exact absurd colon (by decide)

end InetAddress

structure PacketDecisionInput where
  isTcpOrUdp : Bool
  hasValidUid : Bool
  destAddress : InetAddress
  destPort : Nat
  perAppPolicy : Policy
  isSystemApp : Bool
  defaultForwardPolicy : Policy
  systemAppsForwardPolicy : Policy
  allowMulticast : Bool
  allowDns : Bool
  hideDnsNotifications : Bool
  hideMulticastNotifications : Bool
  deriving DecidableEq, Repr

structure PacketDecision where
  appliedPolicy : Policy
  shouldForward : Bool
  shouldNotify : Bool
  deriving DecidableEq, Repr

namespace PolicyEngine

def isMulticastDest (addr : InetAddress) : Bool :=
  addr.isMulticastAddress || addr.hostAddress == "255.255.255.255"

/-- `resolveDefaultPolicy`. -/
def resolveDefaultPolicy (appliedPolicy defaultForwardPolicy : Policy)
    (shouldNotify : Bool) : PacketDecision where
  appliedPolicy := appliedPolicy
  shouldForward :=
    appliedPolicy == .allow ||
      (appliedPolicy == .default && defaultForwardPolicy == .allow)
  shouldNotify := shouldNotify

/-- `multicastPolicy` and `dnsPolicy`, by the setting for the traffic. -/
def trafficPolicy (defaultForwardPolicy : Policy) (allowTraffic : Bool) :
    Policy :=
  if defaultForwardPolicy == .block && !allowTraffic then
    .block
  else
    .allow

/-- The assignment of `appliedPolicy` in the branches for multicast and for
DNS. -/
def overrideFor (isTraffic : Bool) (policy appliedPolicy : Policy) :
    Policy :=
  if isTraffic then
    if appliedPolicy == .allow then .allow else policy
  else
    appliedPolicy

/-- The policy of a packet whose app the device does not know. -/
def unknownAppPolicy (input : PacketDecisionInput) : Policy :=
  if isMulticastDest input.destAddress then
    trafficPolicy input.defaultForwardPolicy input.allowMulticast
  else if input.destPort == 53 then
    trafficPolicy input.defaultForwardPolicy input.allowDns
  else
    .default

/-- The policy of a packet whose app the user has set no policy for. -/
def unsetAppPolicy (input : PacketDecisionInput) : Policy :=
  let appliedPolicy :=
    if input.defaultForwardPolicy != .allow && input.isSystemApp then
      input.systemAppsForwardPolicy
    else
      input.perAppPolicy
  let appliedPolicy :=
    overrideFor (isMulticastDest input.destAddress)
      (trafficPolicy input.defaultForwardPolicy input.allowMulticast)
      appliedPolicy
  overrideFor (input.destPort == 53)
    (trafficPolicy input.defaultForwardPolicy input.allowDns) appliedPolicy

/-- Whether the user is told of such a packet. -/
def unsetAppNotify (input : PacketDecisionInput) : Bool :=
  let isDnsNotificationHidden :=
    input.defaultForwardPolicy == .allow && input.destPort == 53 &&
      input.hideDnsNotifications
  let isMulticastNotificationHidden :=
    input.defaultForwardPolicy == .allow &&
      isMulticastDest input.destAddress && input.hideMulticastNotifications
  !isDnsNotificationHidden && !isMulticastNotificationHidden

/-- `decide`. -/
def decide (input : PacketDecisionInput) : PacketDecision :=
  if !input.isTcpOrUdp then
    resolveDefaultPolicy .default input.defaultForwardPolicy false
  else if !input.hasValidUid then
    resolveDefaultPolicy (unknownAppPolicy input)
      input.defaultForwardPolicy false
  else if input.perAppPolicy == .default then
    resolveDefaultPolicy (unsetAppPolicy input) input.defaultForwardPolicy
      (unsetAppNotify input)
  else
    resolveDefaultPolicy input.perAppPolicy input.defaultForwardPolicy false

/-- Multicast or DNS is let through where the default policy does not block
it, or the user has allowed it. -/
def TrafficPasses (defaultForwardPolicy : Policy) (allowTraffic : Bool) :
    Prop :=
  defaultForwardPolicy ≠ .block ∨ allowTraffic = true

def MulticastPasses (input : PacketDecisionInput) : Prop :=
  isMulticastDest input.destAddress = true ∧
    TrafficPasses input.defaultForwardPolicy input.allowMulticast

def DnsPasses (input : PacketDecisionInput) : Prop :=
  input.destPort = 53 ∧
    TrafficPasses input.defaultForwardPolicy input.allowDns

/-- What an app without a policy of its own may send. -/
def UnsetAppPasses (input : PacketDecisionInput) : Prop :=
  input.defaultForwardPolicy = .allow ∨
    input.isSystemApp = true ∧ input.systemAppsForwardPolicy = .allow ∨
      MulticastPasses input ∨ DnsPasses input

/-- What an app the device does not know may send: the setting for DNS does
not speak for multicast. -/
def UnknownAppPasses (input : PacketDecisionInput) : Prop :=
  input.defaultForwardPolicy = .allow ∨ MulticastPasses input ∨
    isMulticastDest input.destAddress = false ∧ DnsPasses input

/-- The rule `decide` carries out. -/
def Passes (input : PacketDecisionInput) : Prop :=
  if input.isTcpOrUdp = false then
    input.defaultForwardPolicy = .allow
  else if input.hasValidUid = false then
    UnknownAppPasses input
  else
    input.perAppPolicy = .allow ∨
      input.perAppPolicy = .default ∧ UnsetAppPasses input

section Rule

variable {policy appliedPolicy defaultForwardPolicy : Policy}
  {isTraffic allowTraffic shouldNotify : Bool}
  {input : PacketDecisionInput}

private theorem resolveDefaultPolicy_forwards :
    (resolveDefaultPolicy appliedPolicy defaultForwardPolicy
          shouldNotify).shouldForward = true ↔
      appliedPolicy = .allow ∨
        appliedPolicy = .default ∧ defaultForwardPolicy = .allow := by
  simp [resolveDefaultPolicy]

private theorem trafficPolicy_allow :
    trafficPolicy defaultForwardPolicy allowTraffic = .allow ↔
      TrafficPasses defaultForwardPolicy allowTraffic := by
  rw [trafficPolicy, TrafficPasses]
  cases defaultForwardPolicy <;> cases allowTraffic <;> simp

private theorem trafficPolicy_ne_default :
    trafficPolicy defaultForwardPolicy allowTraffic ≠ .default := by
  rw [trafficPolicy]
  split <;> simp

private theorem overrideFor_allow :
    overrideFor isTraffic policy appliedPolicy = .allow ↔
      appliedPolicy = .allow ∨ isTraffic = true ∧ policy = .allow := by
  rw [overrideFor]
  cases isTraffic <;> cases appliedPolicy <;> simp

/-- Where the default policy lets traffic pass nothing is decided by it
alone. -/
private theorem trafficPasses_of_allow
    (allow : defaultForwardPolicy = .allow) :
    TrafficPasses defaultForwardPolicy allowTraffic := by
  left
  rw [allow]
  simp

private theorem unsetAppPolicy_allow (unset : input.perAppPolicy = .default) :
    unsetAppPolicy input = .allow ↔
      (input.defaultForwardPolicy ≠ .allow ∧ input.isSystemApp = true ∧
          input.systemAppsForwardPolicy = .allow) ∨
        MulticastPasses input ∨ DnsPasses input := by
  simp only [unsetAppPolicy, overrideFor_allow, trafficPolicy_allow,
    MulticastPasses, DnsPasses, beq_iff_eq]
  rw [or_assoc]
  apply or_congr_left
  split
  case isTrue system =>
    obtain ⟨strict, isSystem⟩ := Bool.and_eq_true_iff.mp system
    simp [bne_iff_ne.mp strict, isSystem]
  case isFalse other =>
    rw [unset]
    refine iff_of_false (by simp) ?_
    rintro ⟨strict, isSystem, -⟩
    exact other (by simp [strict, isSystem])

/-- Without a policy of its own an app is only blocked by a default policy
that does not allow. -/
private theorem unsetAppPolicy_of_allow
    (unset : input.perAppPolicy = .default)
    (allow : input.defaultForwardPolicy = .allow) :
    unsetAppPolicy input = .allow ∨ unsetAppPolicy input = .default := by
  have traffic (allowTraffic : Bool) :
      trafficPolicy .allow allowTraffic = .allow := rfl
  simp only [unsetAppPolicy, overrideFor, allow, unset, traffic]
  cases isMulticastDest input.destAddress <;>
    cases input.destPort == 53 <;> simp

private theorem unsetApp_forwards (unset : input.perAppPolicy = .default) :
    (resolveDefaultPolicy (unsetAppPolicy input)
          input.defaultForwardPolicy shouldNotify).shouldForward = true ↔
      UnsetAppPasses input := by
  rw [resolveDefaultPolicy_forwards, UnsetAppPasses]
  by_cases allow : input.defaultForwardPolicy = .allow
  · refine iff_of_true ?_ (Or.inl allow)
    rcases unsetAppPolicy_of_allow unset allow with applied | applied
    · exact Or.inl applied
    · exact Or.inr ⟨applied, allow⟩
  · rw [unsetAppPolicy_allow unset]
    simp [allow]

private theorem unknownApp_forwards :
    (resolveDefaultPolicy (unknownAppPolicy input)
          input.defaultForwardPolicy shouldNotify).shouldForward = true ↔
      UnknownAppPasses input := by
  rw [resolveDefaultPolicy_forwards, unknownAppPolicy, UnknownAppPasses,
    MulticastPasses, DnsPasses]
  by_cases isMulticast : isMulticastDest input.destAddress = true
  · rw [if_pos isMulticast, trafficPolicy_allow]
    have undecided :
        trafficPolicy input.defaultForwardPolicy input.allowMulticast ≠
          .default :=
      trafficPolicy_ne_default
    simp only [isMulticast, undecided, true_and, false_and, or_false,
      Bool.true_eq_false]
    exact (or_iff_right_of_imp trafficPasses_of_allow).symm
  · rw [if_neg isMulticast]
    have unicast := Bool.eq_false_of_not_eq_true isMulticast
    by_cases isDns : input.destPort = 53
    · rw [if_pos (beq_iff_eq.mpr isDns), trafficPolicy_allow]
      have undecided :
          trafficPolicy input.defaultForwardPolicy input.allowDns ≠
            .default :=
        trafficPolicy_ne_default
      simp only [unicast, isDns, undecided, true_and, false_and, or_false,
        false_or, Bool.false_eq_true]
      exact (or_iff_right_of_imp trafficPasses_of_allow).symm
    · rw [if_neg (by simpa using isDns)]
      simp [unicast, isDns]

/-- `decide` forwards what may pass, and nothing else. -/
theorem decide_forwards_iff :
    (decide input).shouldForward = true ↔ Passes input := by
  rw [decide, Passes]
  cases input.isTcpOrUdp with
  | false =>
      simp only [Bool.not_false, if_true]
      rw [resolveDefaultPolicy_forwards]
      simp
  | true =>
      simp only [Bool.not_true, Bool.false_eq_true, if_false,
        Bool.true_eq_false]
      cases input.hasValidUid with
      | false =>
          simp only [Bool.not_false, if_true]
          exact unknownApp_forwards
      | true =>
          simp only [Bool.not_true, Bool.false_eq_true, if_false,
            Bool.true_eq_false]
          by_cases unset : input.perAppPolicy = .default
          · rw [if_pos (beq_iff_eq.mpr unset), unsetApp_forwards unset]
            simp [unset]
          · rw [if_neg (by simpa using unset),
              resolveDefaultPolicy_forwards]
            simp [unset]

/-- The app's own policy decides alone, and nobody is told. -/
theorem decide_of_set (transport : input.isTcpOrUdp = true)
    (known : input.hasValidUid = true)
    (set : input.perAppPolicy ≠ .default) :
    decide input =
      ⟨input.perAppPolicy, input.perAppPolicy == .allow, false⟩ := by
  rw [decide, transport, known]
  cases chosen : input.perAppPolicy with
  | default => exact absurd chosen set
  | block => rfl
  | allow => rfl

/-- The user is told of packets of apps he has set no policy for. -/
theorem unset_of_notify (notified : (decide input).shouldNotify = true) :
    input.isTcpOrUdp = true ∧ input.hasValidUid = true ∧
      input.perAppPolicy = .default := by
  rw [decide] at notified
  split at notified
  case isTrue other => exact absurd notified Bool.false_ne_true
  case isFalse transport =>
    split at notified
    case isTrue unknown => exact absurd notified Bool.false_ne_true
    case isFalse known =>
      split at notified
      case isTrue unset =>
        exact
          ⟨by simpa using transport, by simpa using known,
            beq_iff_eq.mp unset⟩
      case isFalse set => exact absurd notified Bool.false_ne_true

end Rule

/-- From the strictest policy to the most lenient. -/
def leniency : Policy → Nat
  | .block => 0
  | .default => 1
  | .allow => 2

private theorem leniency_injective : Function.Injective leniency := by
  intro policy other same
  cases policy <;> cases other <;> first | rfl | cases same

instance : PartialOrder Policy :=
  PartialOrder.lift leniency leniency_injective

private theorem allow_of_le {policy other : Policy} (le : policy ≤ other)
    (allow : policy = .allow) : other = .allow := by
  have rank : leniency policy ≤ leniency other := le
  cases other <;> simp_all [leniency]

private theorem ne_block_of_le {policy other : Policy} (le : policy ≤ other)
    (passes : policy ≠ .block) : other ≠ .block := by
  have rank : leniency policy ≤ leniency other := le
  cases policy <;> cases other <;> simp_all [leniency]

/-- The same packet under settings none of which is more lenient.  What is
set about notifications does not matter. -/
structure Stricter (strict lenient : PacketDecisionInput) : Prop where
  isTcpOrUdp : strict.isTcpOrUdp = lenient.isTcpOrUdp
  hasValidUid : strict.hasValidUid = lenient.hasValidUid
  destAddress : strict.destAddress = lenient.destAddress
  destPort : strict.destPort = lenient.destPort
  isSystemApp : strict.isSystemApp = lenient.isSystemApp
  perAppPolicy : strict.perAppPolicy ≤ lenient.perAppPolicy
  defaultForwardPolicy :
    strict.defaultForwardPolicy ≤ lenient.defaultForwardPolicy
  systemAppsForwardPolicy :
    strict.systemAppsForwardPolicy ≤ lenient.systemAppsForwardPolicy
  allowMulticast : strict.allowMulticast ≤ lenient.allowMulticast
  allowDns : strict.allowDns ≤ lenient.allowDns

section Monotone

variable {strict lenient : PacketDecisionInput}

theorem TrafficPasses.mono {policy other : Policy}
    {allowed alsoAllowed : Bool}
    (passes : TrafficPasses policy allowed) (le : policy ≤ other)
    (allowedLe : allowed ≤ alsoAllowed) :
    TrafficPasses other alsoAllowed := by
  rcases passes with default | set
  · exact Or.inl (ne_block_of_le le default)
  · exact Or.inr (Bool.le_iff_imp.mp allowedLe set)

theorem MulticastPasses.mono (passes : MulticastPasses strict)
    (stricter : Stricter strict lenient) : MulticastPasses lenient :=
  ⟨stricter.destAddress ▸ passes.1,
    passes.2.mono stricter.defaultForwardPolicy stricter.allowMulticast⟩

theorem DnsPasses.mono (passes : DnsPasses strict)
    (stricter : Stricter strict lenient) : DnsPasses lenient :=
  ⟨stricter.destPort ▸ passes.1,
    passes.2.mono stricter.defaultForwardPolicy stricter.allowDns⟩

theorem UnsetAppPasses.mono (passes : UnsetAppPasses strict)
    (stricter : Stricter strict lenient) : UnsetAppPasses lenient := by
  rcases passes with default | ⟨isSystem, system⟩ | multicast | dns
  · exact Or.inl (allow_of_le stricter.defaultForwardPolicy default)
  · refine Or.inr (Or.inl ⟨stricter.isSystemApp ▸ isSystem, ?_⟩)
    exact allow_of_le stricter.systemAppsForwardPolicy system
  · exact Or.inr (Or.inr (Or.inl (multicast.mono stricter)))
  · exact Or.inr (Or.inr (Or.inr (dns.mono stricter)))

theorem UnknownAppPasses.mono (passes : UnknownAppPasses strict)
    (stricter : Stricter strict lenient) : UnknownAppPasses lenient := by
  rcases passes with default | multicast | ⟨unicast, dns⟩
  · exact Or.inl (allow_of_le stricter.defaultForwardPolicy default)
  · exact Or.inr (Or.inl (multicast.mono stricter))
  · refine Or.inr (Or.inr ⟨?_, dns.mono stricter⟩)
    exact stricter.destAddress ▸ unicast

/-- The policy of the app: unset or allowing stays so, or is made to allow.
-/
private theorem knownApp_mono (stricter : Stricter strict lenient)
    (passes :
      strict.perAppPolicy = .allow ∨
        strict.perAppPolicy = .default ∧ UnsetAppPasses strict) :
    lenient.perAppPolicy = .allow ∨
      lenient.perAppPolicy = .default ∧ UnsetAppPasses lenient := by
  rcases passes with allow | ⟨unset, passes⟩
  · exact Or.inl (allow_of_le stricter.perAppPolicy allow)
  · have notBlocked :=
      ne_block_of_le stricter.perAppPolicy (by rw [unset]; simp)
    cases chosen : lenient.perAppPolicy with
    | block => exact absurd chosen notBlocked
    | default => exact Or.inr ⟨rfl, passes.mono stricter⟩
    | allow => exact Or.inl rfl

/-- A packet that is forwarded is still forwarded when settings are made more
lenient, so making one stricter never lets a packet through. -/
theorem decide_mono (stricter : Stricter strict lenient)
    (forwarded : (decide strict).shouldForward = true) :
    (decide lenient).shouldForward = true := by
  rw [decide_forwards_iff, Passes] at forwarded ⊢
  rw [← stricter.isTcpOrUdp, ← stricter.hasValidUid]
  split
  case isTrue other =>
    rw [if_pos other] at forwarded
    exact allow_of_le stricter.defaultForwardPolicy forwarded
  case isFalse transport =>
    rw [if_neg transport] at forwarded
    split
    case isTrue unknown =>
      rw [if_pos unknown] at forwarded
      exact UnknownAppPasses.mono forwarded stricter
    case isFalse known =>
      rw [if_neg known] at forwarded
      exact knownApp_mono stricter forwarded

end Monotone

/-- A DNS query of an app without a policy, when everything is blocked. -/
def blockedQuery : PacketDecisionInput where
  isTcpOrUdp := true
  hasValidUid := true
  destAddress := .v4 [192, 168, 1, 1]
  destPort := 53
  perAppPolicy := .default
  isSystemApp := false
  defaultForwardPolicy := .block
  systemAppsForwardPolicy := .block
  allowMulticast := false
  allowDns := false
  hideDnsNotifications := false
  hideMulticastNotifications := false

/-- The same query once DNS is allowed. -/
def allowedQuery : PacketDecisionInput :=
  { blockedQuery with allowDns := true }

theorem decide_mono_allowedQuery :
    (decide blockedQuery).shouldForward = false ∧
      (decide allowedQuery).shouldForward = true ∧
      (decide
          { allowedQuery with
            systemAppsForwardPolicy := .allow
            hideDnsNotifications := true }).shouldForward =
        true := by
  have stricter :
      Stricter allowedQuery
        { allowedQuery with
          systemAppsForwardPolicy := .allow
          hideDnsNotifications := true } :=
    ⟨rfl, rfl, rfl, rfl, rfl, le_refl _, le_refl _, Nat.zero_le _,
      le_refl _, le_refl _⟩
  have forwarded : (decide allowedQuery).shouldForward = true := by rfl
  exact ⟨by rfl, forwarded, decide_mono stricter forwarded⟩

end PolicyEngine

end LanShield.VpnService
