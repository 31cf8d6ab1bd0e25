import LanShield.Library.Purging
import LanShield.VpnService.PacketFirewall

/-!
# Blocked apps leave no trace

While the user blocks an app, its packets change nothing for anybody else:
the engine, the notifications and the settings end as if they had never been
sent, and so do the flows of the other apps but for what deep packet
inspection says of them, which remembers the packets of all apps.
-/

namespace LanShield.VpnService

open LanShield.Library LanShield.Java
open LanShield.BackendSync (Policy)

/-- The app of a packet, where the loop gets as far as to its lookup. -/
def FirewallEvent.app : FirewallEvent → Option PacketApp
  | .packet packetBuffer answers =>
      match IPHeader.ofPacket packetBuffer with
      | .ok (packetHeader, _) => packetApp packetHeader answers
      | .error _ => none
  | .shouldForwardPacket | .observe _ | .notification _ | .proceed _
  | .select _ _ => none

/-- A packet of the package. -/
def FirewallEvent.IsFrom (packageName : String) (event : FirewallEvent) :
    Prop :=
  event.app = some ⟨packageName, true⟩

instance (packageName : String) :
    DecidablePred (FirewallEvent.IsFrom packageName) :=
  fun event => inferInstanceAs (Decidable (event.app = _))

/-- Without what deep packet inspection says. -/
def PacketAnswers.withoutDpi (answers : PacketAnswers) : PacketAnswers :=
  { answers with doDpi := none }

def FirewallEvent.withoutDpi : FirewallEvent → FirewallEvent
  | .packet packetBuffer answers =>
      .packet packetBuffer answers.withoutDpi
  | event => event

def BlockedFlow.withoutDpi (flow : BlockedFlow) : BlockedFlow :=
  { flow with dpiReport := none, dpiProtocol := none }

def Judging.withoutDpi (judging : Judging) : Judging :=
  { judging with answers := judging.answers.withoutDpi }

def Firewall.withoutDpi (firewall : Firewall) : Firewall :=
  { firewall with
    blocked := firewall.blocked.map BlockedFlow.withoutDpi
    judging := firewall.judging.map Judging.withoutDpi }

/-- The package stays blocked, and no other packet loop tells of it. -/
def FirewallEvent.KeepsBlocked (packageName : String) :
    FirewallEvent → Prop
  | .observe (.accessPolicies policies) =>
      ForwardSettings.cacheOf policies packageName = some .block
  | .notification (.postNotification _ posted _ _) => posted ≠ packageName
  | .packet _ _ | .shouldForwardPacket | .observe _ | .notification _
  | .proceed _ | .select _ _ => True

/-- A packet is read only where the loop is at its `read`. -/
def FirewallEvent.Possible (firewall : Firewall) : FirewallEvent → Prop
  | .packet _ _ => firewall.Reads
  | .shouldForwardPacket | .observe _ | .notification _ | .proceed _
  | .select _ _ => True

instance (firewall : Firewall) :
    DecidablePred (FirewallEvent.Possible firewall)
  | .packet _ _ => inferInstanceAs (Decidable firewall.Reads)
  | .shouldForwardPacket => inferInstanceAs (Decidable True)
  | .observe _ => inferInstanceAs (Decidable True)
  | .notification _ => inferInstanceAs (Decidable True)
  | .proceed _ => inferInstanceAs (Decidable True)
  | .select _ _ => inferInstanceAs (Decidable True)

section Dpi

variable {platform : Platform}

private theorem blockedFlow_withoutDpi (packetHeader : IPHeader)
    (answers : PacketAnswers) (packageName : String) :
    blockedFlow packetHeader answers.withoutDpi packageName =
      (blockedFlow packetHeader answers packageName).withoutDpi := by
  have nothing : getDpiResult packetHeader answers.withoutDpi = none := by
    rw [getDpiResult]
    split
    · rfl
    · rfl
  rw [blockedFlow, blockedFlow, nothing]
  rfl

private theorem handleDecision_withoutDpi (judging : Judging)
    (firewall : Firewall) :
    firewall.withoutDpi.handleDecision platform judging.withoutDpi =
      (firewall.handleDecision platform judging).withoutDpi := by
  rw [Firewall.handleDecision, Firewall.handleDecision]
  have sameInput :
      decisionInput judging.withoutDpi.packetHeader judging.withoutDpi.app
          judging.withoutDpi.reads =
        decisionInput judging.packetHeader judging.app judging.reads := rfl
  rw [sameInput]
  split
  case isTrue forwarded => rfl
  case isFalse blocked =>
    simp only [Firewall.withoutDpi, List.map_append, List.map_cons,
      List.map_nil, ← blockedFlow_withoutDpi]
    rfl

private theorem handlePacket_withoutDpi (packetBuffer : ByteBuffer)
    (answers : PacketAnswers) (firewall : Firewall) :
    firewall.withoutDpi.handlePacket packetBuffer answers.withoutDpi =
      (firewall.handlePacket packetBuffer answers).withoutDpi := by
  rw [Firewall.handlePacket, Firewall.handlePacket]
  cases IPHeader.ofPacket packetBuffer with
  | error exception => rfl
  | ok result =>
      obtain ⟨packetHeader, after⟩ := result
      dsimp only
      have same :
          packetApp packetHeader answers.withoutDpi =
            packetApp packetHeader answers := rfl
      rw [same]
      cases packetApp packetHeader answers with
      | none => rfl
      | some app => rfl

private theorem reads_withoutDpi (firewall : Firewall) :
    firewall.withoutDpi.Reads ↔ firewall.Reads := by
  rw [Firewall.Reads, Firewall.Reads, Firewall.withoutDpi]
  dsimp only
  rw [Option.isNone_map]

/-- What deep packet inspection says gets nowhere but into the flows. -/
theorem step_withoutDpi (platform : Platform) (firewall : Firewall)
    (event : FirewallEvent) :
    firewall.withoutDpi.step platform event.withoutDpi =
      (firewall.step platform event).withoutDpi := by
  cases event with
  | packet packetBuffer answers =>
      by_cases reads : firewall.Reads
      · rw [FirewallEvent.withoutDpi, Firewall.step, Firewall.step,
          if_pos ((reads_withoutDpi firewall).mpr reads), if_pos reads]
        exact handlePacket_withoutDpi packetBuffer answers firewall
      · rw [FirewallEvent.withoutDpi, Firewall.step, Firewall.step,
          if_neg ((reads_withoutDpi firewall).not.mpr reads),
          if_neg reads]
  | shouldForwardPacket =>
      change
        firewall.withoutDpi.judge platform =
          (firewall.judge platform).withoutDpi
      rw [Firewall.judge, Firewall.judge]
      cases judged : firewall.judging with
      | none => simp [Firewall.withoutDpi, judged]
      | some judging =>
          have judged' :
              firewall.withoutDpi.judging = some judging.withoutDpi := by
            rw [Firewall.withoutDpi, judged]
            rfl
          rw [judged']
          dsimp only
          have unread : judging.withoutDpi.unread = judging.unread := rfl
          rw [unread]
          cases judging.unread with
          | nil => exact handleDecision_withoutDpi judging firewall
          | cons field later =>
              cases field with
              | isSystemApp => rfl
              | perAppPolicy | defaultForwardPolicy
              | systemAppsForwardPolicy | allowMulticast | allowDns
              | hideDnsNotifications | hideMulticastNotifications => rfl
  | observe observed => rfl
  | notification event => rfl
  | proceed answers => rfl
  | select ready id => rfl

end Dpi

/-- The same but for the metadata kept of one package. -/
structure Notifications.SameBut (packageName : String)
    (left right : Notifications) : Prop where
  manager : left.manager = right.manager
  sent : left.sent = right.sent
  launched : left.launched = right.launched
  chosen : left.chosen = right.chosen
  cache :
    ∀ other, other ≠ packageName →
      left.packageMetadataCache other = right.packageMetadataCache other

section Notifications

variable {contextPackage packageName : String}
  {left right : Notifications}

open Notifications

private theorem Notifications.SameBut.withCache
    (same : SameBut packageName left right)
    {cache otherCache : PackageMetadataCache}
    (agree :
      ∀ other, other ≠ packageName → cache other = otherCache other) :
    SameBut packageName { left with packageMetadataCache := cache }
      { right with packageMetadataCache := otherCache } :=
  ⟨same.manager, same.sent, same.launched, same.chosen, agree⟩

/-- A lookup for another package finds and keeps the same. -/
private theorem getPackageMetadata_agree
    {cache otherCache : PackageMetadataCache}
    (agree :
      ∀ other, other ≠ packageName → cache other = otherCache other)
    {looked : String} (different : looked ≠ packageName)
    (packageManager : InstalledPackages) :
    (getPackageMetadata looked packageManager cache).1 =
        (getPackageMetadata looked packageManager otherCache).1 ∧
      ∀ other, other ≠ packageName →
        (getPackageMetadata looked packageManager cache).2 other =
          (getPackageMetadata looked packageManager otherCache).2 other := by
  have own :=
    @getPackageMetadata_congr looked packageManager _ _
      (agree looked different)
  refine ⟨own.1, ?_⟩
  intro other otherDifferent
  by_cases sameName : other = looked
  · rw [sameName]
    exact own.2
  · rw [getPackageMetadata_other sameName, getPackageMetadata_other sameName]
    exact agree other otherDifferent

theorem Notifications.SameBut.post
    (same : SameBut packageName left right) {posted : String}
    (different : posted ≠ packageName) (packageManager : InstalledPackages)
    (appliedPolicy : Policy) (remotePeer : String) :
    SameBut packageName
      (left.step contextPackage
        (.postNotification packageManager posted appliedPolicy remotePeer))
      (right.step contextPackage
        (.postNotification packageManager posted appliedPolicy
          remotePeer)) := by
  have agree :=
    getPackageMetadata_agree same.cache different packageManager
  obtain ⟨manager, sent, launched, chosen, cache⟩ := same
  simp only [Notifications.step,
    LANShieldNotificationManager.postNotification, ← manager]
  cases left.manager.activeNotifications posted with
  | some active => exact ⟨rfl, sent, launched, chosen, cache⟩
  | none =>
      refine ⟨?_, sent, launched, chosen, agree.2⟩
      dsimp only
      rw [agree.1]

theorem Notifications.SameBut.press
    (same : SameBut packageName left right) (notificationId : Int)
    (action : NotificationAction) :
    SameBut packageName (press notificationId action left)
      (press notificationId action right) := by
  obtain ⟨manager, sent, launched, chosen, cache⟩ := same
  rw [Notifications.press, Notifications.press, ← manager]
  split
  case h_1 builder text lines shown =>
    rw [sendBroadcast, sendBroadcast, ← manager]
    cases left.manager.broadcasts (builder.pendingIntent action) with
    | none => exact ⟨manager, sent, launched, chosen, cache⟩
    | some intent =>
        refine ⟨rfl, ?_, launched, ?_, cache⟩
        · dsimp only
          rw [sent]
        · dsimp only
          rw [chosen]
  case h_2 => exact ⟨manager, sent, launched, chosen, cache⟩
  case h_3 => exact ⟨manager, sent, launched, chosen, cache⟩

theorem Notifications.SameBut.receive
    (same : SameBut packageName left right) :
    SameBut packageName (receive contextPackage left)
      (receive contextPackage right) := by
  obtain ⟨manager, sent, launched, chosen, cache⟩ := same
  rw [Notifications.receive, Notifications.receive, ← sent]
  cases waiting : left.sent with
  | nil => exact ⟨manager, sent, launched, chosen, cache⟩
  | cons intent later =>
      dsimp only
      rw [receiveIntent, receiveIntent]
      split
      · refine ⟨?_, rfl, ?_, chosen, cache⟩
        · dsimp only
          rw [manager]
        · dsimp only
          rw [launched]
      · exact ⟨manager, rfl, launched, chosen, cache⟩
      · exact ⟨manager, rfl, launched, chosen, cache⟩
      · exact ⟨manager, rfl, launched, chosen, cache⟩

/-- A step for another package. -/
theorem Notifications.SameBut.step
    (same : SameBut packageName left right) {event : NotificationEvent}
    (keeps : (FirewallEvent.notification event).KeepsBlocked packageName) :
    SameBut packageName (left.step contextPackage event)
      (right.step contextPackage event) := by
  cases event with
  | postNotification packageManager posted appliedPolicy remotePeer =>
      exact same.post keeps packageManager appliedPolicy remotePeer
  | postServiceErrorNotification title text =>
      refine ⟨?_, same.sent, same.launched, same.chosen, same.cache⟩
      simp only [Notifications.step, same.manager]
  | refuseStart title text =>
      refine ⟨?_, same.sent, same.launched, same.chosen, same.cache⟩
      simp only [Notifications.step, same.manager]
  | press notificationId action => exact same.press notificationId action
  | cancel notificationId =>
      refine ⟨?_, same.sent, same.launched, same.chosen, same.cache⟩
      simp only [Notifications.step, same.manager]
  | receive => exact same.receive

end Notifications

/-- The flows of the other apps. -/
def Firewall.otherFlows (packageName : String) (firewall : Firewall) :
    List BlockedFlow :=
  firewall.blocked.filter fun flow => flow.appId ≠ packageName

/-- A packet of the package is judged, and found blocked. -/
structure Judging.Blocked (packageName : String) (judging : Judging) :
    Prop where
  app : judging.app = ⟨packageName, true⟩
  found :
    packetApp judging.packetHeader judging.answers =
      some ⟨packageName, true⟩
  perAppPolicy :
    .perAppPolicy ∉ judging.unread → judging.reads.perAppPolicy = .block

/-- Both judge the same packet of another app or none, or only the first
judges one of the package. -/
inductive JudgeAlike (packageName : String) :
    Option Judging → Option Judging → Prop where
  | neither : JudgeAlike packageName none none
  | other (judging : Judging)
      (different : judging.app ≠ ⟨packageName, true⟩) :
      JudgeAlike packageName (some judging) (some judging)
  | own (judging : Judging) (blocked : judging.Blocked packageName) :
      JudgeAlike packageName (some judging) none

/-- The same for all other apps, while the package is blocked. -/
structure Firewall.SameBut (packageName : String) (left right : Firewall) :
    Prop where
  isBlocked : left.settings.accessPoliciesCache packageName = some .block
  settings : left.settings = right.settings
  engine : left.engine = right.engine
  notifications : left.notifications.SameBut packageName right.notifications
  otherFlows : left.otherFlows packageName = right.otherFlows packageName
  judging : JudgeAlike packageName left.judging right.judging

section Firewall

variable {packageName : String} {platform : Platform}
  {left right firewall : Firewall} {packetHeader : IPHeader}
  {answers : PacketAnswers} {app : PacketApp}

private theorem otherFlows_append (flow : BlockedFlow)
    (flows : List BlockedFlow) :
    (flows ++ [flow]).filter (fun flow => flow.appId ≠ packageName) =
      flows.filter (fun flow => flow.appId ≠ packageName) ++
        if flow.appId ≠ packageName then [flow] else [] := by
  rw [List.filter_append]
  congr 1
  by_cases own : flow.appId = packageName
  · simp [own]
  · simp [own]

/-- Only the app of a TCP or UDP packet is found. -/
private theorem isTcpOrUdp_of_packetApp
    (found : packetApp packetHeader answers = some ⟨packageName, true⟩) :
    packetHeader.isTcpOrUdp = true := by
  rw [packetApp] at found
  split at found
  case isTrue transport => exact transport
  case isFalse other => cases Option.some.inj found

/-- The lookup of the metadata for an app that is not the package. -/
private theorem isSystemApp_agree
    {cache otherCache : PackageMetadataCache}
    (agree :
      ∀ other, other ≠ packageName → cache other = otherCache other)
    (different : app ≠ ⟨packageName, true⟩)
    (packageManager : InstalledPackages) :
    (isSystemApp app packageManager cache).1 =
        (isSystemApp app packageManager otherCache).1 ∧
      ∀ other, other ≠ packageName →
        (isSystemApp app packageManager cache).2 other =
          (isSystemApp app packageManager otherCache).2 other := by
  obtain ⟨appPackageName, hasValidUid⟩ := app
  cases hasValidUid with
  | false => exact ⟨rfl, agree⟩
  | true =>
      have otherName : appPackageName ≠ packageName := by
        intro equal
        exact different (by rw [equal])
      have looked := getPackageMetadata_agree agree otherName packageManager
      exact ⟨congrArg PackageMetadata.isSystem looked.1, looked.2⟩

theorem Firewall.SameBut.readsNow (same : left.SameBut packageName right)
    (different : app ≠ ⟨packageName, true⟩)
    (packageManager : InstalledPackages) :
    left.readsNow app packageManager = right.readsNow app packageManager := by
  rw [Firewall.readsNow, Firewall.readsNow, same.settings,
    (isSystemApp_agree same.notifications.cache different packageManager).1]

/-- One field is read for a packet of another app. -/
theorem Firewall.SameBut.readField (same : left.SameBut packageName right)
    {judging : Judging} (different : judging.app ≠ ⟨packageName, true⟩)
    (field : DecisionField) (later : List DecisionField) :
    (left.readField judging field later).SameBut packageName
      (right.readField judging field later) := by
  refine
    { isBlocked := same.isBlocked
      settings := same.settings
      engine := same.engine
      notifications := ?_
      otherFlows := same.otherFlows
      judging := ?_ }
  · rw [Firewall.readField, Firewall.readField]
    dsimp only
    rw [Firewall.keepMetadata, Firewall.keepMetadata]
    split
    · exact
        same.notifications.withCache
          (isSystemApp_agree same.notifications.cache different _).2
    · exact same.notifications
  · rw [Firewall.readField, Firewall.readField,
      same.readsNow different judging.answers.packageManager]
    exact JudgeAlike.other _ different

/-- The decision on a packet of another app. -/
theorem Firewall.SameBut.handleDecision
    (same : left.SameBut packageName right) {judging : Judging}
    (different : judging.app ≠ ⟨packageName, true⟩) :
    (left.handleDecision platform judging).SameBut packageName
      (right.handleDecision platform judging) := by
  have notified :
      (notifyDecision platform judging.packetHeader judging.answers
            judging.app
            (PolicyEngine.decide
              (decisionInput judging.packetHeader judging.app
                judging.reads))
            left.notifications).SameBut packageName
        (notifyDecision platform judging.packetHeader judging.answers
          judging.app
          (PolicyEngine.decide
            (decisionInput judging.packetHeader judging.app judging.reads))
          right.notifications) := by
    rw [notifyDecision, notifyDecision]
    split
    case isTrue notifies =>
      have valid : judging.app.hasValidUid = true :=
        (PolicyEngine.unset_of_notify notifies).2.1
      apply same.notifications.post
      intro equal
      apply different
      rw [← equal, ← valid]
    case isFalse quiet => exact same.notifications
  rw [Firewall.handleDecision, Firewall.handleDecision]
  split
  case isTrue forwarded =>
    exact
      { isBlocked := same.isBlocked
        settings := same.settings
        engine := by rw [same.engine]
        notifications := notified
        otherFlows := same.otherFlows
        judging := .neither }
  case isFalse blocked =>
    refine
      { isBlocked := same.isBlocked
        settings := same.settings
        engine := same.engine
        notifications := notified
        otherFlows := ?_
        judging := .neither }
    have otherFlows := same.otherFlows
    rw [Firewall.otherFlows, Firewall.otherFlows] at otherFlows ⊢
    rw [otherFlows_append, otherFlows_append, otherFlows]

/-- One field is read for a packet of the package. -/
theorem Firewall.SameBut.readOwnField
    (same : left.SameBut packageName right) {judging : Judging}
    (blocked : judging.Blocked packageName) {field : DecisionField}
    {later : List DecisionField}
    (unread : judging.unread = field :: later)
    (idle : right.judging = none) :
    (left.readField judging field later).SameBut packageName right := by
  refine
    { isBlocked := same.isBlocked
      settings := same.settings
      engine := same.engine
      notifications := ?_
      otherFlows := same.otherFlows
      judging := ?_ }
  · rw [Firewall.readField]
    dsimp only
    rw [Firewall.keepMetadata]
    split
    · refine same.notifications.withCache ?_
      intro other different
      rw [isSystemApp, blocked.app]
      exact
        (getPackageMetadata_other different).trans
          (same.notifications.cache other different)
    · exact same.notifications
  · rw [idle]
    refine JudgeAlike.own _ ⟨blocked.app, blocked.found, ?_⟩
    intro known
    by_cases policy : DecisionField.perAppPolicy = field
    · subst policy
      have isBlocked := same.isBlocked
      change
        (left.readsNow judging.app
            judging.answers.packageManager).perAppPolicy =
          .block
      rw [blocked.app]
      change
        (left.settings.accessPoliciesCache packageName).getD .default =
          .block
      rw [isBlocked]
      rfl
    · have before : DecisionField.perAppPolicy ∉ judging.unread := by
        rw [unread]
        exact fun member => (List.mem_cons.mp member).elim policy known
      have kept :=
        DecisionField.agrees_read_other policy
          (left.readsNow judging.app judging.answers.packageManager)
          judging.reads
      exact Eq.trans kept (blocked.perAppPolicy before)

/-- A packet of the package is recorded, and nothing else is done. -/
theorem Firewall.SameBut.handleOwnDecision
    (same : left.SameBut packageName right) {judging : Judging}
    (blocked : judging.Blocked packageName) (complete : judging.unread = [])
    (idle : right.judging = none) :
    (left.handleDecision platform judging).SameBut packageName right := by
  have policy : judging.reads.perAppPolicy = .block := by
    apply blocked.perAppPolicy
    rw [complete]
    exact List.not_mem_nil
  have decided :
      PolicyEngine.decide
          (decisionInput judging.packetHeader judging.app judging.reads) =
        ⟨.block, false, false⟩ := by
    have inputPolicy :
        (decisionInput judging.packetHeader judging.app
            judging.reads).perAppPolicy =
          .block := policy
    rw [PolicyEngine.decide_of_set (isTcpOrUdp_of_packetApp blocked.found)
      (by rw [blocked.app]; rfl) (by rw [inputPolicy]; simp), inputPolicy]
    rfl
  rw [Firewall.handleDecision, decided]
  refine
    { isBlocked := same.isBlocked
      settings := same.settings
      engine := same.engine
      notifications := same.notifications
      otherFlows := ?_
      judging := by rw [idle]; exact .neither }
  have otherFlows := same.otherFlows
  rw [Firewall.otherFlows] at otherFlows ⊢
  rw [if_neg Bool.false_ne_true, otherFlows_append, otherFlows, blocked.app]
  simp [blockedFlow]

/-- The next step of `shouldForwardPacket`. -/
theorem Firewall.SameBut.judge (same : left.SameBut packageName right) :
    (left.judge platform).SameBut packageName (right.judge platform) := by
  have alike := same.judging
  generalize leftJudging : left.judging = leftJudged at alike
  generalize rightJudging : right.judging = rightJudged at alike
  rw [Firewall.judge, Firewall.judge, leftJudging, rightJudging]
  cases alike with
  | neither => exact same
  | other judging different =>
      dsimp only
      cases judging.unread with
      | nil => exact same.handleDecision different
      | cons field later => exact same.readField different field later
  | own judging blocked =>
      dsimp only
      cases unread : judging.unread with
      | nil => exact same.handleOwnDecision blocked unread rightJudging
      | cons field later =>
          exact same.readOwnField blocked unread rightJudging

/-- A packet of another app, or one that belongs to none. -/
theorem Firewall.SameBut.packet (same : left.SameBut packageName right)
    {packetBuffer : ByteBuffer} (reads : left.Reads)
    (other :
      ¬ (FirewallEvent.packet packetBuffer answers).IsFrom packageName) :
    (left.step platform (.packet packetBuffer answers)).SameBut packageName
      (right.step platform (.packet packetBuffer answers)) := by
  have idle : left.judging = none := Option.isNone_iff_eq_none.mp reads.2
  have alike := same.judging
  rw [idle] at alike
  generalize rightJudging : right.judging = rightJudged at alike
  cases alike
  have rightReads : right.Reads :=
    ⟨same.engine ▸ reads.1, Option.isNone_iff_eq_none.mpr rightJudging⟩
  rw [Firewall.step, Firewall.step, if_pos reads, if_pos rightReads]
  rw [FirewallEvent.IsFrom, FirewallEvent.app] at other
  rw [Firewall.handlePacket, Firewall.handlePacket]
  cases parsed : IPHeader.ofPacket packetBuffer with
  | error exception => exact same
  | ok result =>
      obtain ⟨packetHeader, after⟩ := result
      rw [parsed] at other
      dsimp only at other ⊢
      cases found : packetApp packetHeader answers with
      | none => exact same
      | some app =>
          have different : app ≠ ⟨packageName, true⟩ := by
            intro own
            exact other (by rw [found, own])
          exact
            { isBlocked := same.isBlocked
              settings := same.settings
              engine := same.engine
              notifications := same.notifications
              otherFlows := same.otherFlows
              judging := .other _ different }

theorem Firewall.SameBut.step (same : left.SameBut packageName right)
    {event : FirewallEvent} (keeps : event.KeepsBlocked packageName)
    (possible : event.Possible left) (other : ¬ event.IsFrom packageName) :
    (left.step platform event).SameBut packageName
      (right.step platform event) := by
  cases event with
  | packet packetBuffer answers => exact same.packet possible other
  | shouldForwardPacket => exact same.judge
  | observe observed =>
      refine
        { isBlocked := ?_
          settings := ?_
          engine := same.engine
          notifications := same.notifications
          otherFlows := same.otherFlows
          judging := same.judging }
      · cases observed with
        | accessPolicies policies => exact keeps
        | defaultForwardPolicy | systemAppsForwardPolicy | allowMulticast
        | allowDns | hideMulticastNotifications | hideDnsNotifications =>
            exact same.isBlocked
      · simp only [Firewall.step, same.settings]
  | notification event =>
      exact { same with notifications := same.notifications.step keeps }
  | proceed answers =>
      exact
        { same with
          engine := by simp only [Firewall.step, same.engine] }
  | select ready id =>
      exact
        { same with
          engine := by simp only [Firewall.step, same.engine] }

/-- A packet of the blocked app changes nothing for the others. -/
theorem Firewall.SameBut.unseen (same : left.SameBut packageName right)
    {event : FirewallEvent} (possible : event.Possible left)
    (own : event.IsFrom packageName) :
    (left.step platform event).SameBut packageName right := by
  cases event with
  | packet packetBuffer answers =>
      have reads : left.Reads := possible
      have idle : left.judging = none :=
        Option.isNone_iff_eq_none.mp reads.2
      have alike := same.judging
      rw [idle] at alike
      generalize rightJudging : right.judging = rightJudged at alike
      cases alike
      rw [Firewall.step, if_pos reads]
      rw [FirewallEvent.IsFrom, FirewallEvent.app] at own
      rw [Firewall.handlePacket]
      cases parsed : IPHeader.ofPacket packetBuffer with
      | error exception =>
          rw [parsed] at own
          cases own
      | ok result =>
          obtain ⟨packetHeader, after⟩ := result
          rw [parsed] at own
          dsimp only at own ⊢
          rw [own]
          refine
            { isBlocked := same.isBlocked
              settings := same.settings
              engine := same.engine
              notifications := same.notifications
              otherFlows := same.otherFlows
              judging := ?_ }
          rw [rightJudging]
          refine JudgeAlike.own _ ⟨rfl, own, ?_⟩
          intro known
          exact absurd (DecisionField.mem_inOrder _) known
  | shouldForwardPacket | observe | notification | proceed | select =>
      cases own

private theorem isFrom_withoutDpi (event : FirewallEvent) :
    event.withoutDpi.IsFrom packageName ↔ event.IsFrom packageName := by
  cases event with
  | packet packetBuffer answers => exact Iff.rfl
  | shouldForwardPacket | observe | notification | proceed | select =>
      exact Iff.rfl

private theorem possible_withoutDpi (event : FirewallEvent) :
    event.withoutDpi.Possible firewall.withoutDpi ↔
      event.Possible firewall := by
  cases event with
  | packet packetBuffer answers => exact reads_withoutDpi firewall
  | shouldForwardPacket | observe | notification | proceed | select =>
      exact Iff.rfl

private theorem keepsBlocked_withoutDpi (event : FirewallEvent) :
    event.withoutDpi.KeepsBlocked packageName ↔
      event.KeepsBlocked packageName := by
  cases event with
  | packet packetBuffer answers => exact Iff.rfl
  | shouldForwardPacket | observe | notification | proceed | select =>
      exact Iff.rfl

/-- A run in which an app stays blocked ends, for everything but that app's
own flows and metadata and what deep packet inspection says, where a run
without its packets ends. -/
theorem purge_blocked (platform : Platform) (packageName : String)
    (firewall : Firewall) (events others : List FirewallEvent)
    (isBlocked :
      firewall.settings.accessPoliciesCache packageName = some .block)
    (idle : firewall.judging = none)
    (keeps : ∀ event ∈ events, event.KeepsBlocked packageName)
    (possible :
      StepsMeet (Firewall.step platform)
        (fun firewall event => event.Possible firewall) firewall events)
    (same :
      others.map FirewallEvent.withoutDpi =
        (purge (FirewallEvent.IsFrom packageName) events).map
          FirewallEvent.withoutDpi) :
    (run (Firewall.step platform) firewall
        events).withoutDpi.SameBut packageName
      (run (Firewall.step platform) firewall others).withoutDpi := by
  have itself :
      firewall.withoutDpi.SameBut packageName firewall.withoutDpi := by
    refine
      { isBlocked := isBlocked
        settings := rfl
        engine := rfl
        notifications := ⟨rfl, rfl, rfl, rfl, fun _ _ => rfl⟩
        otherFlows := rfl
        judging := ?_ }
    rw [Firewall.withoutDpi, idle]
    exact .neither
  have respects := step_withoutDpi platform
  have admissible :
      StepsMeet (Firewall.step platform)
        (fun firewall event =>
          event.KeepsBlocked packageName ∧ event.Possible firewall)
        firewall.withoutDpi (events.map FirewallEvent.withoutDpi) := by
    refine stepsMeet_view respects ?_ (possible.and_forall keeps)
    rintro state event ⟨keeps, possible⟩
    exact
      ⟨(keepsBlocked_withoutDpi event).mpr keeps,
        (possible_withoutDpi event).mpr possible⟩
  rw [← run_view respects, ← run_view respects, same,
    map_purge isFrom_withoutDpi]
  refine
    @run_purge _ _ (Firewall.step platform)
      (Firewall.SameBut packageName) (FirewallEvent.IsFrom packageName) _
      _ ?_ ?_ _ _ _ admissible itself
  · intro left right event meets own same
    exact same.unseen meets.2 own
  · intro left right event meets other same
    exact same.step meets.1 meets.2 other

/-- The user has blocked the package `a`. -/
def blocksA : Observed :=
  .accessPolicies [⟨"a", .block, false⟩]

/-- The answers for a packet of the package, with what deep packet inspection
calls it. -/
def inspectedAs (packageName : String) (protocolName : Option String) :
    PacketAnswers :=
  { ownedBy packageName with doDpi := some ⟨none, protocolName⟩ }

/-- A query, from its arrival to the decision. -/
def judgedQuery (answers : PacketAnswers) : List FirewallEvent :=
  .packet udpQuery answers :: List.replicate 9 .shouldForwardPacket

/-- The default policy is to block, so the second query is blocked, too. -/
def mixedQueries : List FirewallEvent :=
  .observe (.defaultForwardPolicy .block) ::
    (judgedQuery (inspectedAs "a" (some "BitTorrent")) ++
      judgedQuery (inspectedAs "b" (some "BitTorrent")))

/-- The same without the first query, which the other is no longer taken to
continue. -/
def singleQuery : List FirewallEvent :=
  .observe (.defaultForwardPolicy .block) ::
    (List.replicate 9 .shouldForwardPacket ++
      judgedQuery (inspectedAs "b" (some "DNS")))

def blocksAtFirst : Firewall :=
  { Firewall.start sampleNotifications (fun _ => 0) with
    settings := ForwardSettings.initial.observe blocksA }

theorem purge_blocked_mixedQueries :
    (run (Firewall.step samplePlatform) blocksAtFirst
            mixedQueries).blocked.length =
        2 ∧
      (run (Firewall.step samplePlatform) blocksAtFirst
          mixedQueries).withoutDpi.SameBut "a"
        (run (Firewall.step samplePlatform) blocksAtFirst
          singleQuery).withoutDpi := by
  refine ⟨by decide +kernel, ?_⟩
  refine
    purge_blocked samplePlatform "a" blocksAtFirst mixedQueries singleQuery
      (by decide +kernel) rfl ?_ (by decide +kernel) rfl
  intro event member
  simp only [mixedQueries, judgedQuery, List.mem_cons, List.mem_append,
    List.mem_replicate] at member
  rcases member with
    rfl | (rfl | ⟨-, rfl⟩) | (rfl | ⟨-, rfl⟩)
  · trivial
  · trivial
  · trivial
  · trivial
  · trivial

end Firewall

end LanShield.VpnService
