import LanShield.Library.Runs
import LanShield.Library.SerialNumber
import LanShield.VpnService.PackageNames
import LanShield.VpnService.PolicyIntents

/-!
# `LANShieldNotificationManager`

A notification tells the user of the traffic of one app and has a button to
block the app and one to allow it.  A button sends a broadcast that the system
keeps under a request code, also for a process that comes later.
-/

namespace LanShield.VpnService

open LanShield.Library
open LanShield.BackendSync (Policy)
open LanShield.Ui (LanAccessPolicy)

/-- The `Int` that is `count` after the one a counter starts at. -/
def counted (count : Nat) : Int :=
  signed32 (2 + count)

theorem counted_succ (count : Nat) :
    signed32 (counted count + 1) = counted (count + 1) := by
  rw [counted, counted, signed32, signed32, signed32]
  push_cast
  omega

theorem counted_inj {count other : Nat} (below : count < 2 ^ 32)
    (otherBelow : other < 2 ^ 32) :
    counted count = counted other ↔ count = other := by
  rw [counted, counted, signed32, signed32]
  omega

/-- What `NotificationCompat.Builder` is given for the traffic of an app: two
actions by the request codes of their broadcasts, and the data of the intent
that opens the app's traffic. -/
structure NotificationBuilder where
  contentTitle : String
  blockPendingIntent : Int
  allowPendingIntent : Int
  contentData : String
  deriving DecidableEq, Repr

inductive Notification where
  | lanTraffic (builder : NotificationBuilder) (contentText : String)
      (inboxLines : List String)
  | serviceError (title text : String)
  deriving DecidableEq, Repr

/-- The buttons of a notification on traffic. -/
inductive NotificationAction where
  | block
  | allow
  deriving DecidableEq, Repr

def NotificationAction.policy : NotificationAction → Policy
  | .block => .block
  | .allow => .allow

def NotificationBuilder.pendingIntent (builder : NotificationBuilder) :
    NotificationAction → Int
  | .block => builder.blockPendingIntent
  | .allow => builder.allowPendingIntent

structure ActiveNotification where
  notificationId : Int
  messageLines : List String
  notificationBuilder : NotificationBuilder
  deriving DecidableEq, Repr

/-- `getLanTrafficPerAppRoute`. -/
def getLanTrafficPerAppRoute (packageName : String) : String :=
  "lan_traffic_per_app_route/" ++ packageName

/-- The data of `lanTrafficPerAppIntent`. -/
def lanTrafficPerAppData (contextPackage packageName : String) : String :=
  contextPackage ++ "://" ++ getLanTrafficPerAppRoute packageName

/-- `policyToActionString`. -/
def policyToActionString : Policy → String
  | .allow => "Allowed"
  | .block => "Blocked"
  | .default => "Default"

/-- The string `peer`. -/
def peerLine (remotePeer : String) (appliedPolicy : Policy) : String :=
  "Peer: " ++ String.ofList (remotePeer.toList.drop 1) ++ " - " ++
    policyToActionString appliedPolicy

/-- The fields of the manager, the notifications the system shows by their
numbers and the broadcasts it keeps.  Their action and receiver are always
the same, so it tells them apart by the request code alone. -/
structure LANShieldNotificationManager where
  activeNotifications : String → Option ActiveNotification
  notificationIdCounter : Int
  intentRequestCodeCounter : Int
  shown : Int → Option Notification
  broadcasts : Int → Option Intent

namespace LANShieldNotificationManager

/-- A new process.  The system may still show notifications of earlier ones
and keep their broadcasts. -/
def start (shown : Int → Option Notification)
    (broadcasts : Int → Option Intent) : LANShieldNotificationManager where
  activeNotifications := fun _ => none
  notificationIdCounter := 2
  intentRequestCodeCounter := 2
  shown
  broadcasts

def getNewNotificationId (manager : LANShieldNotificationManager) :
    Int × LANShieldNotificationManager :=
  let counter := signed32 (manager.notificationIdCounter + 1)
  (counter, { manager with notificationIdCounter := counter })

def getNewIntentRequestCode (manager : LANShieldNotificationManager) :
    Int × LANShieldNotificationManager :=
  let counter := signed32 (manager.intentRequestCodeCounter + 1)
  (counter, { manager with intentRequestCodeCounter := counter })

/-- `PendingIntent.getBroadcast` without `FLAG_UPDATE_CURRENT`: what is kept
under the request code stays. -/
def getBroadcast (requestCode : Int) (intent : Intent)
    (manager : LANShieldNotificationManager) :
    LANShieldNotificationManager :=
  match manager.broadcasts requestCode with
  | some _ => manager
  | none =>
      { manager with
        broadcasts :=
          Function.update manager.broadcasts requestCode (some intent) }

/-- A new request code, and the broadcast under it. -/
def newBroadcast (intent : Intent)
    (manager : LANShieldNotificationManager) :
    Int × LANShieldNotificationManager :=
  let (requestCode, manager) := manager.getNewIntentRequestCode
  (requestCode, manager.getBroadcast requestCode intent)

/-- `NotificationManager.notify`. -/
def notify (id : Int) (notification : Notification)
    (manager : LANShieldNotificationManager) :
    LANShieldNotificationManager :=
  { manager with
    shown := Function.update manager.shown id (some notification) }

/-- `NotificationManager.cancel`, also by the user. -/
def cancel (id : Int) (manager : LANShieldNotificationManager) :
    LANShieldNotificationManager :=
  { manager with shown := Function.update manager.shown id none }

def dismissNotification (packageName : String)
    (manager : LANShieldNotificationManager) :
    LANShieldNotificationManager :=
  match manager.activeNotifications packageName with
  | some active =>
      { manager.cancel active.notificationId with
        activeNotifications :=
          Function.update manager.activeNotifications packageName none }
  | none => manager

def createActiveNotification (contextPackage packageName : String)
    (packageMetadata : PackageMetadata)
    (manager : LANShieldNotificationManager) :
    ActiveNotification × LANShieldNotificationManager :=
  let updatePolicyIntent :=
    createUpdatePolicyIntent contextPackage packageName
      packageMetadata.isSystem
  let (blockPendingIntent, manager) :=
    manager.newBroadcast (updatePolicyIntent .block)
  let (allowPendingIntent, manager) :=
    manager.newBroadcast (updatePolicyIntent .allow)
  let (notificationId, manager) := manager.getNewNotificationId
  ({ notificationId
     messageLines := []
     notificationBuilder :=
      { contentTitle := "LAN traffic from " ++ packageMetadata.packageLabel
        blockPendingIntent
        allowPendingIntent
        contentData := lanTrafficPerAppData contextPackage packageName } },
    manager)

/-- `buildNotification`, which puts the new line before the others. -/
def buildNotification (appliedPolicy : Policy) (remotePeer : String)
    (active : ActiveNotification) : Notification × ActiveNotification :=
  let line := peerLine remotePeer appliedPolicy
  let messageLines := line :: active.messageLines
  (.lanTraffic active.notificationBuilder line messageLines,
    { active with messageLines })

/-- `postNotification` once there is an active notification. -/
def showLine (packageName : String) (appliedPolicy : Policy)
    (remotePeer : String) (active : ActiveNotification)
    (manager : LANShieldNotificationManager) :
    LANShieldNotificationManager :=
  let (notification, active) :=
    buildNotification appliedPolicy remotePeer active
  { manager.notify active.notificationId notification with
    activeNotifications :=
      Function.update manager.activeNotifications packageName
        (some active) }

/-- `postNotification`, with the metadata of packages it looks up. -/
def postNotification (contextPackage packageName : String)
    (packageManager : InstalledPackages) (appliedPolicy : Policy)
    (remotePeer : String) (cache : PackageMetadataCache)
    (manager : LANShieldNotificationManager) :
    PackageMetadataCache × LANShieldNotificationManager :=
  match manager.activeNotifications packageName with
  | some active =>
      (cache,
        manager.showLine packageName appliedPolicy remotePeer active)
  | none =>
      let (packageMetadata, cache) :=
        getPackageMetadata packageName packageManager cache
      let (active, manager) :=
        manager.createActiveNotification contextPackage packageName
          packageMetadata
      (cache,
        manager.showLine packageName appliedPolicy remotePeer active)

/-- `postServiceErrorNotification`.  The request code it takes is one of an
activity. -/
def postServiceErrorNotification (title text : String)
    (manager : LANShieldNotificationManager) :
    LANShieldNotificationManager :=
  let (notificationId, manager) := manager.getNewNotificationId
  let (_, manager) := manager.getNewIntentRequestCode
  manager.notify notificationId (.serviceError title text)

end LANShieldNotificationManager

/-- `REFUSAL_NOTIFICATION_ID` of `VPNService`. -/
def refusalNotificationId : Int :=
  3

/-- A button the user pressed: the data of the intent behind the
notification, and the policy on the button. -/
structure Choice where
  contentData : String
  policy : Policy
  deriving DecidableEq, Repr

/-- The notifications of a process.  `launched` are the rows the receiver has
launched an insertion for, `chosen` the buttons whose broadcast was sent;
nothing reads either. -/
structure Notifications where
  manager : LANShieldNotificationManager
  packageMetadataCache : PackageMetadataCache
  sent : List Intent
  launched : List LanAccessPolicy
  chosen : List Choice

inductive NotificationEvent where
  | postNotification (packageManager : InstalledPackages)
      (packageName : String) (appliedPolicy : Policy) (remotePeer : String)
  | postServiceErrorNotification (title text : String)
  | refuseStart (title text : String)
  | press (notificationId : Int) (action : NotificationAction)
  | cancel (notificationId : Int)
  | receive

namespace Notifications

def start (shown : Int → Option Notification)
    (broadcasts : Int → Option Intent) : Notifications where
  manager := .start shown broadcasts
  packageMetadataCache := fun _ => none
  sent := []
  launched := []
  chosen := []

/-- The system sends what it keeps under the request code, once. -/
def sendBroadcast (requestCode : Int) (choice : Choice)
    (state : Notifications) : Notifications :=
  match state.manager.broadcasts requestCode with
  | some intent =>
      { state with
        manager :=
          { state.manager with
            broadcasts :=
              Function.update state.manager.broadcasts requestCode none }
        sent := state.sent ++ [intent]
        chosen := state.chosen ++ [choice] }
  | none => state

/-- The user presses a button of a notification. -/
def press (notificationId : Int) (action : NotificationAction)
    (state : Notifications) : Notifications :=
  match state.manager.shown notificationId with
  | some (.lanTraffic builder _ _) =>
      sendBroadcast (builder.pendingIntent action)
        ⟨builder.contentData, action.policy⟩ state
  | some (.serviceError _ _) | none => state

/-- What the receiver does with an intent besides starting the service. -/
def receiveIntent (contextPackage : String) (intent : Intent)
    (state : Notifications) : Notifications :=
  match onReceive (some contextPackage) (some intent) with
  | .ok (.update lanAccessPolicy) =>
      { state with
        launched := state.launched ++ [lanAccessPolicy]
        manager :=
          state.manager.dismissNotification lanAccessPolicy.packageName }
  | .ok .nothing | .ok .boot | .error _ => state

/-- The receiver handles the broadcast sent first. -/
def receive (contextPackage : String) (state : Notifications) :
    Notifications :=
  match state.sent with
  | [] => state
  | intent :: later =>
      receiveIntent contextPackage intent { state with sent := later }

def step (contextPackage : String) (state : Notifications) :
    NotificationEvent → Notifications
  | .postNotification packageManager packageName appliedPolicy
      remotePeer =>
      let (cache, manager) :=
        state.manager.postNotification contextPackage packageName
          packageManager appliedPolicy remotePeer
          state.packageMetadataCache
      { state with manager, packageMetadataCache := cache }
  | .postServiceErrorNotification title text =>
      { state with
        manager := state.manager.postServiceErrorNotification title text }
  | .refuseStart title text =>
      { state with
        manager :=
          state.manager.notify refusalNotificationId
            (.serviceError title text) }
  | .press notificationId action => press notificationId action state
  | .cancel notificationId =>
      { state with manager := state.manager.cancel notificationId }
  | .receive => receive contextPackage state

end Notifications

end LanShield.VpnService
