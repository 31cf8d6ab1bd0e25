import LanShield.BackendSync.FlowDao
import LanShield.Library.Monitor
import Mathlib.Order.Interval.Finset.Nat

/-!
# The scan for open ports

`findOpenPorts` and `checkPort` of `OpenPortsFinder.kt`.  One job per port
asks who owns it and enters the answers into a map that all jobs share; a
job reads and writes the map, and the records in it, under the map's monitor.
-/

namespace LanShield.BackendSync

open LanShield.Library

/-- `OpenPorts`; the names of sorted sets are kept for sets. -/
structure OpenPorts where
  uuid : UUID
  packageLabel : String
  packageName : String
  udpPorts : Finset Nat
  tcpPorts : Finset Nat
  timeOpenPortsObserved : Int
  shouldSync : Bool
  scheduledForDeletion : Bool
  deriving DecidableEq

/-- `"TCP"` and `"UDP"`. -/
inductive PortProtocol where
  | tcp
  | udp
  deriving DecidableEq, Repr

/-- `IPPROTO_TCP` and `IPPROTO_UDP`. -/
def PortProtocol.ipProto : PortProtocol → Nat
  | .tcp => 6
  | .udp => 17

inductive Wildcard where
  | ipv4
  | ipv6
  deriving DecidableEq, Repr

def Wildcard.hostAddress : Wildcard → String
  | .ipv4 => "0.0.0.0"
  | .ipv6 => "::"

structure WildcardSocket where
  host : Wildcard
  port : Nat
  deriving DecidableEq, Repr

/-- What `getConnectionOwnerUid` throws for an app that is not the active
VPN. -/
inductive SecurityException where
  | notActiveVpn
  deriving DecidableEq, Repr

/-- `INVALID_UID`. -/
def invalidUid : Int := -1

structure PackageManager where
  getPackagesForUid : Int → Option (List String)
  getNameForUid : Int → Option String
  /-- The label of a package; there is none for a name that is not found. -/
  getApplicationLabel : String → Option String

def packageNameUnknown : String := "Unknown"

def packageNameRoot : String := "Root"

def packageNameSystem : String := "System"

def packageNamePlayServices : String := "Google Play Services"

/-- `getPackageNameFromUid`. -/
def getPackageNameFromUid (appUid : Int) (packageManager : PackageManager) :
    String :=
  if appUid = 0 then
    packageNameRoot
  else if appUid = -1 then
    packageNameUnknown
  else if appUid = 1000 then
    packageNameSystem
  else
    match packageManager.getPackagesForUid appUid with
    | some [package] => package
    | _ => (packageManager.getNameForUid appUid).getD packageNameUnknown

/-- Kotlin's `in` on strings. -/
def isPartOf (part whole : String) : Bool :=
  decide (part.toList <:+: whole.toList)

/-- The label of `getPackageMetadata`. -/
def getPackageLabel (packageName : String) (packageManager : PackageManager) :
    String :=
  if packageName = packageNameUnknown then
    packageNameUnknown
  else if packageName = packageNameRoot then
    packageNameRoot
  else if packageName = packageNameSystem then
    packageNameSystem
  else if isPartOf "android.uid.phone" packageName then
    packageNameSystem
  else if isPartOf "com.google.uid.shared" packageName then
    packageNamePlayServices
  else
    (packageManager.getApplicationLabel packageName).getD packageName

/-- What a scan finds on the device.  The answers do not change while it
runs; the numbered records it creates get the numbered stamps. -/
structure Device where
  getConnectionOwnerUid :
    Nat → WildcardSocket → WildcardSocket → Except SecurityException Int
  packageManager : PackageManager
  randomUUID : Nat → UUID
  currentTimeMillis : Nat → Int
  /-- `String.compareTo(ignoreCase = true)`. -/
  compareIgnoreCase : String → String → Ordering

/-- `OpenPorts.createInstance`. -/
def createInstance (device : Device) (number : Nat)
    (packageName packageLabel : String) : OpenPorts where
  uuid := device.randomUUID number
  packageLabel
  packageName
  udpPorts := ∅
  tcpPorts := ∅
  timeOpenPortsObserved := device.currentTimeMillis number
  shouldSync := true
  scheduledForDeletion := false

/-- `tcpPorts.add` and `udpPorts.add`. -/
def OpenPorts.addPort (protocol : PortProtocol) (port : Nat)
    (openPorts : OpenPorts) : OpenPorts :=
  match protocol with
  | .tcp => { openPorts with tcpPorts := insert port openPorts.tcpPorts }
  | .udp => { openPorts with udpPorts := insert port openPorts.udpPorts }

/-- A protocol and a local address `checkPort` asks for. -/
structure PortCheck where
  protocol : PortProtocol
  host : Wildcard
  deriving DecidableEq, Repr

/-- The list `checkPort` goes through. -/
def portChecks : List PortCheck :=
  [⟨.tcp, .ipv4⟩, ⟨.udp, .ipv4⟩, ⟨.tcp, .ipv6⟩, ⟨.udp, .ipv6⟩]

/-- The call of `getConnectionOwnerUid` in `checkPort`. -/
def connectionOwner (device : Device) (port : Nat) (check : PortCheck) :
    Except SecurityException Int :=
  device.getConnectionOwnerUid check.protocol.ipProto ⟨check.host, port⟩
    (if check.host.hostAddress = "::" then ⟨.ipv6, 0⟩ else ⟨.ipv4, 0⟩)

/-- The records that were created, and the map from a uid to the number of
its record. -/
structure PortMap where
  created : List OpenPorts
  openPortsByUid : List (Int × Nat)
  deriving DecidableEq

namespace PortMap

def empty : PortMap := ⟨[], []⟩

def get (uid : Int) (map : PortMap) : Option Nat :=
  map.openPortsByUid.lookup uid

/-- The default value of `getOrPut`. -/
def create (device : Device) (uid : Int) (map : PortMap) : PortMap :=
  let packageName := getPackageNameFromUid uid device.packageManager
  let packageLabel := getPackageLabel packageName device.packageManager
  { map with
    created :=
      map.created ++
        [createInstance device map.created.length packageName
          packageLabel] }

def put (uid : Int) (number : Nat) (map : PortMap) : PortMap :=
  { map with openPortsByUid := map.openPortsByUid ++ [(uid, number)] }

def add (number : Nat) (protocol : PortProtocol) (port : Nat)
    (map : PortMap) : PortMap :=
  { map with
    created := map.created.modify number (OpenPorts.addPort protocol port) }

/-- `openPortsByUid.values`. -/
def values (map : PortMap) : List OpenPorts :=
  map.openPortsByUid.filterMap fun entry => map.created[entry.2]?

/-- `openPortsByUid.getOrPut`. -/
def getOrPut (device : Device) (uid : Int) (map : PortMap) : PortMap × Nat :=
  match map.get uid with
  | some number => (map, number)
  | none =>
      let number := map.created.length
      ((map.create device uid).put uid number, number)

/-- The synchronized block of `checkPort`. -/
def record (device : Device) (uid : Int) (protocol : PortProtocol)
    (port : Nat) (map : PortMap) : PortMap :=
  let (map, number) := map.getOrPut device uid
  map.add number protocol port

end PortMap

/-- `checkPort`, on its own. -/
def checkPort (device : Device) (port : Nat) (map : PortMap) :
    Except SecurityException PortMap :=
  portChecks.foldlM
    (fun map check => do
      let uid ← connectionOwner device port check
      if uid ≠ invalidUid then
        return map.record device uid check.protocol port
      else
        return map)
    map

/-- One port after the other. -/
def scanInOrder (device : Device) : Except SecurityException PortMap :=
  (List.range' 1 65535).foldlM (fun map port => checkPort device port map)
    PortMap.empty

/-- Where a job stands in its synchronized block. -/
inductive MapStep where
  | get (uid : Int) (protocol : PortProtocol)
  | create (uid : Int) (protocol : PortProtocol)
  | put (uid : Int) (number : Nat) (protocol : PortProtocol)
  | add (number : Nat) (protocol : PortProtocol)
  deriving DecidableEq, Repr

/-- Where a job stands otherwise: before its first statement, before the
checks that are left, between an answer and the block, or given up. -/
inductive JobPoint where
  | launched
  | asking (checks : List PortCheck)
  | answered (uid : Int) (check : PortCheck) (checks : List PortCheck)
  | cancelled (checks : List PortCheck)
  deriving DecidableEq, Repr

def advanceBlock (device : Device) (port : Nat) (map : PortMap) :
    MapStep → PortMap × Option MapStep
  | .get uid protocol =>
      match map.get uid with
      | some number => (map, some (.add number protocol))
      | none => (map, some (.create uid protocol))
  | .create uid protocol =>
      (map.create device uid,
        some (.put uid map.created.length protocol))
  | .put uid number protocol =>
      (map.put uid number, some (.add number protocol))
  | .add number protocol => (map.add number protocol port, none)

/-- The flag says that a job has thrown: jobs that have not begun by then are
cancelled, the others have no point at which they could be. -/
def nextMove (device : Device) (thrown : Bool) (port : Nat) :
    JobPoint → Monitor.Move JobPoint MapStep Bool
  | .launched =>
      if thrown then .go (.cancelled portChecks) thrown
      else .go (.asking portChecks) thrown
  | .asking [] => .rest
  | .asking (check :: checks) =>
      match connectionOwner device port check with
      | .error _ => .go (.cancelled (check :: checks)) true
      | .ok uid =>
          if uid ≠ invalidUid then .go (.answered uid check checks) thrown
          else .go (.asking checks) thrown
  | .answered uid check checks =>
      .enter (.get uid check.protocol) (.asking checks)
  | .cancelled _ => .rest

/-- `checkPort` in small steps, as the job of its port. -/
def scanProgram (device : Device) :
    Monitor.Program Nat JobPoint MapStep Bool PortMap where
  next := nextMove device
  advance port step map := advanceBlock device port map step

/-- A job for each port has been launched. -/
def launchedScan : Monitor.System Nat JobPoint MapStep Bool PortMap where
  shared := PortMap.empty
  flag := false
  owner := none
  point port :=
    .outside
      (if 1 ≤ port ∧ port ≤ 65535 then .launched else .asking [])
  entered := []

/-- The jobs step in the order of the schedule. -/
def scan (device : Device) (schedule : List Nat) :
    Monitor.System Nat JobPoint MapStep Bool PortMap :=
  run (scanProgram device).step launchedScan schedule

/-- A job has come to the end of its checks, or has been given up. -/
def JobPoint.Over : JobPoint → Prop
  | .launched => False
  | .asking checks => checks = []
  | .answered _ _ _ => False
  | .cancelled _ => True

/-- `joinAll` returns, or throws, once all jobs are over. -/
def ScanOver (device : Device) (schedule : List Nat) : Prop :=
  ∀ port, Monitor.Done JobPoint.Over (scan device schedule) port

/-- `findOpenPorts`: the records of the map, sorted by their labels. -/
def findOpenPorts (device : Device) (schedule : List Nat) :
    List OpenPorts :=
  (scan device schedule).shared.values.mergeSort fun first second =>
    (device.compareIgnoreCase first.packageLabel
      second.packageLabel).isLE

end LanShield.BackendSync
