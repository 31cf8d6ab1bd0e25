import LanShield.BackendSync.OpenPortsFinder
import LanShield.Library.Runs

/-!
# `syncOpenPorts`

The table `open_ports`, which `OpenPortsWorker` fills with what a scan has
found and `SendToServerWorker` empties once it has been uploaded.
-/

namespace LanShield.BackendSync

open LanShield.Library

abbrev OpenPortsTable := KeyedTable OpenPorts.uuid

namespace OpenPortsDao

/-- `insertAll`. -/
def insertAll (openPortsList : List OpenPorts) (table : OpenPortsTable) :
    OpenPortsTable :=
  openPortsList.foldl (fun table openPorts => table.insert openPorts) table

/-- `deleteAll`. -/
def deleteAll : OpenPortsTable → OpenPortsTable :=
  KeyedTable.deleteWhere fun _ => true

/-- `getAllShouldSync`. -/
def getAllShouldSync (table : OpenPortsTable) : List OpenPorts :=
  table.select OpenPorts.shouldSync

end OpenPortsDao

/-- `OpenPortsWorker.doWork`, with what the scan has found. -/
def OpenPortsWorker.doWork (vpnEnabled : Bool) (openPorts : List OpenPorts)
    (table : OpenPortsTable) : OpenPortsTable :=
  if vpnEnabled then OpenPortsDao.insertAll openPorts table else table

/-- Where `syncOpenPorts` stands between two of its database or network
calls. -/
inductive OpenPortsUpload where
  | idle
  | read
  | post (openPortsWithApps : List OpenPorts)
  | delete
  deriving DecidableEq

/-- The server answers `OPEN_PORTS_SUCCESS`, or answers something else, or
the call throws. -/
inductive OpenPortsResponse where
  | success
  | refused
  | failed
  deriving DecidableEq, Repr

/-- `acknowledged` are the rows of the uploads that were answered with
success, `deleted` those that are no longer in the table, and `late` those
inserted since `getAllShouldSync` was called last. -/
structure OpenPortsState where
  table : OpenPortsTable
  upload : OpenPortsUpload
  acknowledged : List OpenPorts
  deleted : List OpenPorts
  late : List OpenPorts

def OpenPortsState.start : OpenPortsState where
  table := .empty
  upload := .idle
  acknowledged := []
  deleted := []
  late := []

/-- A statement is executed, and the rows it removes are noted. -/
def OpenPortsState.execute
    (statement : OpenPortsTable → OpenPortsTable) (state : OpenPortsState) :
    OpenPortsState :=
  { state with
    table := statement state.table
    deleted :=
      state.deleted ++
        state.table.rows.filter fun row =>
          row ∉ (statement state.table).rows }

/-- The next call of `syncOpenPorts`. -/
def OpenPortsState.syncOpenPorts (response : OpenPortsResponse)
    (state : OpenPortsState) : OpenPortsState :=
  match state.upload with
  | .idle => state
  | .read =>
      let openPortsWithApps := OpenPortsDao.getAllShouldSync state.table
      if openPortsWithApps.isEmpty then
        { state with upload := .idle, late := [] }
      else
        { state with upload := .post openPortsWithApps, late := [] }
  | .post openPortsWithApps =>
      if response = .success then
        { state with
          upload := .delete
          acknowledged := state.acknowledged ++ openPortsWithApps }
      else
        { state with upload := .idle }
  | .delete =>
      { state.execute OpenPortsDao.deleteAll with upload := .idle }

inductive OpenPortsEvent where
  | scanned (vpnEnabled : Bool) (openPorts : List OpenPorts)
  | startSync
  | sync (response : OpenPortsResponse)

def openPortsStep (state : OpenPortsState) : OpenPortsEvent → OpenPortsState
  | .scanned vpnEnabled openPorts =>
      { state.execute (OpenPortsWorker.doWork vpnEnabled openPorts) with
        late := state.late ++ if vpnEnabled then openPorts else [] }
  | .startSync =>
      match state.upload with
      | .idle => { state with upload := .read }
      | _ => state
  | .sync response => state.syncOpenPorts response

end LanShield.BackendSync
