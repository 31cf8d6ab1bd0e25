import LanShield.Library.Runs

/-!
# `VPNRunnable`

The packet loop on its thread and the calls of `stop` on the service thread,
one access of a shared field at a time.  What a packet is made of and where it
goes does not touch these fields; `read` may do anything at any time.
-/

namespace LanShield.VpnService.PacketLoop

open LanShield.Library

/-- A helper's thread and the flags of its runnable. -/
structure HelperThread where
  started : Bool
  shutdown : Bool
  interrupted : Bool
  deriving DecidableEq, Repr

namespace HelperThread

def created : HelperThread where
  started := false
  shutdown := false
  interrupted := false

/-- `Thread.start`. -/
def start (helper : HelperThread) : HelperThread :=
  { helper with started := true }

/-- `shutdown` of the runnable. -/
def tellShutdown (helper : HelperThread) : HelperThread :=
  { helper with shutdown := true }

/-- `Thread.interrupt`, which need not affect a thread that is not alive. -/
def interrupt (helper : HelperThread) : HelperThread :=
  { helper with interrupted := helper.interrupted || helper.started }

/-- The helper has been told to shut down, and woken if it was waiting. -/
def Told (helper : HelperThread) : Prop :=
  helper.shutdown = true ∧ helper.interrupted = true

instance (helper : HelperThread) : Decidable helper.Told :=
  inferInstanceAs (Decidable (_ ∧ _))

end HelperThread

/-- The fields of `VPNRunnable` that `run` and `stop` share. -/
structure Fields where
  threadMainLoopActive : Bool
  dataService : HelperThread
  packetWriter : HelperThread
  deriving DecidableEq, Repr

namespace Fields

def created : Fields where
  threadMainLoopActive := false
  dataService := .created
  packetWriter := .created

def setMainLoopActive (active : Bool) (fields : Fields) : Fields :=
  { fields with threadMainLoopActive := active }

end Fields

/-- Where a call of `stop` stands, by what it does next. -/
inductive StopPoint where
  | test
  | deactivate
  | shutdownDataService
  | interruptDataService
  | shutdownPacketWriter
  | interruptPacketWriter
  deriving DecidableEq, Repr

/-- One step of `stop`: the fields after it, and where the call stands unless
it has returned. -/
def stopStep (fields : Fields) : StopPoint → Fields × Option StopPoint
  | .test =>
      if fields.threadMainLoopActive then
        (fields, some .deactivate)
      else
        (fields, none)
  | .deactivate =>
      (fields.setMainLoopActive false, some .shutdownDataService)
  | .shutdownDataService =>
      ({ fields with dataService := fields.dataService.tellShutdown },
        some .interruptDataService)
  | .interruptDataService =>
      ({ fields with dataService := fields.dataService.interrupt },
        some .shutdownPacketWriter)
  | .shutdownPacketWriter =>
      ({ fields with packetWriter := fields.packetWriter.tellShutdown },
        some .interruptPacketWriter)
  | .interruptPacketWriter =>
      ({ fields with packetWriter := fields.packetWriter.interrupt }, none)

/-- What `vpnReadStream.read` does. -/
inductive ReadResult where
  | returned (packetLength : Int)
  | interruptedIOException
  | ioException
  deriving DecidableEq, Repr

/-- Where `run` stands, by what it does next. -/
inductive RunPoint where
  | start
  | startDataService
  | startPacketWriter
  | activate
  | takeArray
  | notBackedByArray
  | whileTest
  | read
  | closedUnexpectedly
  | stopping (point : StopPoint)
  | returned
  deriving DecidableEq, Repr

/-- Where `run` stands after a read.  A packet is handled, or thrown away with
a logged exception, and a sleep ends in any case. -/
def afterRead : ReadResult → RunPoint
  | .returned packetLength =>
      if packetLength > 0 then
        .whileTest
      else if packetLength = 0 then
        .whileTest
      else
        .closedUnexpectedly
  | .interruptedIOException => .whileTest
  | .ioException => .stopping .test

/-- One step of `run`. -/
def runStep (backedByArray : Bool) (result : ReadResult) (fields : Fields) :
    RunPoint → Fields × RunPoint
  | .start =>
      if fields.threadMainLoopActive then
        (fields, .returned)
      else
        (fields, .startDataService)
  | .startDataService =>
      ({ fields with dataService := fields.dataService.start },
        .startPacketWriter)
  | .startPacketWriter =>
      ({ fields with packetWriter := fields.packetWriter.start }, .activate)
  | .activate => (fields.setMainLoopActive true, .takeArray)
  | .takeArray =>
      if backedByArray then (fields, .whileTest) else (fields, .notBackedByArray)
  | .notBackedByArray => (fields.setMainLoopActive false, .returned)
  | .whileTest =>
      if fields.threadMainLoopActive then
        (fields, .read)
      else
        (fields, .returned)
  | .read => (fields, afterRead result)
  | .closedUnexpectedly => (fields.setMainLoopActive false, .whileTest)
  | .stopping point =>
      match stopStep fields point with
      | (fields, some point) => (fields, .stopping point)
      | (fields, none) => (fields, .whileTest)
  | .returned => (fields, .returned)

/-- The two threads: where `run` stands, the call of `stop` the service
thread is in, if any, and the calls of it that have returned.  `stopTests`
are the values of `threadMainLoopActive` that calls of `stop` have found, on
either thread. -/
structure Threads where
  fields : Fields
  run : RunPoint
  service : Option StopPoint
  stopsReturned : Nat
  stopTests : List Bool
  deriving DecidableEq, Repr

/-- The runnable is created, and its thread is not yet scheduled. -/
def Threads.created : Threads where
  fields := .created
  run := .start
  service := none
  stopsReturned := 0
  stopTests := []

/-- The value a step of `stop` finds in the flag, if it tests it. -/
def StopPoint.finds (fields : Fields) : StopPoint → List Bool
  | .test => [fields.threadMainLoopActive]
  | .deactivate => []
  | .shutdownDataService => []
  | .interruptDataService => []
  | .shutdownPacketWriter => []
  | .interruptPacketWriter => []

def RunPoint.finds (fields : Fields) : RunPoint → List Bool
  | .stopping point => point.finds fields
  | _ => []

/-- A thread takes its next step; outside of `stop` the service thread calls
it. -/
inductive Event where
  | runThread (backedByArray : Bool) (result : ReadResult)
  | serviceThread
  deriving DecidableEq, Repr

def serviceStep (threads : Threads) : Threads :=
  match threads.service with
  | none => { threads with service := some .test }
  | some point =>
      match stopStep threads.fields point with
      | (fields, some later) =>
          { threads with
            fields
            service := some later
            stopTests := point.finds threads.fields ++ threads.stopTests }
      | (fields, none) =>
          { threads with
            fields
            service := none
            stopsReturned := threads.stopsReturned + 1
            stopTests := point.finds threads.fields ++ threads.stopTests }

def step (threads : Threads) : Event → Threads
  | .runThread backedByArray result =>
      let after := runStep backedByArray result threads.fields threads.run
      { threads with
        fields := after.1
        run := after.2
        stopTests := threads.run.finds threads.fields ++ threads.stopTests }
  | .serviceThread => serviceStep threads

/-- The threads after the steps of `events`. -/
def after (events : List Event) : Threads :=
  run step .created events

end LanShield.VpnService.PacketLoop
