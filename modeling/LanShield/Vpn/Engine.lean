import LanShield.Library.Runs
import LanShield.Vpn.SessionHandler
import LanShield.Vpn.SocketNIODataService

/-!
# The engine, seen from one session

Two threads act on a session, each under its monitor: the packet thread
hands it client segments, the NIO thread processes its selected key.  A run
is any sequence of these atomic steps.
-/

namespace LanShield.Vpn

open LanShield.Library LanShield.Transport

inductive AtomicStep where
  | handleTCPPacket (segment : ClientSegment) (currentTime : Int)
  | processSelectionKey (ready : SocketNIODataService.Readiness)

/-- One atomic step of either thread. -/
def atomicStep (connection : TcpConnection) : AtomicStep → TcpConnection
  | .handleTCPPacket segment currentTime =>
      SessionHandler.handleTCPPacket segment currentTime connection
  | .processSelectionKey ready =>
      SocketNIODataService.runSelectedKey ready connection

/-- A call that moves downloaded bytes: a whole atomic step, or `readTCP` or
`pumpToClient` on their own. -/
inductive DownloadCall where
  | atomic (step : AtomicStep)
  | readTCP (outcomes : List ReadOutcome)
  | pumpToClient

def downloadCall (connection : TcpConnection) :
    DownloadCall → TcpConnection
  | .atomic step => atomicStep connection step
  | .readTCP outcomes =>
      (SocketChannelReader.readTCP outcomes connection).1
  | .pumpToClient => SocketChannelReader.pumpToClient connection

/-- A run of atomic steps is a run of calls. -/
theorem run_atomic (steps : List AtomicStep) (connection : TcpConnection) :
    run downloadCall connection (steps.map DownloadCall.atomic) =
      run atomicStep connection steps :=
  List.foldl_map

end LanShield.Vpn
