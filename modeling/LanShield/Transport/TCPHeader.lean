import LanShield.Transport.IPHeader

/-!
# `TCPHeader`

The flag bits are kept twice, as the source keeps them: in `tcpFlags`, which
is serialised, and in one boolean each, which the engine tests.  Only the
low eight bits of the source's `int tcpFlags` are ever read, so `tcpFlags`
is a byte here.
-/

namespace LanShield.Transport

open LanShield.Library

structure TCPHeader where
  sourcePort : Nat
  destinationPort : Nat
  sequenceNumber : Int
  ackNumber : Int
  dataOffset : Nat
  isNS : Bool
  tcpFlags : UInt8
  isCWR : Bool
  isECE : Bool
  isURG : Bool
  isACK : Bool
  isPSH : Bool
  isRST : Bool
  isSYN : Bool
  isFIN : Bool
  windowSize : Int
  checksum : Int
  urgentPointer : Int
  options : Option (List UInt8)
  maxSegmentSize : Int
  windowScale : Int
  isSelectiveAckPermitted : Bool
  timeStampSender : Int
  timeStampReplyTo : Int
  deriving DecidableEq, Repr

namespace TCPHeader

/-- The constructor, with `setFlagBits`. -/
def create
    (sourcePort destinationPort : Nat) (sequenceNumber ackNumber : Int)
    (dataOffset : Nat) (isNS : Bool) (tcpFlags : UInt8)
    (windowSize checksum urgentPointer : Int) : TCPHeader where
  sourcePort := sourcePort
  destinationPort := destinationPort
  sequenceNumber := sequenceNumber
  ackNumber := ackNumber
  dataOffset := dataOffset
  isNS := isNS
  tcpFlags := tcpFlags
  isFIN := tcpFlags &&& 0x01 != 0
  isSYN := tcpFlags &&& 0x02 != 0
  isRST := tcpFlags &&& 0x04 != 0
  isPSH := tcpFlags &&& 0x08 != 0
  isACK := tcpFlags &&& 0x10 != 0
  isURG := tcpFlags &&& 0x20 != 0
  isECE := tcpFlags &&& 0x40 != 0
  isCWR := tcpFlags &&& 0x80 != 0
  windowSize := windowSize
  checksum := checksum
  urgentPointer := urgentPointer
  options := none
  maxSegmentSize := 0
  windowScale := 0
  isSelectiveAckPermitted := false
  timeStampSender := 0
  timeStampReplyTo := 0

/-- `tcpFlags |= bit` or `tcpFlags &= ~bit`. -/
def assignFlag (flags bit : UInt8) (value : Bool) : UInt8 :=
  if value then flags ||| bit else flags &&& ~~~bit

/-- Assigning a bit sets it, or clears it. -/
theorem assignFlag_and {bit : UInt8} (set : bit ≠ 0) (flags : UInt8)
    (value : Bool) : (assignFlag flags bit value &&& bit != 0) = value := by
  cases value with
  | true =>
      have absorbed : (flags ||| bit) &&& bit = bit := by
        apply UInt8.toBitVec_inj.mp
        ext index inside
        simp only [UInt8.toBitVec_and, UInt8.toBitVec_or,
          BitVec.getElem_and, BitVec.getElem_or]
        cases flags.toBitVec[index] <;> cases bit.toBitVec[index] <;> rfl
      rw [assignFlag]
      rw [if_pos rfl, absorbed]
      exact bne_iff_ne.mpr set
  | false =>
      rw [assignFlag]
      rw [if_neg Bool.false_ne_true, UInt8.and_assoc, UInt8.not_and_self,
        UInt8.and_zero]
      rfl

/-- Assigning a bit leaves the others alone. -/
theorem assignFlag_and_other {bit other : UInt8}
    (apart : bit &&& other = 0) (flags : UInt8) (value : Bool) :
    assignFlag flags bit value &&& other = flags &&& other := by
  apply UInt8.toBitVec_inj.mp
  ext index inside
  have disjoint :=
    congrArg (fun byte : UInt8 => byte.toBitVec[index]) apart
  rw [assignFlag]
  cases value <;>
    simp only [if_true, Bool.false_eq_true, if_false, UInt8.toBitVec_and,
      UInt8.toBitVec_or, UInt8.toBitVec_not, BitVec.getElem_and,
      BitVec.getElem_or, BitVec.getElem_not] at disjoint ⊢ <;>
    revert disjoint <;>
    cases flags.toBitVec[index] <;> cases bit.toBitVec[index] <;>
    cases other.toBitVec[index] <;> simp

def setIsCWR (value : Bool) (header : TCPHeader) : TCPHeader :=
  { header with
    isCWR := value, tcpFlags := assignFlag header.tcpFlags 0x80 value }

def setIsECE (value : Bool) (header : TCPHeader) : TCPHeader :=
  { header with
    isECE := value, tcpFlags := assignFlag header.tcpFlags 0x40 value }

def setIsURG (value : Bool) (header : TCPHeader) : TCPHeader :=
  { header with
    isURG := value, tcpFlags := assignFlag header.tcpFlags 0x20 value }

def setIsACK (value : Bool) (header : TCPHeader) : TCPHeader :=
  { header with
    isACK := value, tcpFlags := assignFlag header.tcpFlags 0x10 value }

def setIsPSH (value : Bool) (header : TCPHeader) : TCPHeader :=
  { header with
    isPSH := value, tcpFlags := assignFlag header.tcpFlags 0x08 value }

def setIsRST (value : Bool) (header : TCPHeader) : TCPHeader :=
  { header with
    isRST := value, tcpFlags := assignFlag header.tcpFlags 0x04 value }

def setIsSYN (value : Bool) (header : TCPHeader) : TCPHeader :=
  { header with
    isSYN := value, tcpFlags := assignFlag header.tcpFlags 0x02 value }

def setIsFIN (value : Bool) (header : TCPHeader) : TCPHeader :=
  { header with
    isFIN := value, tcpFlags := assignFlag header.tcpFlags 0x01 value }

def setIsNS (value : Bool) (header : TCPHeader) : TCPHeader :=
  { header with isNS := value }

def getTCPHeaderLength (header : TCPHeader) : Nat :=
  header.dataOffset * 4

/-- `getWindowSize() & 0xFFFF`. -/
def unsignedWindow (header : TCPHeader) : Int :=
  header.windowSize % 65536

theorem unsignedWindow_nonneg (header : TCPHeader) :
    0 ≤ header.unsignedWindow := by
  rw [unsignedWindow]
  omega

theorem unsignedWindow_lt (header : TCPHeader) :
    header.unsignedWindow < 2 ^ 16 := by
  rw [unsignedWindow]
  omega

end TCPHeader

end LanShield.Transport
