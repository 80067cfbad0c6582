import RcFirmware.Lib.MessageQueue
import Mathlib.Data.BitVec

/-!
# The CAN receive thread

The CAN driver puts each frame that passes the filter of `rx_thread` into `counter_msgq`, which is
defined to hold two. The thread takes them out one by one and prints the counter they carry, which is
sent high byte first. The driver's comparison of a frame with a filter and the message queues are the
kernel's, and parameters here.
-/

namespace RcFirmware.CanReceive

open StepMachine

inductive IdType where
  | standard
  | extended
  deriving DecidableEq, Repr

inductive Rtr where
  | dataframe
  | remoterequest
  deriving DecidableEq, Repr

structure ZcanFrame where
  id : BitVec 29
  idType : IdType
  rtr : Rtr
  dlc : BitVec 8
  data : Fin 8 → BitVec 8

structure ZcanFilter where
  id : BitVec 29
  idType : IdType
  rtr : Rtr
  idMask : BitVec 29
  rtrMask : Bool
  deriving DecidableEq, Repr

def counterMsgId : BitVec 29 := 0x12345

def canExtIdMask : BitVec 29 := 0x1FFFFFFF

def counterFilter : ZcanFilter where
  id := counterMsgId
  idType := .extended
  rtr := .dataframe
  idMask := canExtIdMask
  rtrMask := true

/-- What is documented of filters: the bits of the masks and the kind of identifier are compared. -/
def ZcanFilter.Matches (filter : ZcanFilter) (frame : ZcanFrame) : Prop :=
  frame.idType = filter.idType
    ∧ (filter.rtrMask = true → frame.rtr = filter.rtr)
    ∧ frame.id &&& filter.idMask = filter.id &&& filter.idMask

instance (filter : ZcanFilter) (frame : ZcanFrame) : Decidable (filter.Matches frame) :=
  inferInstanceAs (Decidable (_ ∧ _ ∧ _))

inductive Endian where
  | little
  | big
  deriving DecidableEq, Repr

/-- The first two bytes at an address, as the processor reads a `uint16_t`. -/
def unalignedGet (endian : Endian) (data : Fin 8 → BitVec 8) : BitVec 16 :=
  match endian with
  | .little => (data 1).setWidth 16 <<< 8 ||| (data 0).setWidth 16
  | .big => (data 0).setWidth 16 <<< 8 ||| (data 1).setWidth 16

def bswap16 (word : BitVec 16) : BitVec 16 :=
  (word >>> 8 &&& 0xff#16) ||| (word &&& 0xff#16) <<< 8

def sysBe16ToCpu (endian : Endian) (word : BitVec 16) : BitVec 16 :=
  match endian with
  | .little => bswap16 word
  | .big => word

inductive Line where
  | wrongDataLength (dlc : Nat)
  | counterReceived (counter : Nat)
  deriving DecidableEq, Repr

/-- What the body of the loop prints for the frame it got. -/
def printk (endian : Endian) (msg : ZcanFrame) : Line :=
  if msg.dlc ≠ 2 then .wrongDataLength msg.dlc.toNat
  else .counterReceived (sysBe16ToCpu endian (unalignedGet endian msg.data)).toNat

/-- The line a frame calls for: the counter in its two bytes, high byte first, if it has two. -/
def reported (frame : ZcanFrame) : Line :=
  if frame.dlc.toNat = 2 then
    .counterReceived (256 * (frame.data 0).toNat + (frame.data 1).toNat)
  else .wrongDataLength frame.dlc.toNat

inductive Event where
  | frame (msg : ZcanFrame)
  | kMsgqGet
  | printk

section

variable (canMatches : ZcanFilter → ZcanFrame → Bool)
  (canDefineMsgq : Nat → MessageQueue.Api ZcanFrame)

def counterMsgqSize : Nat := 2

abbrev counterMsgq : MessageQueue.Api ZcanFrame := canDefineMsgq counterMsgqSize

abbrev State := MessageQueue.State (counterMsgq canDefineMsgq) Line

def Event.atMsgq : Event → Option (Mailbox.Event ZcanFrame)
  | .frame msg => if canMatches counterFilter msg then some (.arrive msg) else none
  | .kMsgqGet => some .ask
  | .printk => some .output

def step (endian : Endian) : State canDefineMsgq → Event → State canDefineMsgq :=
  through (MessageQueue.step (CanReceive.printk endian)) (Event.atMsgq canMatches)

def start : State canDefineMsgq := .fresh

end

end RcFirmware.CanReceive
