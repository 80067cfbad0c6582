import RcFirmware.Lib.Notification
import Mathlib.Data.BitVec

/-!
# CAN state changes

`state_change_isr` stores the state of the bus and its error counters and submits
`state_change_work`, whose handler prints them. The arguments of the `printk` are read one by one, in
an order C leaves open, and the interrupt can come between any two of them.

`poll_state_thread` asks for the same in a loop and prints it when it is not what it printed last.
-/

namespace RcFirmware.CanHandler

/-- `enum can_state`, of which the module names three. -/
inductive CanState where
  | errorActive
  | errorPassive
  | busOff
  | other (number : Nat)
  deriving DecidableEq, Repr

structure CanBusErrCnt where
  txErrCnt : BitVec 8
  rxErrCnt : BitVec 8
  deriving DecidableEq, Repr

def stateToStr : CanState → String
  | .errorActive => "error-active"
  | .errorPassive => "error-passive"
  | .busOff => "bus-off"
  | .other _ => "unknown"

/-- The two globals the interrupt and the handler share. -/
structure Globals where
  currentState : CanState
  currentErrCnt : CanBusErrCnt
  deriving DecidableEq, Repr

/-- What the `printk` of the handler shows. -/
structure Line where
  state : String
  rxErrorCount : BitVec 8
  txErrorCount : BitVec 8
  deriving DecidableEq, Repr

inductive Arg where
  | state
  | rxErrCnt
  | txErrCnt
  deriving DecidableEq, Repr

/-- The arguments of the `printk` that have been evaluated. -/
structure Args where
  state : Option String
  rxErrCnt : Option (BitVec 8)
  txErrCnt : Option (BitVec 8)
  deriving DecidableEq, Repr

def Args.none : Args := ⟨.none, .none, .none⟩

/-- Each argument is evaluated once. -/
def Args.read (globals : Globals) (args : Args) : Arg → Args
  | .state => { args with state := args.state <|> some (stateToStr globals.currentState) }
  | .rxErrCnt => { args with rxErrCnt := args.rxErrCnt <|> some globals.currentErrCnt.rxErrCnt }
  | .txErrCnt => { args with txErrCnt := args.txErrCnt <|> some globals.currentErrCnt.txErrCnt }

def Args.printk (args : Args) : Option Line := do
  return ⟨← args.state, ← args.rxErrCnt, ← args.txErrCnt⟩

def stateChangeWorkHandler : Notification.Handler Globals Arg Args Line where
  start := .none
  look := fun arg globals args => args.read globals arg
  out := Args.printk

abbrev State := Notification.State Globals Args Line

abbrev Event := Notification.Event Globals Arg

def stateChangeIsr (state : CanState) (errCnt : CanBusErrCnt) : Event := .post ⟨state, errCnt⟩

def step : State → Event → State := Notification.step stateChangeWorkHandler

/-! ### The polling thread -/

/-- What one call of `can_get_state` delivers: the state, and the counters it writes. -/
structure Sample where
  state : CanState
  errCnt : CanBusErrCnt
  deriving DecidableEq, Repr

/-- What the loop of `poll_state_thread` keeps from one iteration to the next. -/
structure Locals where
  errCntPrev : CanBusErrCnt
  statePrev : CanState
  deriving DecidableEq, Repr

def Locals.start : Locals := ⟨⟨0, 0⟩, .errorActive⟩

inductive Call where
  | printk (line : Line)
  | kSleep (milliseconds : Nat)
  deriving DecidableEq, Repr

/-- The sample an iteration is delivered, and what the iteration calls after that. -/
structure Iteration where
  sample : Sample
  calls : List Call
  deriving DecidableEq, Repr

def Locals.iterate (locals : Locals) (sample : Sample) : Locals × List Call :=
  let state := sample.state
  let errCnt := sample.errCnt
  if errCnt.txErrCnt ≠ locals.errCntPrev.txErrCnt
      ∨ errCnt.rxErrCnt ≠ locals.errCntPrev.rxErrCnt
      ∨ locals.statePrev ≠ state then
    let locals := { locals with errCntPrev.txErrCnt := errCnt.txErrCnt }
    let locals := { locals with errCntPrev.rxErrCnt := errCnt.rxErrCnt }
    let locals := { locals with statePrev := state }
    (locals, [.printk ⟨stateToStr state, errCnt.rxErrCnt, errCnt.txErrCnt⟩])
  else (locals, [.kSleep 100])

/-- The iterations of the loop over the samples it is delivered. -/
def pollStateThread : Locals → List Sample → List Iteration
  | _, [] => []
  | locals, sample :: samples =>
      ⟨sample, (locals.iterate sample).2⟩ :: pollStateThread (locals.iterate sample).1 samples

end RcFirmware.CanHandler
