import RcFirmware.Firmware
import RcFirmware.MainLoop

/-!
# The main thread

`main` enables USB, waits for a terminal to raise DTR, starts the subsystems and enters its loop. It
does nothing itself but call the rest of the system, and it reads two answers only: what `usb_enable`
returns, and what `uart_line_ctrl_get` writes to `dtr`. Everything else it is told it drops.
-/

namespace RcFirmware.MainThread

open MainLoop

inductive Call where
  | usbEnable
  | uartLineCtrlGet
  | kSleep (ms : Nat)
  | hcsrInit
  | initSensors
  | motorInit
  | initButtonCallback
  | wqInit
  | motorSetSpeed (command : Motor.Command)
  | makeReadingAndSend
  | logOutputAllSensors
  deriving DecidableEq, Repr

/-- What a call returns, and what it writes to `dtr`, if it writes there. -/
structure Answer where
  ret : BitVec 32
  dtr : Option (BitVec 32)
  deriving DecidableEq, Repr

def startup : List Call := [.hcsrInit, .initSensors, .motorInit, .initButtonCallback, .wqInit]

def turn (locals : Locals) : List Call :=
  locals.commands.map .motorSetSpeed
    ++ [.makeReadingAndSend, .kSleep 100, .logOutputAllSensors, .kSleep 900]

theorem turn_ne_nil (locals : Locals) : turn locals ≠ [] := by
  simp [turn]

/-- The calls `main` has still to make before the turn that `locals` begin. As the loop has no end,
there always is one. -/
structure Progress where
  todo : List Call
  locals : Locals
  todo_ne_nil : todo ≠ []

def Progress.call (progress : Progress) : Call := progress.todo.head progress.todo_ne_nil

def Progress.after (progress : Progress) : Progress :=
  if htail : progress.todo.tail = [] then
    ⟨turn progress.locals, progress.locals.next, turn_ne_nil progress.locals⟩
  else ⟨progress.todo.tail, progress.locals, htail⟩

/-- The call `main` is about to make. While it polls, `dtr` is 0. -/
inductive Control where
  | usbEnable
  | returned
  | poll
  | pollSleep (dtr : BitVec 32)
  | running (progress : Progress)

/-- The test of the `while`. -/
def Control.test (dtr : BitVec 32) : Control :=
  if dtr = 0 then .poll else .running ⟨startup, .start, List.cons_ne_nil _ _⟩

def Control.call? : Control → Option Call
  | .usbEnable => some .usbEnable
  | .returned => none
  | .poll => some .uartLineCtrlGet
  | .pollSleep _ => some (.kSleep 1000)
  | .running progress => some progress.call

def Control.resume (answer : Answer) : Control → Control
  | .usbEnable => if answer.ret ≠ 0 then .returned else .test 0
  | .returned => .returned
  | .poll => .pollSleep (answer.dtr.getD 0)
  | .pollSleep dtr => .test dtr
  | .running progress => .running progress.after

structure State where
  control : Control
  log : List (Call × Answer)

def start : State := ⟨.usbEnable, []⟩

def step (state : State) (answer : Answer) : State :=
  match state.control.call? with
  | none => state
  | some call => ⟨state.control.resume answer, state.log ++ [(call, answer)]⟩

def State.calls (state : State) : List Call := state.log.map Prod.fst

/-! ### What the calls are to the other models -/

def Call.command? : Call → Option Motor.Command
  | .motorSetSpeed command => some command
  | _ => none

/-- The call as what `main` does with the readings. -/
def Call.actions (config : SensorReading.Config) : Call → List Firmware.Action
  | .makeReadingAndSend => [.makeReadingAndSend]
  | .logOutputAllSensors => (Firmware.logOutputAllSensors config).map Firmware.LogInf.action
  | _ => []

end RcFirmware.MainThread
