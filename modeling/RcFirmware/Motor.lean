import RcFirmware.Lib.Machine
import RcFirmware.Zephyr
import Mathlib.Logic.Function.Basic

/-!
# The two drive motors

Each motor is an H-bridge with two PWM inputs on one controller. `motor_set_speed` issues the PWM
calls of a command one after the other and looks at the result of none of them, so it is modelled by
the calls it issues; what becomes of a call is up to the controller, which refuses a pulse longer
than its period. A C `int` is a 32-bit word and its arithmetic wraps.
-/

namespace RcFirmware.Motor

def motorLeft : BitVec 32 := 0
def motorRight : BitVec 32 := 1
def dirForward : BitVec 32 := 4
def dirReverse : BitVec 32 := 5

inductive PwmDev where
  | pwm0
  | pwm1
  | pwm3
  deriving DecidableEq, Repr

-- the channel pins of the board's devicetree overlay
def motor00PwmPort : BitVec 32 := 42
def motor01PwmPort : BitVec 32 := 40
def motor10PwmPort : BitVec 32 := 34
def motor11PwmPort : BitVec 32 := 33

structure PwmCall where
  dev : PwmDev
  pin : BitVec 32
  period : BitVec 32
  pulse : BitVec 32
  flags : BitVec 8
  deriving DecidableEq, Repr

/-- What `motor_set_speed` returns, and the PWM calls it makes on the way. -/
def motorSetSpeed (motor dir speed : BitVec 32) : Int × List PwmCall :=
  let speedValue := 200 - speed
  if motor = motorLeft then
    if dir = dirForward then
      (0, [⟨.pwm3, motor10PwmPort, 200, speedValue, 0⟩, ⟨.pwm3, motor11PwmPort, 200, 200, 0⟩])
    else if dir = dirReverse then
      (0, [⟨.pwm3, motor10PwmPort, 200, 200, 0⟩, ⟨.pwm3, motor11PwmPort, 200, speedValue, 0⟩])
    else (0, [])
  else if motor = motorRight then
    if dir = dirForward then
      (0, [⟨.pwm1, motor00PwmPort, 200, 200, 0⟩, ⟨.pwm1, motor01PwmPort, 200, speedValue, 0⟩])
    else if dir = dirReverse then
      (0, [⟨.pwm1, motor00PwmPort, 200, speedValue, 0⟩, ⟨.pwm1, motor01PwmPort, 200, 200, 0⟩])
    else (0, [])
  else
    -- `MOTOR_EXT` and every other id only log an error
    (0, [])

abbrev Pulses := PwmDev → BitVec 32 → Option (BitVec 32)

def Pulses.set (pulses : Pulses) (dev : PwmDev) (pin pulse : BitVec 32) : Pulses :=
  Function.update pulses dev (Function.update (pulses dev) pin (some pulse))

def pwmPinSetCycles (pulses : Pulses) (call : PwmCall) : Pulses :=
  if call.pulse ≤ call.period then pulses.set call.dev call.pin call.pulse else pulses

structure Command where
  motor : BitVec 32
  dir : BitVec 32
  speed : BitVec 32
  deriving DecidableEq, Repr

def step (pulses : Pulses) (command : Command) : Pulses :=
  (motorSetSpeed command.motor command.dir command.speed).2.foldl pwmPinSetCycles pulses

/-! ### The bridges -/

inductive Bridge where
  | left
  | right
  deriving DecidableEq, Repr

inductive Direction where
  | forward
  | reverse
  deriving DecidableEq, Repr

def Bridge.dev : Bridge → PwmDev
  | .left => .pwm3
  | .right => .pwm1

def Bridge.id : Bridge → BitVec 32
  | .left => motorLeft
  | .right => motorRight

def Direction.id : Direction → BitVec 32
  | .forward => dirForward
  | .reverse => dirReverse

def Bridge.fullPin : Bridge → Direction → BitVec 32
  | .left, .forward => motor11PwmPort
  | .left, .reverse => motor10PwmPort
  | .right, .forward => motor00PwmPort
  | .right, .reverse => motor01PwmPort

def Bridge.modulatedPin : Bridge → Direction → BitVec 32
  | .left, .forward => motor10PwmPort
  | .left, .reverse => motor11PwmPort
  | .right, .forward => motor01PwmPort
  | .right, .reverse => motor00PwmPort

/-- Two of the four branches write the modulated input before the full one. -/
def Bridge.modulatedFirst : Bridge → Direction → Bool
  | .left, .forward => true
  | .left, .reverse => false
  | .right, .forward => false
  | .right, .reverse => true

def Command.bridge? (command : Command) : Option Bridge :=
  if command.motor = motorLeft then some .left
  else if command.motor = motorRight then some .right
  else none

def Command.direction? (command : Command) : Option Direction :=
  if command.dir = dirForward then some .forward
  else if command.dir = dirReverse then some .reverse
  else none

def Command.target? (command : Command) : Option (Bridge × Direction) :=
  command.bridge?.bind fun bridge => command.direction?.map fun direction => (bridge, direction)

def Command.InRange (command : Command) : Prop :=
  0 ≤ command.speed.toInt ∧ command.speed.toInt ≤ 200

instance (command : Command) : Decidable command.InRange := inferInstanceAs (Decidable (_ ∧ _))

/-! ### What one command does -/

theorem Bridge.fullPin_ne_modulatedPin (bridge : Bridge) (direction : Direction) :
    bridge.fullPin direction ≠ bridge.modulatedPin direction := by
  cases bridge <;> cases direction <;> decide

theorem Bridge.dev_injective : Function.Injective Bridge.dev := by
  intro first second hdev
  cases first <;> cases second <;> first | rfl | cases hdev

@[simp]
theorem Pulses.set_self (pulses : Pulses) (dev : PwmDev) (pin pulse : BitVec 32) :
    pulses.set dev pin pulse dev pin = some pulse := by
  simp [set]

theorem Pulses.set_of_pin_ne (pulses : Pulses) (dev : PwmDev) {pin other : BitVec 32}
    (pulse : BitVec 32) (hpin : other ≠ pin) :
    pulses.set dev pin pulse dev other = pulses dev other := by
  simp [set, hpin]

theorem Pulses.set_of_dev_ne (pulses : Pulses) {dev other : PwmDev} (pin pulse : BitVec 32)
    (hdev : other ≠ dev) : pulses.set dev pin pulse other = pulses other := by
  simp [set, hdev]

theorem Pulses.set_comm (pulses : Pulses) (dev : PwmDev) {first second : BitVec 32}
    (pulse pulse' : BitVec 32) (hpin : first ≠ second) :
    (pulses.set dev first pulse).set dev second pulse' =
      (pulses.set dev second pulse').set dev first pulse := by
  simp only [set, Function.update_self, Function.update_idem]
  rw [Function.update_comm hpin]

theorem pulse_le_period_iff (command : Command) :
    200#32 - command.speed ≤ 200#32 ↔ command.InRange := by
  have hlt := command.speed.isLt
  rw [Command.InRange, BitVec.toInt_eq_toNat_cond, BitVec.le_def, BitVec.toNat_sub,
    show (200#32).toNat = 200 from rfl]
  split_ifs <;> omega

theorem target?_eq_some_iff {command : Command} {bridge : Bridge} {direction : Direction} :
    command.target? = some (bridge, direction)
      ↔ command.motor = bridge.id ∧ command.dir = direction.id := by
  simp only [Command.target?, Command.bridge?, Command.direction?, Option.bind_eq_some_iff,
    Option.map_eq_some_iff, Prod.mk.injEq]
  constructor
  · rintro ⟨_, hbridge, _, hdirection, rfl, rfl⟩
    split_ifs at hbridge hdirection <;> cases hbridge <;> cases hdirection <;>
      exact ⟨by assumption, by assumption⟩
  · rintro ⟨hmotor, hdir⟩
    refine ⟨bridge, ?_, direction, ?_, rfl, rfl⟩
    · rw [hmotor]
      cases bridge <;> rfl
    · rw [hdir]
      cases direction <;> rfl

theorem target?_eq_none_iff {command : Command} :
    command.target? = none
      ↔ (command.motor ≠ motorLeft ∧ command.motor ≠ motorRight)
        ∨ (command.dir ≠ dirForward ∧ command.dir ≠ dirReverse) := by
  simp only [Command.target?, Command.bridge?, Command.direction?]
  split_ifs <;> simp_all

theorem motorSetSpeed_of_target (bridge : Bridge) (direction : Direction) (speed : BitVec 32) :
    (motorSetSpeed bridge.id direction.id speed).2 =
      let modulated : PwmCall :=
        ⟨bridge.dev, bridge.modulatedPin direction, 200, 200 - speed, 0⟩
      let full : PwmCall := ⟨bridge.dev, bridge.fullPin direction, 200, 200, 0⟩
      if bridge.modulatedFirst direction then [modulated, full] else [full, modulated] := by
  cases bridge <;> cases direction <;> rfl

theorem motorSetSpeed_of_no_target {command : Command} (htarget : command.target? = none) :
    (motorSetSpeed command.motor command.dir command.speed).2 = [] := by
  rw [target?_eq_none_iff] at htarget
  unfold motorSetSpeed
  split_ifs <;> simp_all

/-- A command that names a bridge and a direction sets the full input whatever the speed is, and the
modulated one only for a speed in range. -/
theorem step_of_target {command : Command} {bridge : Bridge} {direction : Direction}
    (htarget : command.target? = some (bridge, direction)) (pulses : Pulses) :
    step pulses command =
      Pulses.set
        (if command.InRange then
          pulses.set bridge.dev (bridge.modulatedPin direction) (200 - command.speed)
        else pulses) bridge.dev (bridge.fullPin direction) 200 := by
  have hpins := bridge.fullPin_ne_modulatedPin direction
  obtain ⟨hmotor, hdir⟩ := target?_eq_some_iff.mp htarget
  rw [step, hmotor, hdir, motorSetSpeed_of_target]
  by_cases hrange : command.InRange
  · have hpulse := (pulse_le_period_iff command).mpr hrange
    cases bridge.modulatedFirst direction <;>
      simp [pwmPinSetCycles, hpulse, hrange, Pulses.set_comm _ _ _ _ hpins]
  · have hpulse := mt (pulse_le_period_iff command).mp hrange
    cases bridge.modulatedFirst direction <;> simp [pwmPinSetCycles, hpulse, hrange]

theorem step_of_no_target {command : Command} (htarget : command.target? = none)
    (pulses : Pulses) : step pulses command = pulses := by
  rw [step, motorSetSpeed_of_no_target htarget, List.foldl_nil]

end RcFirmware.Motor
