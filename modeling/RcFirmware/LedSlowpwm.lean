import RcFirmware.Zephyr

/-!
# LEDs on a slow PWM

The driver sets an LED by one request to its PWM device, in microseconds for a blink and in
nanoseconds for a brightness. An operation is modelled by what it returns and the requests it makes on
the way; what the device answers to a request is given by `pwm`. All times are `uint32_t`.
-/

namespace RcFirmware.LedSlowpwm

/-- An LED of a device, as `LED_SLOWPWM` fills it in. The PWM devices of a board are numbered. -/
structure Led where
  dev : Nat
  channel : BitVec 32
  period : BitVec 32
  flags : BitVec 8
  deriving DecidableEq, Repr

def pwmPolarityNormal : BitVec 8 := 0

/-- `LED_SLOWPWM`: what the devicetree node leaves out has a default. -/
def Led.ofNode (dev : Nat) (channel : BitVec 32) (period : Option (BitVec 32))
    (flags : Option (BitVec 8)) : Led :=
  ⟨dev, channel, period.getD 1000000, flags.getD pwmPolarityNormal⟩

/-- `num_leds` is an `int`, and `LED_SLOWPWM_DEVICE` takes it from the size of the array. -/
structure Config where
  numLeds : BitVec 32
  led : List Led
  arraySize : numLeds.toInt = led.length

inductive PwmUnit where
  | usec
  | nsec
  deriving DecidableEq, Repr

/-- A call of `pwm_pin_set_usec` or `pwm_pin_set_nsec`. -/
structure PwmPinSet where
  unit : PwmUnit
  dev : Nat
  channel : BitVec 32
  period : BitVec 32
  pulse : BitVec 32
  flags : BitVec 8
  deriving DecidableEq, Repr

abbrev Returned := Int × List PwmPinSet

theorem Config.toNat_numLeds (config : Config) : config.numLeds.toNat = config.led.length := by
  have hsize := config.arraySize
  have hlt := config.numLeds.isLt
  rw [BitVec.toInt_eq_toNat_cond] at hsize
  split_ifs at hsize <;> omega

theorem Config.lt_numLeds_iff (config : Config) (led : BitVec 32) :
    led < config.numLeds ↔ led.toNat < config.led.length := by
  rw [BitVec.lt_def, config.toNat_numLeds]

/-- The comparison of the unsigned index with the signed count never meets a negative count. -/
theorem Config.natCast_lt_numLeds_iff (config : Config) (led : BitVec 32) :
    (led.toNat : Int) < config.numLeds.toInt ↔ led < config.numLeds := by
  rw [config.arraySize, Int.ofNat_lt, config.lt_numLeds_iff]

def Config.get (config : Config) (led : BitVec 32) (hled : led < config.numLeds) : Led :=
  config.led.get ⟨led.toNat, (config.lt_numLeds_iff led).mp hled⟩

/-! ### Blinking -/

/-- Whether the sum does not fit, and what is stored of it whether it fits or not. -/
def u32AddOverflow (a b : BitVec 32) : Bool × BitVec 32 := (a.uaddOverflow b, a + b)

def u32MulOverflow (a b : BitVec 32) : Bool × BitVec 32 := (a.umulOverflow b, a * b)

section

variable (pwm : PwmPinSet → Int) (config : Config) (led : BitVec 32)

def ledSlowpwmBlink (delayOn delayOff : BitVec 32) : Returned :=
  if hled : led < config.numLeds then
    let sum := u32AddOverflow delayOn delayOff
    let period := u32MulOverflow sum.2 1000
    let pulse := u32MulOverflow delayOn 1000
    if sum.1 || period.1 || pulse.1 then (-einval, [])
    else
      let ledSlowpwm := config.get led hled
      let request : PwmPinSet :=
        ⟨.usec, ledSlowpwm.dev, ledSlowpwm.channel, period.2, pulse.2, ledSlowpwm.flags⟩
      (pwm request, [request])
  else (-einval, [])

/-! ### Brightness -/

def ledSlowpwmSetBrightness (value : BitVec 8) : Returned :=
  if hled : led < config.numLeds then
    if 100 < value then (-einval, [])
    else
      let ledSlowpwm := config.get led hled
      let pulse := ledSlowpwm.period * value.setWidth 32 / 100
      let request : PwmPinSet :=
        ⟨.nsec, ledSlowpwm.dev, ledSlowpwm.channel, ledSlowpwm.period, pulse, ledSlowpwm.flags⟩
      (pwm request, [request])
  else (-einval, [])

def ledSlowpwmOn : Returned := ledSlowpwmSetBrightness pwm config led 100

def ledSlowpwmOff : Returned := ledSlowpwmSetBrightness pwm config led 0

end

/-! ### Initialisation and power -/

/-- The loop over the LEDs ends at the first whose PWM device is not ready. -/
def ledSlowpwmInit (deviceIsReady : Nat → Bool) (config : Config) : Int :=
  if config.numLeds = 0 then -enodev
  else if config.led.all fun led => deviceIsReady led.dev then 0
  else -enodev

inductive PmDeviceAction where
  | suspend
  | resume
  | other (number : Nat)
  deriving DecidableEq, Repr

inductive PmDeviceState where
  | active
  | suspended
  deriving DecidableEq, Repr

structure PmDeviceStateSet where
  dev : Nat
  state : PmDeviceState
  deriving DecidableEq, Repr

def PmDeviceAction.state? : PmDeviceAction → Option PmDeviceState
  | .suspend => some .suspended
  | .resume => some .active
  | .other _ => none

/-- What `pm_device_state_set` returns goes to the log only. -/
def pmControlLoop (action : PmDeviceAction) : List Led → Int × List PmDeviceStateSet
  | [] => (0, [])
  | led :: leds =>
      match action.state? with
      | none => (-enotsup, [])
      | some state =>
          let rest := pmControlLoop action leds
          (rest.1, ⟨led.dev, state⟩ :: rest.2)

def ledSlowpwmPmControl (config : Config) (action : PmDeviceAction) :
    Int × List PmDeviceStateSet :=
  pmControlLoop action config.led

/-! ### Runs -/

inductive Op where
  | on
  | off
  | blink (delayOn delayOff : BitVec 32)
  | setBrightness (value : BitVec 8)
  deriving DecidableEq, Repr

def Op.exec (pwm : PwmPinSet → Int) (config : Config) (led : BitVec 32) : Op → Returned
  | .on => ledSlowpwmOn pwm config led
  | .off => ledSlowpwmOff pwm config led
  | .blink delayOn delayOff => ledSlowpwmBlink pwm config led delayOn delayOff
  | .setBrightness value => ledSlowpwmSetBrightness pwm config led value

/-- A call of the driver, with what the PWM devices return to it. The power control asks for one LED
after another, also where they share a device, so its answers go by the position of the request. -/
inductive Event where
  | call (led : BitVec 32) (op : Op) (pwm : PwmPinSet → Int)
  | pmControl (action : PmDeviceAction) (pm : Nat → Int)

/-- The PWM devices: the request that each of their channels carried out last, and their power. -/
structure Board where
  pins : Nat → BitVec 32 → Option PwmPinSet
  power : Nat → PmDeviceState

/-- A device carries out what it returns 0 to. -/
def Board.pinSet (pwm : PwmPinSet → Int) (board : Board) (request : PwmPinSet) : Board :=
  if pwm request = 0 then
    { board with
      pins := fun dev channel =>
        if dev = request.dev ∧ channel = request.channel then some request
        else board.pins dev channel }
  else board

def Board.stateSet (pm : Nat → Int) (board : Board) (request : PmDeviceStateSet × Nat) : Board :=
  if pm request.2 = 0 then
    { board with power := Function.update board.power request.1.dev request.1.state }
  else board

def step (config : Config) (board : Board) : Event → Board
  | .call led op pwm => (op.exec pwm config led).2.foldl (Board.pinSet pwm) board
  | .pmControl action pm =>
      (ledSlowpwmPmControl config action).2.zipIdx.foldl (Board.stateSet pm) board

/-- The devices that an event makes requests to. -/
def Event.devices (config : Config) : Event → List Nat
  | .call led op pwm => (op.exec pwm config led).2.map PwmPinSet.dev
  | .pmControl action _ => (ledSlowpwmPmControl config action).2.map PmDeviceStateSet.dev

end RcFirmware.LedSlowpwm
