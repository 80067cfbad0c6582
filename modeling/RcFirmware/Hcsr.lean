import RcFirmware.Lib.Machine
import RcFirmware.Lib.Word
import RcFirmware.Zephyr
import Mathlib.Data.Fin.Basic
import Mathlib.Logic.Function.Basic
import Mathlib.Tactic.FinCases

/-!
# The two HC-SR04 distance sensors

`hcsr_timer` triggers the sensors in turn, and one interrupt handler, `echo_returned`, serves both
echo pins. What the handler does is decided by three globals, `trig_time`, `cur_dist_sensor` and
`trig_type`, and by how the GPIO driver was last told to interrupt on each pin. A run is any list of
timer expiries and edges on the echo pins, each carrying the cycle counter the code reads while it
handles it.

`k_cyc_to_us_floor64` belongs to the kernel and stays a parameter.
-/

namespace RcFirmware.Hcsr

abbrev maxDistanceSensors : Nat := 2

instance : NeZero maxDistanceSensors := ⟨by decide⟩

/-- A sensor number: `cur_dist_sensor` is only ever 0 or 1. -/
abbrev SensorNo := Fin maxDistanceSensors

def SensorNo.not (sensor : SensorNo) : SensorNo := if sensor = 0 then 1 else 0

inductive GpioEdge where
  | rising
  | falling
  deriving DecidableEq, Repr

structure EchoPin where
  input : Bool
  interrupt : Option GpioEdge
  callbackAdded : Bool
  deriving DecidableEq, Repr

structure TrigPin where
  output : Bool
  level : Bool
  deriving DecidableEq, Repr

/-- The globals of the module and what the GPIO driver holds of its pins. `stores` lists every
assignment to `distance_readings` so far, a record the code does not keep. -/
structure State where
  trigTime : BitVec 64
  curDistSensor : SensorNo
  trigType : BitVec 8
  distanceReadings : SensorNo → SensorValue
  trig : SensorNo → TrigPin
  echo : SensorNo → EchoPin
  timerStarted : Bool
  stores : List (SensorNo × SensorValue)

def boot : State where
  trigTime := 0
  curDistSensor := 0
  trigType := 0
  distanceReadings := fun _ => ⟨0, 0⟩
  trig := fun _ => ⟨false, false⟩
  echo := fun _ => ⟨false, none, false⟩
  timerStarted := false
  stores := []

/-! ### GPIO -/

def gpioPinConfigureOutput (sensor : SensorNo) (state : State) : State :=
  { state with
    trig := Function.update state.trig sensor { state.trig sensor with output := true } }

def gpioPinSetDt (sensor : SensorNo) (level : Bool) (state : State) : State :=
  { state with
    trig := Function.update state.trig sensor { state.trig sensor with level := level } }

def gpioPinConfigureInput (sensor : SensorNo) (state : State) : State :=
  { state with
    echo := Function.update state.echo sensor { state.echo sensor with input := true } }

def gpioPinInterruptConfigureDt (sensor : SensorNo) (edge : GpioEdge) (state : State) : State :=
  { state with
    echo := Function.update state.echo sensor { state.echo sensor with interrupt := some edge } }

def gpioAddCallback (sensor : SensorNo) (state : State) : State :=
  { state with
    echo := Function.update state.echo sensor { state.echo sensor with callbackAdded := true } }

def gpioRemoveCallback (sensor : SensorNo) (state : State) : State :=
  { state with
    echo := Function.update state.echo sensor { state.echo sensor with callbackAdded := false } }

/-! ### Initialisation -/

structure InitOutcome where
  deviceIsReady : SensorNo → Bool
  pinConfigure : SensorNo → Int
  interruptConfigure : SensorNo → Int

/-- The checks `hcsr_init` makes of one echo pin; it goes on to `next` only past all three. The pins
are active high, so `GPIO_INT_EDGE_TO_ACTIVE` is the rising edge. -/
def initEcho (outcome : InitOutcome) (sensor : SensorNo) (next : State → State) (state : State) :
    State :=
  if ¬ outcome.deviceIsReady sensor then state
  else if outcome.pinConfigure sensor ≠ 0 then state
  else if outcome.interruptConfigure sensor ≠ 0 then gpioPinConfigureInput sensor state
  else next (gpioPinInterruptConfigureDt sensor .rising (gpioPinConfigureInput sensor state))

def hcsrInit (outcome : InitOutcome) (state : State) : State :=
  -- `gpio_init_callback` names `echo_returned` as the handler of both pins, and adds neither
  initEcho outcome 0 (initEcho outcome 1 fun state => { state with timerStarted := true })
    (gpioPinConfigureOutput 1 (gpioPinConfigureOutput 0 state))

def allReady : InitOutcome := ⟨fun _ => true, fun _ => 0, fun _ => 0⟩

/-! ### The timer and the interrupt -/

def sendTrig (now : BitVec 32) (state : State) : State :=
  let state := { state with trigTime := now.setWidth 64 }
  if state.curDistSensor = 0 then
    gpioAddCallback 0 (gpioPinSetDt 0 false (gpioPinSetDt 0 true state))
  else
    let state := gpioAddCallback 1 (gpioPinSetDt 1 false (gpioPinSetDt 1 true state))
    { gpioPinInterruptConfigureDt 1 .rising state with trigType := 0 }

def hcsrTimingHandler (now : BitVec 32) (state : State) : State :=
  sendTrig now { state with curDistSensor := state.curDistSensor.not }

def metersPerSec : BitVec 64 := 340

/-- `DIST_SENSOR_FACTOR` is the unparenthesised `METERS_PER_SEC / 2`: the product comes first, in 64
bits, and the half of it is narrowed to an `int`. -/
def distance (diff : BitVec 64) : BitVec 32 := (diff * metersPerSec / 2).setWidth 32

def distanceValue (diff : BitVec 64) : SensorValue :=
  { val2 := (distance diff).srem 1000000
    val1 := (distance diff).sdiv 1000000 }

def storeReading (sensor : SensorNo) (value : SensorValue) (state : State) : State :=
  { state with
    distanceReadings := Function.update state.distanceReadings sensor value
    stores := state.stores ++ [(sensor, value)] }

def elapsedCycles (now : BitVec 32) (state : State) : BitVec 64 :=
  -- the counter is 32 bits and the stamp 64, so C subtracts in 64
  now.setWidth 64 - state.trigTime

/-- The handler of both echo pins. Which callback and which pin it was called for it does not look
at. -/
def echoReturned (kCycToUsFloor64 : BitVec 64 → BitVec 64) (now : BitVec 32) (state : State) :
    State :=
  if state.trigType = 0#8 then
    let sensor : SensorNo := if state.curDistSensor = 0 then 0 else 1
    let state := gpioAddCallback sensor
      (gpioPinInterruptConfigureDt sensor .falling (gpioRemoveCallback sensor state))
    { state with trigTime := now.setWidth 64, trigType := 1 }
  else
    storeReading state.curDistSensor (distanceValue (kCycToUsFloor64 (elapsedCycles now state)))
      state

def hcsrGet (sensor : SensorNo) (state : State) : SensorValue :=
  { val1 := (state.distanceReadings sensor).val1
    val2 := (state.distanceReadings sensor).val2 }

/-- `k_cyc_to_us_floor64` on a counter of `hz` cycles a second. -/
def cycToUsFloor64 (hz : Nat) (cycles : BitVec 64) : BitVec 64 :=
  BitVec.ofNat 64 (cycles.toNat * 1000000 / hz)

/-! ### Runs -/

inductive Event where
  | timer (now : BitVec 32)
  | edge (pin : SensorNo) (direction : GpioEdge) (now : BitVec 32)
  deriving DecidableEq, Repr

def Event.now : Event → BitVec 32
  | .timer now => now
  | .edge _ _ now => now

/-- The GPIO driver calls the handler for an edge it was told to interrupt on, on a pin whose
callback is added. -/
def State.Interrupts (state : State) (pin : SensorNo) (direction : GpioEdge) : Prop :=
  (state.echo pin).callbackAdded = true ∧ (state.echo pin).interrupt = some direction

instance (state : State) (pin : SensorNo) (direction : GpioEdge) :
    Decidable (state.Interrupts pin direction) :=
  inferInstanceAs (Decidable (_ ∧ _))

def step (kCycToUsFloor64 : BitVec 64 → BitVec 64) (state : State) : Event → State
  | .timer now => hcsrTimingHandler now state
  | .edge pin direction now =>
      if state.Interrupts pin direction then echoReturned kCycToUsFloor64 now state else state

def State.Measures (state : State) : Event → Prop
  | .timer _ => False
  | .edge pin direction _ => state.Interrupts pin direction ∧ state.trigType ≠ 0#8

/-! ### What one call does -/

theorem distanceValue_micro (diff : BitVec 64) :
    (distanceValue diff).micro = (distance diff).toInt :=
  Word.toInt_sdiv_mul_add_srem (distance diff) (by decide)

theorem distance_toInt {diff : BitVec 64} (hfits : 170 * diff.toNat < 2 ^ 31) :
    (distance diff).toInt = 170 * diff.toNat := by
  have hhalf : (diff * metersPerSec / 2).toNat = 170 * diff.toNat := by
    rw [BitVec.toNat_udiv, BitVec.toNat_mul, show metersPerSec.toNat = 340 from rfl,
      show (2 : BitVec 64).toNat = 2 from rfl, Nat.mod_eq_of_lt (by omega)]
    omega
  rw [distance, Word.toInt_setWidth_of_lt _ (by omega), hhalf]
  push_cast
  rfl

theorem SensorNo.ite_eq_self (sensor : SensorNo) :
    (if sensor = 0 then 0 else 1 : SensorNo) = sensor := by
  fin_cases sensor <;> rfl

/-- `hcsr_init` comes to nothing but pin configurations and a started timer, and adds no callback. -/
theorem hcsrInit_boot (outcome : InitOutcome) :
    ∃ trig echo timerStarted, (∀ sensor, (echo sensor).callbackAdded = false)
      ∧ hcsrInit outcome boot =
        { boot with trig := trig, echo := echo, timerStarted := timerStarted } := by
  unfold hcsrInit initEcho
  split_ifs <;> exact ⟨_, _, _, fun sensor => by fin_cases sensor <;> rfl, rfl⟩

def initialised : State :=
  { boot with
    trig := fun _ => ⟨true, false⟩
    echo := fun _ => ⟨true, some .rising, false⟩
    timerStarted := true }

theorem hcsrInit_eq_initialised {outcome : InitOutcome}
    (hinit : (hcsrInit outcome boot).timerStarted = true) :
    hcsrInit outcome boot = initialised := by
  unfold hcsrInit initEcho at hinit ⊢
  split_ifs at hinit ⊢ <;> try exact absurd hinit (by decide)
  simp only [gpioPinConfigureOutput, gpioPinConfigureInput, gpioPinInterruptConfigureDt,
    initialised, boot, State.mk.injEq, true_and, and_true]
  constructor <;> funext sensor <;> fin_cases sensor <;> rfl

/-- Sensor 1's turn re-arms everything the handler looks at, sensor 0's only its callback. -/
theorem hcsrTimingHandler_eq (now : BitVec 32) (state : State) :
    hcsrTimingHandler now state =
      { state with
        trigTime := now.setWidth 64
        curDistSensor := state.curDistSensor.not
        trigType := if state.curDistSensor.not = 0 then state.trigType else 0
        trig := Function.update state.trig state.curDistSensor.not
          { state.trig state.curDistSensor.not with level := false }
        echo := Function.update state.echo state.curDistSensor.not
          { state.echo state.curDistSensor.not with
            interrupt := if state.curDistSensor.not = 0
              then (state.echo state.curDistSensor.not).interrupt else some .rising
            callbackAdded := true } } := by
  unfold hcsrTimingHandler sendTrig
  by_cases hturn : state.curDistSensor.not = 0
  · simp [hturn, gpioAddCallback, gpioPinSetDt]
  · have hone : state.curDistSensor.not = 1 := by
      generalize state.curDistSensor.not = sensor at hturn ⊢
      fin_cases sensor <;> simp_all
    simp [hone, gpioAddCallback, gpioPinSetDt, gpioPinInterruptConfigureDt]

variable {kCycToUsFloor64 : BitVec 64 → BitVec 64}

theorem echoReturned_of_start {now : BitVec 32} {state : State} (hstart : state.trigType = 0#8) :
    echoReturned kCycToUsFloor64 now state =
      { state with
        trigTime := now.setWidth 64
        trigType := 1
        echo := Function.update state.echo state.curDistSensor
          { state.echo state.curDistSensor with
            interrupt := some .falling
            callbackAdded := true } } := by
  unfold echoReturned
  simp [hstart, SensorNo.ite_eq_self, gpioAddCallback, gpioPinInterruptConfigureDt,
    gpioRemoveCallback]

theorem echoReturned_of_measure {now : BitVec 32} {state : State}
    (hmeasure : state.trigType ≠ 0#8) :
    echoReturned kCycToUsFloor64 now state =
      storeReading state.curDistSensor
        (distanceValue (kCycToUsFloor64 (elapsedCycles now state))) state := by
  rw [echoReturned, if_neg hmeasure]

theorem step_timer_eq (state : State) (now : BitVec 32) :
    step kCycToUsFloor64 state (.timer now) = hcsrTimingHandler now state := rfl

/-- An edge that interrupts starts a measurement or closes one. -/
theorem step_edge_eq (state : State) (pin : SensorNo) (direction : GpioEdge) (now : BitVec 32) :
    step kCycToUsFloor64 state (.edge pin direction now) =
      if state.Interrupts pin direction then
        if state.trigType = 0#8 then
          { state with
            trigTime := now.setWidth 64
            trigType := 1
            echo := Function.update state.echo state.curDistSensor
              { state.echo state.curDistSensor with
                interrupt := some .falling
                callbackAdded := true } }
        else
          storeReading state.curDistSensor
            (distanceValue (kCycToUsFloor64 (elapsedCycles now state))) state
      else state := by
  by_cases hinterrupts : state.Interrupts pin direction
  · by_cases hstart : state.trigType = 0#8
    · simp only [step, if_pos hinterrupts, if_pos hstart, echoReturned_of_start hstart]
    · simp only [step, if_pos hinterrupts, if_neg hstart, echoReturned_of_measure hstart]
  · rw [step, if_neg hinterrupts, if_neg hinterrupts]

theorem step_of_measures {state : State} {event : Event} (hmeasures : state.Measures event) :
    step kCycToUsFloor64 state event =
      storeReading state.curDistSensor
        (distanceValue (kCycToUsFloor64 (elapsedCycles event.now state))) state := by
  cases event with
  | timer now => exact hmeasures.elim
  | edge pin direction now =>
      rw [step, if_pos hmeasures.1, echoReturned_of_measure hmeasures.2, Event.now]

theorem step_of_not_measures {state : State} {event : Event} (hmeasures : ¬ state.Measures event) :
    (step kCycToUsFloor64 state event).stores = state.stores
      ∧ (step kCycToUsFloor64 state event).distanceReadings = state.distanceReadings := by
  cases event with
  | timer now => simp [step, hcsrTimingHandler_eq]
  | edge pin direction now =>
      by_cases hinterrupts : state.Interrupts pin direction
      · have hstart : state.trigType = 0#8 := by
          by_contra hne
          exact hmeasures ⟨hinterrupts, hne⟩
        simp [step, hinterrupts, echoReturned_of_start hstart]
      · simp [step, hinterrupts]

end RcFirmware.Hcsr
