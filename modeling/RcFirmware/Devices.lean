import RcFirmware.CapSensor
import RcFirmware.Motor
import RcFirmware.SensorReading

/-!
# Devices behind globals

`init_sensors` and `motor_init` put device pointers into globals and ask each device whether it is
ready; the functions that use the devices run later and find the pointers there. What the checks come
to is written to the log. Here every call to a driver is recorded with the pointer it was made
through, beside what the functions do to the readings and the samples.
-/

namespace RcFirmware.Devices

open SensorReading

inductive Device where
  | bme280
  | vl53l0x
  | pwm (dev : Motor.PwmDev)
  | adc
  deriving DecidableEq, Repr

inductive Api where
  | sensorSampleFetch
  | sensorChannelGet (channel : BitVec 32)
  | pwmPinSetCycles (pin period pulse : BitVec 32) (flags : BitVec 8)
  | adcChannelSetup (input : CapSensor.Input)
  | adcRead (input : CapSensor.Input)
  deriving DecidableEq, Repr

/-- A device pointer; `none` is `NULL`. -/
abbrev DevicePtr := Option Device

structure Use where
  dev : DevicePtr
  api : Api
  deriving DecidableEq, Repr

/-- What is fixed while the firmware runs: the configuration, the devices the devicetree has, and
which of them came up. -/
structure Board where
  config : SensorReading.Config
  soilConfig : CapSensor.Config
  chan : SensorChannel → BitVec 32
  found : Device → Bool
  ready : Device → Bool

def Board.deviceDtGetAny (board : Board) (dev : Device) : DevicePtr :=
  if board.found dev then some dev else none

def Board.deviceIsReady (board : Board) : DevicePtr → Bool
  | none => false
  | some dev => board.ready dev

structure State where
  devEnv : DevicePtr
  devVl53l0x : DevicePtr
  pwmDev : Motor.PwmDev → DevicePtr
  sensorReadings : Nat → SensorData
  soil : CapSensor.Data
  log : List String
  uses : List Use

def boot : State where
  devEnv := none
  devVl53l0x := none
  pwmDev := fun _ => none
  sensorReadings := fun _ => ⟨0, 0, ⟨0, 0⟩⟩
  soil := ⟨0, 0, 0, 0⟩
  log := []
  uses := []

section

variable (board : Board)

/-! ### Initialisation -/

/-- What `init_sensors` logs about the pointer it got for a sensor. -/
def sensorLog (name : String) (dev : DevicePtr) : List String :=
  (if dev = none then ["Error: " ++ name ++ " not found."] else [])
    ++ (if ¬ board.deviceIsReady dev then
        ["Device " ++ name
          ++ " is not ready, check the driver initialization logs for errors."]
      else [])
    ++ ["Found device " ++ name ++ " getting sensor data\n"]

def initSensors (state : State) : State :=
  let state :=
    if board.config.bme280 then
      let devEnv := board.deviceDtGetAny .bme280
      { state with devEnv := devEnv, log := state.log ++ sensorLog board "BME280" devEnv }
    else state
  if board.config.vl53l0x then
    let devVl53l0x := board.deviceDtGetAny .vl53l0x
    { state with
      devVl53l0x := devVl53l0x
      log := state.log ++ sensorLog board "VL53L0x" devVl53l0x }
  else state

def initPwm (state : State) (dev : Motor.PwmDev) : State :=
  { state with
    pwmDev := Function.update state.pwmDev dev (some (.pwm dev))
    log := state.log
      ++ if ¬ board.deviceIsReady (some (.pwm dev)) then ["PWM device is not ready\n"] else [] }

def motorInit (state : State) : State :=
  [Motor.PwmDev.pwm0, .pwm1, .pwm3].foldl (initPwm board) state

/-! ### Uses -/

/-- The calls a sensor's block makes: no channel is read after a fetch that failed. -/
def sensorUses (enabled : Bool) (dev : DevicePtr) (sampleFetch : Int)
    (channels : List (BitVec 32)) : List Use :=
  if enabled then
    match dev with
    | none => []
    | some dev =>
        ⟨dev, .sensorSampleFetch⟩ ::
          if sampleFetch ≠ 0 then [] else channels.map fun channel => ⟨dev, .sensorChannelGet channel⟩
  else []

def workUses (sensor : Device → SensorDevice) (state : State) : List Use :=
  sensorUses board.config.bme280 state.devEnv (sensor .bme280).sampleFetch
      [board.chan .ambientTemp, board.chan .press, board.chan .humidity]
    ++ sensorUses board.config.vl53l0x state.devVl53l0x (sensor .vl53l0x).sampleFetch
      [board.chan .distance, board.chan .prox]

/-- `sensor` is what the two sensors do in this run of the work item. -/
def workMakeReadingsAndSend (sensor : Device → SensorDevice) (hcsr : Hcsr.State) (state : State) :
    State :=
  let found : SensorReading.Board :=
    ⟨board.config, state.devEnv.map sensor, state.devVl53l0x.map sensor, hcsr⟩
  { state with
    sensorReadings :=
      (SensorReading.workMakeReadingsAndSend board.chan found state.sensorReadings).readings
    uses := state.uses ++ workUses board sensor state }

def motorUses (pwmDev : Motor.PwmDev → DevicePtr) (command : Motor.Command) : List Use :=
  (Motor.motorSetSpeed command.motor command.dir command.speed).2.map fun call =>
    ⟨pwmDev call.dev, .pwmPinSetCycles call.pin call.period call.pulse call.flags⟩

def motorSetSpeed (command : Motor.Command) (state : State) : State :=
  { state with uses := state.uses ++ motorUses state.pwmDev command }

/-- The calls to the ADC; the power and the excitation of the probe are other devices' matter. -/
def adcUse : CapSensor.Command → Option Use
  | .adcChannelSetup input => some ⟨some .adc, .adcChannelSetup input⟩
  | .adcRead input => some ⟨some .adc, .adcRead input⟩
  | .pmDeviceStateSet _ _ => none
  | .gpioPinConfigureDt _ => none
  | .gpioPinSetDt _ => none
  | .pwmPinSetUsec _ _ _ _ => none

def soilUses (returned : CapSensor.Returned) : List Use := returned.issued.filterMap adcUse

/-- The ADC is as ready as the board has it. -/
def soilFetch (outcomes : CapSensor.Outcomes) (state : State) : CapSensor.Returned :=
  CapSensor.capSensorSampleFetch board.soilConfig { outcomes with adcReady := board.ready .adc }
    state.soil

def capSensorSampleFetch (outcomes : CapSensor.Outcomes) (state : State) : State :=
  let returned := soilFetch board outcomes state
  { state with soil := returned.data, uses := state.uses ++ soilUses returned }

/-! ### Runs -/

inductive Call where
  | initSensors
  | motorInit
  | workMakeReadingsAndSend (sensor : Device → SensorDevice) (hcsr : Hcsr.State)
  | motorSetSpeed (command : Motor.Command)
  | capSensorSampleFetch (outcomes : CapSensor.Outcomes)

def step (state : State) : Call → State
  | .initSensors => initSensors board state
  | .motorInit => motorInit board state
  | .workMakeReadingsAndSend sensor hcsr => workMakeReadingsAndSend board sensor hcsr state
  | .motorSetSpeed command => motorSetSpeed command state
  | .capSensorSampleFetch outcomes => capSensorSampleFetch board outcomes state

/-- The calls to drivers that one step makes. -/
def issued (state : State) : Call → List Use
  | .initSensors => []
  | .motorInit => []
  | .workMakeReadingsAndSend sensor _ => workUses board sensor state
  | .motorSetSpeed command => motorUses state.pwmDev command
  | .capSensorSampleFetch outcomes => soilUses (soilFetch board outcomes state)

/-! ### What one call does -/

variable {board}

theorem uses_step (state : State) (call : Call) :
    (step board state call).uses = state.uses ++ issued board state call := by
  cases call with
  | initSensors =>
      simp only [step, initSensors, issued, List.append_nil]
      split_ifs <;> rfl
  | motorInit => exact (List.append_nil _).symm
  | workMakeReadingsAndSend sensor hcsr => rfl
  | motorSetSpeed command => rfl
  | capSensorSampleFetch outcomes => rfl

end

end RcFirmware.Devices
