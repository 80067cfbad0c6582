import RcFirmware.Lib.Machine
import RcFirmware.Zephyr

/-!
# The capacitive soil sensor

To take a sample the driver powers the ADC up, starts the excitation of the probe with
`soilsensor_pwm`, reads the supply and the probe, and takes everything down again. It looks at almost
none of what its device calls return, so a fetch is modelled by the commands it issues; what the
devices make of them, and what the ADC puts in its buffers, is given by `Outcomes`.
-/

namespace RcFirmware.CapSensor

inductive Dev where
  | adc
  | pwm
  deriving DecidableEq, Repr

inductive PowerState where
  | active
  | suspended
  deriving DecidableEq, Repr

inductive GpioFlags where
  | outputActive
  | disconnected
  deriving DecidableEq, Repr

inductive Input where
  | cap
  | vdd
  deriving DecidableEq, Repr

inductive Command where
  | pmDeviceStateSet (dev : Dev) (state : PowerState)
  | gpioPinConfigureDt (flags : GpioFlags)
  | gpioPinSetDt (value : BitVec 32)
  | pwmPinSetUsec (channel period pulse : BitVec 32) (flags : BitVec 8)
  | adcChannelSetup (input : Input)
  | adcRead (input : Input)
  deriving DecidableEq, Repr

structure Config where
  pwmChannel : BitVec 32
  pwmPeriod : BitVec 32
  pwmFlags : BitVec 8

structure Data where
  rawCap : BitVec 16
  rawVdd : BitVec 16
  millisCap : BitVec 32
  millisVdd : BitVec 32
  deriving DecidableEq, Repr

/-- What the devices do during one fetch: whether the ADC is ready, the result of each command, and
what a read leaves in the buffer of its sequence, if it writes it. -/
structure Outcomes where
  adcReady : Bool
  result : Command → Int
  sample : Input → Option (BitVec 16)
  rawToMillivolts : BitVec 32 → BitVec 32

inductive PwmAction where
  | startPwm
  | stopPwm
  deriving DecidableEq, Repr

/-- The result of an action, which is that of its PWM call, and the commands it issues. -/
def soilsensorPwm (config : Config) (outcomes : Outcomes) (action : PwmAction) :
    Int × List Command :=
  match action with
  | .startPwm =>
      let pwmPinSetUsec :=
        .pwmPinSetUsec config.pwmChannel config.pwmPeriod (config.pwmPeriod / 2) config.pwmFlags
      (outcomes.result pwmPinSetUsec,
        [.pmDeviceStateSet .pwm .active,
          .gpioPinConfigureDt .outputActive,
          .gpioPinSetDt 1,
          pwmPinSetUsec])
  | .stopPwm =>
      let pwmPinSetUsec := .pwmPinSetUsec config.pwmChannel 0 0 config.pwmFlags
      (outcomes.result pwmPinSetUsec,
        [.gpioPinSetDt 0,
          .gpioPinConfigureDt .disconnected,
          pwmPinSetUsec,
          .pmDeviceStateSet .pwm .suspended])

structure Returned where
  rc : Int
  data : Data
  issued : List Command

def capSensorSampleFetch (config : Config) (outcomes : Outcomes) (data : Data) : Returned :=
  let rc : Int := 0
  let issued : List Command :=
    [.pmDeviceStateSet .adc .active, .adcChannelSetup .vdd, .adcChannelSetup .cap]
      ++ (soilsensorPwm config outcomes .startPwm).2
  if ¬ outcomes.adcReady then
    ⟨-enoent, data, issued⟩
  else if rc ≠ 0 then
    ⟨-enotsup, data, issued⟩
  else
    let data := { data with rawVdd := (outcomes.sample .vdd).getD data.rawVdd }
    let data := { data with rawCap := (outcomes.sample .cap).getD data.rawCap }
    -- the result of the second read replaces that of the first
    let rc := outcomes.result (.adcRead .cap)
    let data :=
      { data with
        millisCap := data.rawCap.signExtend 32
        millisVdd := outcomes.rawToMillivolts (data.rawVdd.signExtend 32) }
    ⟨rc, data,
      issued ++ [.adcRead .vdd, .adcRead .cap] ++ (soilsensorPwm config outcomes .stopPwm).2
        ++ [.pmDeviceStateSet .adc .suspended]⟩

/-! ### The lines -/

structure Lines where
  gpioLevel : BitVec 32
  gpioFlags : GpioFlags
  pwmPeriod : BitVec 32
  pwmPulse : BitVec 32
  power : Dev → PowerState

def Lines.command (lines : Lines) : Command → Lines
  | .pmDeviceStateSet dev state =>
      { lines with power := fun other => if other = dev then state else lines.power other }
  | .gpioPinConfigureDt flags => { lines with gpioFlags := flags }
  | .gpioPinSetDt value => { lines with gpioLevel := value }
  | .pwmPinSetUsec _ period pulse _ => { lines with pwmPeriod := period, pwmPulse := pulse }
  | .adcChannelSetup _ => lines
  | .adcRead _ => lines

structure Lines.Released (lines : Lines) : Prop where
  gpioLevel : lines.gpioLevel = 0
  gpioFlags : lines.gpioFlags = .disconnected
  pwmPulse : lines.pwmPulse = 0
  suspended : ∀ dev, lines.power dev = .suspended

structure State where
  data : Data
  lines : Lines

def step (config : Config) (state : State) (outcomes : Outcomes) : State :=
  let returned := capSensorSampleFetch config outcomes state.data
  { data := returned.data, lines := returned.issued.foldl Lines.command state.lines }

end RcFirmware.CapSensor
