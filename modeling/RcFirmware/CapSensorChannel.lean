import RcFirmware.CapSensor
import RcFirmware.Lib.Clamp
import RcFirmware.Lib.Scaling
import Mathlib.Data.Rat.Floor

/-!
# The channels of the capacitive soil sensor

A get turns what the last fetch left into a sensor value: the supply voltage, split by unsigned
arithmetic, or the moisture, where the probe stands between a dry and a wet soil at that supply. The
`double` arithmetic of the moisture is over the rationals.
-/

namespace RcFirmware.CapSensor

/-- The numbers of `enum sensor_channel` the driver looks for. They differ, and fit a `uint16_t`. -/
structure SensorChannels where
  voltage : BitVec 16
  humidity : BitVec 16
  distinct : voltage ≠ humidity

def dry (vdd : Rat) : Rat := -12.9 * vdd * vdd + 111 * vdd + 228

def wet (vdd : Rat) : Rat := -5.71 * vdd * vdd + 60.2 * vdd + 126

def getSoilMoisturePercent (vdd rawAdcOutput : Rat) : Rat :=
  let value := (rawAdcOutput - dry vdd) / (wet vdd - dry vdd)
  Clamp.clamp 0 1 value * 100

/-- Both operands of `/ 1000U` and `% 1000U` are taken as unsigned. -/
def voltageValue (data : Data) : SensorValue :=
  ⟨data.millisVdd / 1000, data.millisVdd % 1000 * 1000⟩

/-- The supply in volts. -/
def Data.vdd (data : Data) : Rat := data.millisVdd.toInt / (1000.0 : Rat)

/-- The moisture of the stored samples, in percent. -/
def moist (data : Data) : Rat := getSoilMoisturePercent data.vdd data.rawCap.toInt

def humidityValue (data : Data) : SensorValue :=
  let moist := moist data
  ⟨BitVec.ofInt 32 (Scaling.truncate moist),
    BitVec.ofInt 32 (Scaling.truncate ((moist - Scaling.truncate moist) * 1000000))⟩

def capSensorChannelGet (channels : SensorChannels) (data : Data) (chan : BitVec 32)
    (val : SensorValue) : Int × SensorValue :=
  if chan.setWidth 16 = channels.voltage then (0, voltageValue data)
  else if chan.setWidth 16 = channels.humidity then (0, humidityValue data)
  else (-enotsup, val)

end RcFirmware.CapSensor
