import Mathlib.Data.BitVec

/-!
# What the firmware takes from Zephyr

The error numbers it returns and the fixed-point value every sensor driver reports in.
-/

namespace RcFirmware

def enoent : Int := 2

def eio : Int := 5

def enodev : Int := 19

def einval : Int := 22

def enotsup : Int := 134

/-- `struct sensor_value`: an integer part and a fractional part in millionths, both `int32_t`. -/
structure SensorValue where
  val1 : BitVec 32
  val2 : BitVec 32
  deriving DecidableEq, Repr

def SensorValue.micro (value : SensorValue) : Int :=
  value.val1.toInt * 1000000 + value.val2.toInt

/-- The fraction is less than a unit, and the two parts do not disagree in sign. -/
structure SensorValue.WellFormed (value : SensorValue) : Prop where
  fraction : value.val2.toInt.natAbs < 1000000
  signs : (0 ≤ value.val1.toInt ∧ 0 ≤ value.val2.toInt)
    ∨ (value.val1.toInt ≤ 0 ∧ value.val2.toInt ≤ 0)

end RcFirmware
