import RcFirmware.CapSensorChannel
import RcFirmware.Lib.Word
import Mathlib.Tactic.NormNum

/-!
# The moisture of the soil sensor

The readings of a dry and of a wet soil both depend on the supply, and over the whole range of the
reference the wet one lies below. The percentage is therefore a falling line between the two, flat
beyond them, and its two parts in the sensor value put together are the percentage truncated to
millionths.
-/

namespace RcFirmware.CapSensor

/-- How the moisture and the sensor value written for it depend on the sample. -/
structure MapsMoisture (channels : SensorChannels) (data : Data) : Prop where
  wet_lt_dry : wet data.vdd < dry data.vdd
  percent : 0 ≤ moist data ∧ moist data ≤ 100
  of_dry : dry data.vdd ≤ data.rawCap.toInt → moist data = 0
  of_wet : data.rawCap.toInt ≤ wet data.vdd → moist data = 100
  falls : ∀ data' : Data, data'.millisVdd = data.millisVdd →
    data.rawCap.toInt ≤ data'.rawCap.toInt →
      moist data' ≤ moist data ∧ (humidityValue data').micro ≤ (humidityValue data).micro
  written : ∀ val, capSensorChannelGet channels data (channels.humidity.setWidth 32) val
    = (0, humidityValue data)
  val1 : 0 ≤ (humidityValue data).val1.toInt ∧ (humidityValue data).val1.toInt ≤ 100
  val2 : 0 ≤ (humidityValue data).val2.toInt ∧ (humidityValue data).val2.toInt < 1000000
  micro : (humidityValue data).micro = ⌊1000000 * moist data⌋

section

variable {vdd : Rat} (hzero : 0 ≤ vdd) (hfull : vdd ≤ 3.6)
include hzero hfull

theorem wet_lt_dry : wet vdd < dry vdd := by
  have hsquare : vdd * vdd ≤ 3.6 * vdd := mul_le_mul_of_nonneg_right hfull hzero
  rw [wet, dry]
  linarith

theorem slope_neg : wet vdd - dry vdd < 0 := sub_neg.mpr (wet_lt_dry hzero hfull)

theorem percent_antitone : Antitone (getSoilMoisturePercent vdd) := by
  intro raw raw' hraw
  have hvalue : (raw' - dry vdd) / (wet vdd - dry vdd) ≤ (raw - dry vdd) / (wet vdd - dry vdd) :=
    (div_le_div_right_of_neg (slope_neg hzero hfull)).mpr (sub_le_sub_right hraw _)
  exact mul_le_mul_of_nonneg_right (Clamp.clamp_monotone zero_le_one hvalue) (by norm_num)

theorem percent_of_dry {raw : Rat} (hdry : dry vdd ≤ raw) : getSoilMoisturePercent vdd raw = 0 := by
  have hvalue : (raw - dry vdd) / (wet vdd - dry vdd) ≤ 0 :=
    div_nonpos_of_nonneg_of_nonpos (sub_nonneg.mpr hdry) (slope_neg hzero hfull).le
  rw [getSoilMoisturePercent, Clamp.clamp_of_le_lo hvalue zero_le_one, zero_mul]

theorem percent_of_wet {raw : Rat} (hwet : raw ≤ wet vdd) :
    getSoilMoisturePercent vdd raw = 100 := by
  have hvalue : 1 ≤ (raw - dry vdd) / (wet vdd - dry vdd) :=
    (one_le_div_of_neg (slope_neg hzero hfull)).mpr (sub_le_sub_right hwet _)
  rw [getSoilMoisturePercent, Clamp.clamp_of_hi_le hvalue zero_le_one, one_mul]

end

theorem percent_bounds (vdd raw : Rat) :
    0 ≤ getSoilMoisturePercent vdd raw ∧ getSoilMoisturePercent vdd raw ≤ 100 := by
  have hlo := Clamp.lo_le_clamp zero_le_one ((raw - dry vdd) / (wet vdd - dry vdd))
  have hhi := Clamp.clamp_le_hi zero_le_one ((raw - dry vdd) / (wet vdd - dry vdd))
  rw [getSoilMoisturePercent]
  constructor <;> linarith

/-! ### The sensor value -/

section

variable (data : Data)

theorem moist_nonneg : 0 ≤ moist data := (percent_bounds data.vdd data.rawCap.toInt).1

theorem moist_le : moist data ≤ 100 := (percent_bounds data.vdd data.rawCap.toInt).2

theorem truncate_moist_bounds :
    0 ≤ Scaling.truncate (moist data) ∧ Scaling.truncate (moist data) ≤ 100 := by
  rw [Scaling.truncate_of_nonneg (moist_nonneg data)]
  constructor
  · exact Int.floor_nonneg.mpr (moist_nonneg data)
  · calc
      ⌊moist data⌋ ≤ ⌊(100 : Rat)⌋ := Int.floor_le_floor (moist_le data)
      _ = 100 := Int.floor_ofNat 100

theorem truncate_fraction_bounds :
    0 ≤ Scaling.truncate ((moist data - Scaling.truncate (moist data)) * 1000000)
      ∧ Scaling.truncate ((moist data - Scaling.truncate (moist data)) * 1000000) < 1000000 := by
  have hbounds := Scaling.truncate_fraction_bounds (moist_nonneg data) (k := 1000000) (by decide)
  rwa [Nat.cast_ofNat] at hbounds

theorem humidityValue_val1 :
    (humidityValue data).val1.toInt = Scaling.truncate (moist data) := by
  have hbounds := truncate_moist_bounds data
  exact BitVec.toInt_ofInt_eq_self (by decide) (by omega) (by omega)

theorem humidityValue_val2 :
    (humidityValue data).val2.toInt
      = Scaling.truncate ((moist data - Scaling.truncate (moist data)) * 1000000) := by
  have hbounds := truncate_fraction_bounds data
  exact BitVec.toInt_ofInt_eq_self (by decide) (by omega) (by omega)

theorem humidityValue_micro : (humidityValue data).micro = ⌊1000000 * moist data⌋ := by
  have hparts := Scaling.truncate_mul_add_fraction (moist_nonneg data) 1000000
  rw [Nat.cast_ofNat, Nat.cast_ofNat] at hparts
  rw [SensorValue.micro, humidityValue_val1, humidityValue_val2, mul_comm 1000000 (moist data)]
  exact hparts

theorem humidityValue_micro_le {data' : Data} (hmoist : moist data' ≤ moist data) :
    (humidityValue data').micro ≤ (humidityValue data).micro := by
  rw [humidityValue_micro, humidityValue_micro]
  exact Int.floor_le_floor (mul_le_mul_of_nonneg_left hmoist (by norm_num))

variable (channels : SensorChannels) (val : SensorValue)

theorem channelGet_humidity :
    capSensorChannelGet channels data (channels.humidity.setWidth 32) val
      = (0, humidityValue data) := by
  have hchan := Word.setWidth_setWidth_self (w := 32) (by decide) channels.humidity
  rw [capSensorChannelGet, hchan, if_neg channels.distinct.symm, if_pos rfl]

variable {data}

theorem vdd_nonneg (hzero : 0 ≤ data.millisVdd.toInt) : 0 ≤ data.vdd :=
  div_nonneg (Int.cast_nonneg hzero) (by norm_num)

theorem vdd_le (hfull : data.millisVdd.toInt ≤ 3600) : data.vdd ≤ 3.6 := by
  have hcast : (data.millisVdd.toInt : Rat) ≤ 3600 := by exact_mod_cast hfull
  rw [Data.vdd, div_le_iff₀ (by norm_num)]
  linarith

/-- **The moisture.** At every supply of up to 3.6 volts and for every sample of the probe, the moisture
falls from wet to dry within its bounds, and the sensor value is the moisture truncated. -/
theorem moisture_mapped (hzero : 0 ≤ data.millisVdd.toInt) (hfull : data.millisVdd.toInt ≤ 3600) :
    MapsMoisture channels data where
  wet_lt_dry := wet_lt_dry (vdd_nonneg hzero) (vdd_le hfull)
  percent := ⟨moist_nonneg data, moist_le data⟩
  of_dry := percent_of_dry (vdd_nonneg hzero) (vdd_le hfull)
  of_wet := percent_of_wet (vdd_nonneg hzero) (vdd_le hfull)
  falls := by
    intro data' hsupply hsample
    have hmoist : moist data' ≤ moist data := by
      rw [moist, moist, Data.vdd, hsupply]
      exact percent_antitone (vdd_nonneg hzero) (vdd_le hfull) (Int.cast_le.mpr hsample)
    exact ⟨hmoist, humidityValue_micro_le data hmoist⟩
  written := channelGet_humidity data channels
  val1 := by
    rw [humidityValue_val1]
    exact truncate_moist_bounds data
  val2 := by
    rw [humidityValue_val2]
    exact truncate_fraction_bounds data
  micro := humidityValue_micro data

theorem moisture_mapped_of_three_volts : MapsMoisture ⟨30, 16, by decide⟩ ⟨300, 0, 0, 3000⟩ :=
  moisture_mapped _ (by decide) (by decide)

end

end RcFirmware.CapSensor
