import RcFirmware.CapSensorChannel
import RcFirmware.Lib.Word
import RcFirmware.Proof.CapSensorErrors

/-!
# The voltage of the soil sensor

`/ 1000U` and `% 1000U` read the signed millivolts as a `uint32_t`. What the sensor value holds is
therefore a well-formed encoding of the word, and of the millivolts as long as they are not negative;
a supply measured slightly below zero comes out as more than four million volts.
-/

namespace RcFirmware.CapSensor

structure EncodesMillivolts (value : SensorValue) (millis : Int) : Prop where
  micro : value.micro = 1000 * millis
  wellFormed : value.WellFormed

section

variable (data : Data)

theorem voltageValue_val1 :
    (voltageValue data).val1.toInt = (data.millisVdd.toNat / 1000 : Nat) := by
  have hlt := data.millisVdd.isLt
  have hquotient : (voltageValue data).val1.toNat = data.millisVdd.toNat / 1000 :=
    BitVec.toNat_udiv
  exact Word.toInt_eq_of_toNat_eq hquotient (by omega)

theorem voltageValue_val2 :
    (voltageValue data).val2.toInt = (data.millisVdd.toNat % 1000 * 1000 : Nat) := by
  have hlt : data.millisVdd.toNat % 1000 < 1000 := Nat.mod_lt _ (by decide)
  have hproduct : (voltageValue data).val2.toNat = data.millisVdd.toNat % 1000 * 1000 := by
    calc
      (data.millisVdd % 1000 * 1000).toNat
          = (data.millisVdd % 1000).toNat * 1000 % 2 ^ 32 := BitVec.toNat_mul _ _
      _ = data.millisVdd.toNat % 1000 * 1000 % 2 ^ 32 := by
        rw [BitVec.toNat_umod]
        rfl
      _ = data.millisVdd.toNat % 1000 * 1000 := Nat.mod_eq_of_lt (by omega)
  exact Word.toInt_eq_of_toNat_eq hproduct (by omega)

/-- The value encodes the word, read without its sign. -/
theorem voltageValue_micro : (voltageValue data).micro = 1000 * data.millisVdd.toNat := by
  rw [SensorValue.micro, voltageValue_val1, voltageValue_val2]
  omega

theorem voltageValue_wellFormed : (voltageValue data).WellFormed where
  fraction := by
    rw [voltageValue_val2]
    omega
  signs := by
    rw [voltageValue_val1, voltageValue_val2]
    omega

theorem voltageValue_encodes_iff :
    EncodesMillivolts (voltageValue data) data.millisVdd.toInt ↔ 0 ≤ data.millisVdd.toInt := by
  have hsign := BitVec.toInt_eq_toNat_cond data.millisVdd
  have hlt := data.millisVdd.isLt
  constructor
  · intro hencodes
    have hmicro := hencodes.micro
    rw [voltageValue_micro] at hmicro
    omega
  · intro hnonneg
    refine ⟨?_, voltageValue_wellFormed data⟩
    rw [voltageValue_micro]
    split_ifs at hsign <;> omega

variable (channels : SensorChannels) (val : SensorValue)

theorem channelGet_voltage :
    capSensorChannelGet channels data (channels.voltage.setWidth 32) val
      = (0, voltageValue data) :=
  if_pos (Word.setWidth_setWidth_self (by decide) channels.voltage)

/-- **The encoding.** Whatever millivolts a fetch has left, the get of the voltage encodes them exactly
when they are not negative. -/
theorem channelGet_voltage_encodes_iff :
    (∃ value, capSensorChannelGet channels data (channels.voltage.setWidth 32) val = (0, value)
        ∧ EncodesMillivolts value data.millisVdd.toInt)
      ↔ 0 ≤ data.millisVdd.toInt := by
  rw [channelGet_voltage, ← voltageValue_encodes_iff]
  constructor
  · rintro ⟨value, hvalue, hencodes⟩
    cases hvalue
    exact hencodes
  · intro hencodes
    exact ⟨voltageValue data, rfl, hencodes⟩

/-- Where the conversion to millivolts keeps the sign, the sign that decides is that of the sample. -/
theorem fetch_voltageValue_encodes_iff (config : Config) {outcomes : Outcomes}
    (hready : outcomes.adcReady = true)
    (hsign : ∀ raw, 0 ≤ (outcomes.rawToMillivolts raw).toInt ↔ 0 ≤ raw.toInt) :
    EncodesMillivolts (voltageValue (capSensorSampleFetch config outcomes data).data)
        (capSensorSampleFetch config outcomes data).data.millisVdd.toInt
      ↔ 0 ≤ (outcomes.buffer data .vdd).toInt := by
  rw [voltageValue_encodes_iff, (fetch_of_ready config data hready).2, hsign,
    BitVec.toInt_signExtend_of_le (by decide)]

end

/-- What a fetch leaves of a supply sampled at -1, with 10 bits and 3600 millivolts full scale. -/
def belowGround : Data :=
  (capSensorSampleFetch ⟨5, 2, 0⟩
    ⟨true, fun _ => 0, fun input => if input = .cap then some 500 else some (-1),
      fun raw => (raw * 3600).sshiftRight 10⟩ ⟨0, 0, 0, 0⟩).data

/-- The millivolts are -4, and the get reports 4294967.292 volts. -/
theorem belowGround_not_encoded :
    ¬ ∃ value, capSensorChannelGet ⟨30, 16, by decide⟩ belowGround 30 ⟨0, 0⟩ = (0, value)
        ∧ EncodesMillivolts value belowGround.millisVdd.toInt := by
  rintro ⟨value, hget, hencodes⟩
  cases hget
  have hmicro := hencodes.micro
  revert hmicro
  decide

end RcFirmware.CapSensor
