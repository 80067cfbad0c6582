import RcFirmware.LedSlowpwm

/-!
# Which blinks are admitted

The delays come in milliseconds and go out in microseconds, and three checks in a row look for
overflow, the second of them at a period the first has already stored. Together they admit a blink
exactly when its period fits a `uint32_t`; the third never decides anything.
-/

namespace RcFirmware.LedSlowpwm

/-- The LED exists and its period fits, in the numbers themselves. -/
def Admitted (config : Config) (led delayOn delayOff : BitVec 32) : Prop :=
  (led.toNat : Int) < config.numLeds.toInt ∧ 1000 * (delayOn.toNat + delayOff.toNat) < 2 ^ 32

/-- A blink that is admitted requests its exact times, and another one is refused. -/
structure BlinkLaw (pwm : PwmPinSet → Int) (config : Config) (led delayOn delayOff : BitVec 32) :
    Prop where
  called_iff : (∃ request ∈ (ledSlowpwmBlink pwm config led delayOn delayOff).2,
    request.unit = .usec) ↔ Admitted config led delayOn delayOff
  requested : Admitted config led delayOn delayOff → ∃ request,
    ledSlowpwmBlink pwm config led delayOn delayOff = (pwm request, [request])
      ∧ request.period.toNat = 1000 * (delayOn.toNat + delayOff.toNat)
      ∧ request.pulse.toNat = 1000 * delayOn.toNat
      ∧ request.pulse ≤ request.period
  refused : ¬ Admitted config led delayOn delayOff →
    ledSlowpwmBlink pwm config led delayOn delayOff = (-einval, [])

/-! ### The checks -/

section

variable {delayOn delayOff : BitVec 32}

theorem uaddOverflow_iff :
    delayOn.uaddOverflow delayOff = true ↔ 2 ^ 32 ≤ delayOn.toNat + delayOff.toNat :=
  decide_eq_true_iff

theorem umulOverflow_iff (delay : BitVec 32) :
    delay.umulOverflow 1000 = true ↔ 2 ^ 32 ≤ delay.toNat * 1000 :=
  decide_eq_true_iff

/-- The wrapped sum that the second check looks at is one the first has let through. -/
theorem noOverflow_iff :
    (¬ delayOn.uaddOverflow delayOff ∧ ¬ (delayOn + delayOff).umulOverflow 1000
        ∧ ¬ delayOn.umulOverflow 1000)
      ↔ 1000 * (delayOn.toNat + delayOff.toNat) < 2 ^ 32 := by
  constructor
  · rintro ⟨hsum, hperiod, -⟩
    rw [umulOverflow_iff, BitVec.toNat_add_of_not_uaddOverflow hsum] at hperiod
    omega
  · intro hfits
    have hsum : ¬ delayOn.uaddOverflow delayOff := by
      rw [uaddOverflow_iff]
      omega
    rw [umulOverflow_iff, umulOverflow_iff, BitVec.toNat_add_of_not_uaddOverflow hsum]
    exact ⟨hsum, by omega, by omega⟩

theorem checks_iff :
    ((u32AddOverflow delayOn delayOff).1
        || (u32MulOverflow (u32AddOverflow delayOn delayOff).2 1000).1
        || (u32MulOverflow delayOn 1000).1) = true
      ↔ ¬ 1000 * (delayOn.toNat + delayOff.toNat) < 2 ^ 32 := by
  rw [← noOverflow_iff, not_and_or, not_and_or, not_not, not_not, not_not, ← or_assoc,
    Bool.or_eq_true, Bool.or_eq_true]
  exact Iff.rfl

variable (pwm : PwmPinSet → Int) (config : Config) (led : BitVec 32)

theorem blink_of_admitted (hadmitted : Admitted config led delayOn delayOff) :
    ∃ request, ledSlowpwmBlink pwm config led delayOn delayOff = (pwm request, [request])
      ∧ request.unit = .usec
      ∧ request.period.toNat = 1000 * (delayOn.toNat + delayOff.toNat)
      ∧ request.pulse.toNat = 1000 * delayOn.toNat := by
  obtain ⟨hcount, hfits⟩ := hadmitted
  have hled := (config.natCast_lt_numLeds_iff led).mp hcount
  obtain ⟨hsum, hperiod, hpulse⟩ := noOverflow_iff.mpr hfits
  refine ⟨⟨.usec, (config.get led hled).dev, (config.get led hled).channel,
    (delayOn + delayOff) * 1000, delayOn * 1000, (config.get led hled).flags⟩, ?_, rfl, ?_, ?_⟩
  · rw [ledSlowpwmBlink, dif_pos hled]
    exact if_neg (checks_iff.not_left.mpr hfits)
  · calc
      ((delayOn + delayOff) * 1000).toNat = (delayOn + delayOff).toNat * 1000 :=
        BitVec.toNat_mul_of_not_umulOverflow hperiod
      _ = (delayOn.toNat + delayOff.toNat) * 1000 := by
        rw [BitVec.toNat_add_of_not_uaddOverflow hsum]
      _ = 1000 * (delayOn.toNat + delayOff.toNat) := Nat.mul_comm _ _
  · calc
      (delayOn * 1000).toNat = delayOn.toNat * 1000 :=
        BitVec.toNat_mul_of_not_umulOverflow hpulse
      _ = 1000 * delayOn.toNat := Nat.mul_comm _ _

theorem blink_of_not_admitted (hadmitted : ¬ Admitted config led delayOn delayOff) :
    ledSlowpwmBlink pwm config led delayOn delayOff = (-einval, []) := by
  rw [Admitted, config.natCast_lt_numLeds_iff, not_and] at hadmitted
  by_cases hled : led < config.numLeds
  · rw [ledSlowpwmBlink, dif_pos hled]
    exact if_pos (checks_iff.mpr (hadmitted hled))
  · rw [ledSlowpwmBlink, dif_neg hled]

/-- **Admission.** Whatever the device and the call: the PWM is asked for a blink exactly when the LED
exists and the exact period fits, then for the exact period and pulse, and otherwise for nothing. -/
theorem blink_admission (delayOn delayOff : BitVec 32) :
    BlinkLaw pwm config led delayOn delayOff := by
  refine ⟨⟨?_, ?_⟩, ?_, blink_of_not_admitted pwm config led⟩
  · rintro ⟨request, hrequest, -⟩
    by_contra hadmitted
    rw [blink_of_not_admitted pwm config led hadmitted] at hrequest
    cases hrequest
  · intro hadmitted
    obtain ⟨request, hreturned, hunit, -⟩ := blink_of_admitted pwm config led hadmitted
    rw [hreturned]
    exact ⟨request, List.mem_singleton_self _, hunit⟩
  · intro hadmitted
    obtain ⟨request, hreturned, -, hperiod, hpulse⟩ := blink_of_admitted pwm config led hadmitted
    refine ⟨request, hreturned, hperiod, hpulse, ?_⟩
    rw [BitVec.le_def, hpulse, hperiod]
    omega

end

end RcFirmware.LedSlowpwm
