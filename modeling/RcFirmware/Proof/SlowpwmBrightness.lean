import RcFirmware.LedSlowpwm
import RcFirmware.Lib.Word

/-!
# The pulse of a brightness

The pulse is the period times the value over a hundred, and the product is taken in 32 bits. The
period is what the devicetree says. From 42949673 nanoseconds on, full brightness already wraps, and
what comes out is a shorter pulse that looks like any other.
-/

namespace RcFirmware.LedSlowpwm

/-- The one request made has this pulse. -/
def Returned.Pulse (returned : Returned) (pulse : Nat) : Prop :=
  ∃ request, returned.2 = [request] ∧ request.pulse.toNat = pulse

section

variable (pwm : PwmPinSet → Int) (config : Config) (led : BitVec 32)

/-- Every value gives its share of the period. -/
structure Scales (period : Nat) : Prop where
  share : ∀ value : BitVec 8, value ≤ 100 →
    (ledSlowpwmSetBrightness pwm config led value).Pulse (period * value.toNat / 100)
  withinPeriod : ∀ value : BitVec 8, value ≤ 100 →
    ∀ request ∈ (ledSlowpwmSetBrightness pwm config led value).2, request.pulse ≤ request.period
  monotone : ∀ value value' : BitVec 8, value ≤ value' → value' ≤ 100 →
    ∀ request ∈ (ledSlowpwmSetBrightness pwm config led value).2,
      ∀ request' ∈ (ledSlowpwmSetBrightness pwm config led value').2,
        request.pulse ≤ request'.pulse
  on : (ledSlowpwmOn pwm config led).Pulse period
  off : (ledSlowpwmOff pwm config led).Pulse 0

variable {led}

theorem setBrightness_eq (hled : led < config.numLeds) {value : BitVec 8} (hvalue : value ≤ 100) :
    ∃ request, ledSlowpwmSetBrightness pwm config led value = (pwm request, [request])
      ∧ request.period = (config.get led hled).period
      ∧ request.pulse.toNat = (config.get led hled).period.toNat * value.toNat % 2 ^ 32 / 100 := by
  have hchecked : ¬ (100 : BitVec 8) < value := BitVec.not_lt.mpr hvalue
  refine ⟨⟨.nsec, (config.get led hled).dev, (config.get led hled).channel,
    (config.get led hled).period, (config.get led hled).period * value.setWidth 32 / 100,
    (config.get led hled).flags⟩, ?_, rfl, ?_⟩
  · rw [ledSlowpwmSetBrightness, dif_pos hled, if_neg hchecked]
  · have hwide : (value.setWidth 32).toNat = value.toNat :=
      BitVec.toNat_setWidth_of_le (by decide)
    rw [BitVec.toNat_udiv, BitVec.toNat_mul, hwide]
    rfl

theorem pulse_iff (hled : led < config.numLeds) {value : BitVec 8} (hvalue : value ≤ 100)
    (pulse : Nat) :
    (ledSlowpwmSetBrightness pwm config led value).Pulse pulse
      ↔ (config.get led hled).period.toNat * value.toNat % 2 ^ 32 / 100 = pulse := by
  obtain ⟨request, hreturned, -, hpulse⟩ := setBrightness_eq pwm config hled hvalue
  rw [Returned.Pulse, hreturned, ← hpulse]
  simp

theorem share_iff (hled : led < config.numLeds) {value : BitVec 8} (hvalue : value ≤ 100) :
    (ledSlowpwmSetBrightness pwm config led value).Pulse
        ((config.get led hled).period.toNat * value.toNat / 100)
      ↔ (config.get led hled).period.toNat * value.toNat < 2 ^ 32 := by
  rw [pulse_iff pwm config hled hvalue]
  exact Word.mod_div_eq_iff (by decide) (by decide) _

theorem pulse_le_period (hled : led < config.numLeds) {value : BitVec 8} (hvalue : value ≤ 100) :
    ∀ request ∈ (ledSlowpwmSetBrightness pwm config led value).2,
      request.pulse ≤ request.period := by
  obtain ⟨request, hreturned, hperiod, hpulse⟩ := setBrightness_eq pwm config hled hvalue
  have hvalue : value.toNat ≤ 100 := hvalue
  rw [hreturned, List.forall_mem_singleton, BitVec.le_def, hpulse, hperiod]
  apply Nat.div_le_of_le_mul
  calc
    (config.get led hled).period.toNat * value.toNat % 2 ^ 32
      ≤ (config.get led hled).period.toNat * value.toNat := Nat.mod_le _ _
    _ ≤ (config.get led hled).period.toNat * 100 := Nat.mul_le_mul_left _ hvalue
    _ = 100 * (config.get led hled).period.toNat := Nat.mul_comm _ _

theorem scales_of_fits (hled : led < config.numLeds)
    (hfits : (config.get led hled).period.toNat * 100 < 2 ^ 32) :
    Scales pwm config led (config.get led hled).period.toNat := by
  have hshare : ∀ value : BitVec 8, value ≤ 100 →
      (ledSlowpwmSetBrightness pwm config led value).Pulse
        ((config.get led hled).period.toNat * value.toNat / 100) := by
    intro value hvalue
    apply (share_iff pwm config hled hvalue).mpr
    exact Nat.lt_of_le_of_lt (Nat.mul_le_mul_left _ hvalue) hfits
  have hon := hshare 100 (BitVec.le_refl _)
  have hoff := hshare 0 (by decide)
  have hfull : (100 : BitVec 8).toNat = 100 := rfl
  have hnone : (0 : BitVec 8).toNat = 0 := rfl
  rw [hfull, Nat.mul_div_cancel _ (by decide)] at hon
  rw [hnone, Nat.mul_zero, Nat.zero_div] at hoff
  refine ⟨hshare, fun _ => pulse_le_period pwm config hled, ?_, hon, hoff⟩
  intro value value' hle hvalue' request hrequest request' hrequest'
  obtain ⟨_, hreturned, hpulse⟩ := hshare value (BitVec.le_trans hle hvalue')
  obtain ⟨_, hreturned', hpulse'⟩ := hshare value' hvalue'
  rw [hreturned, List.mem_singleton] at hrequest
  rw [hreturned', List.mem_singleton] at hrequest'
  rw [hrequest, hrequest', BitVec.le_def, hpulse, hpulse']
  exact Nat.div_le_div_right (Nat.mul_le_mul_left _ hle)

/-- **Brightness.** For an LED of the device a value gives its share of the period exactly when their
product fits 32 bits, and every value does, full brightness among them, exactly when a hundred periods
fit. -/
theorem setBrightness_scales_iff (hled : led < config.numLeds) :
    (∀ value : BitVec 8, value ≤ 100 →
        ((ledSlowpwmSetBrightness pwm config led value).Pulse
            ((config.get led hled).period.toNat * value.toNat / 100)
          ↔ (config.get led hled).period.toNat * value.toNat < 2 ^ 32))
      ∧ (Scales pwm config led (config.get led hled).period.toNat
        ↔ (config.get led hled).period.toNat * 100 < 2 ^ 32) := by
  constructor
  · intro value hvalue
    exact share_iff pwm config hled hvalue
  · constructor
    · intro hscales
      have hfull := hscales.share 100 (BitVec.le_refl _)
      exact (share_iff pwm config hled (BitVec.le_refl _)).mp hfull
    · exact scales_of_fits pwm config hled

end

def oneLed (led : Led) : Config := ⟨1, [led], rfl⟩

/-- With a period of 42.949673 milliseconds, switching the LED on requests no pulse at all. -/
theorem longPeriod_not_scales :
    ¬ Scales (fun _ => 0) (oneLed (.ofNode 0 0 (some 42949673) none)) 0 42949673 := by
  intro hscales
  obtain ⟨request, hreturned, hpulse⟩ := hscales.on
  have hdark : (ledSlowpwmOn (fun _ => 0) (oneLed (.ofNode 0 0 (some 42949673) none)) 0).2 =
      [⟨.nsec, 0, 0, 42949673, 0, 0⟩] := by decide
  rw [hdark] at hreturned
  cases hreturned
  cases hpulse

/-- The period of a node that gives none is short enough. -/
theorem defaultPeriod_scales :
    Scales (fun _ => 0) (oneLed (.ofNode 0 0 none none)) 0 1000000 :=
  (setBrightness_scales_iff (fun _ => 0) (oneLed (.ofNode 0 0 none none))
    (show (0 : BitVec 32) < 1 by decide)).2.mpr (by decide)

end RcFirmware.LedSlowpwm
