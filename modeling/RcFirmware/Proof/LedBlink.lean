import RcFirmware.Lib.Scaling
import RcFirmware.Pca9632

/-!
# What a blink programs

`pca9632_led_blink` turns two delays into a group frequency and a group duty cycle of one byte each.
Three things happen on the way that the manual's formulas do not have: the sum of the delays wraps
before its range is checked, one is taken from a quotient that can be zero, and both results are
narrowed to a byte. Each of them is met by some accepted call.
-/

namespace RcFirmware.Pca9632

open RegisterFile

/-! ### The values -/

/-- The sum of the delays, which the code takes in 32 bits. -/
def delaySum (delayOn delayOff : BitVec 32) : Nat := delayOn.toNat + delayOff.toNat

def blinkGdc (delayOn delayOff : BitVec 32) : BitVec 8 :=
  (delayOn * 256 / (delayOn + delayOff)).setWidth 8

def blinkGfrq (delayOn delayOff : BitVec 32) : BitVec 8 :=
  ((delayOn + delayOff) * 24 / 1000 - 1).setWidth 8

/-- The period in milliseconds a group frequency stands for, from the manual. -/
def periodMs (gfrq : BitVec 8) : ℚ := (gfrq.toNat + 1) * 1000 / 24

def dutyCycle (gdc : BitVec 8) : ℚ := gdc.toNat / 256

section Values

variable {delayOn delayOff : BitVec 32}

theorem toNat_add_of_delaySum_lt (hsum : delaySum delayOn delayOff < 2 ^ 32) :
    (delayOn + delayOff).toNat = delaySum delayOn delayOff := by
  rw [BitVec.toNat_add]
  exact Nat.mod_eq_of_lt hsum

/-- Group frequencies count from 0, so a period below 1000/24 ms asks for one less than the first:
period 41 comes out as the last. -/
theorem blinkGfrq_toNat (hperiod : 41 ≤ (delayOn + delayOff).toNat)
    (hperiod' : (delayOn + delayOff).toNat ≤ 10667) :
    (blinkGfrq delayOn delayOff).toNat =
      if (delayOn + delayOff).toNat = 41 then 255
      else (delayOn + delayOff).toNat * 24 / 1000 - 1 := by
  have hquotient : ((delayOn + delayOff) * 24 / 1000).toNat =
      (delayOn + delayOff).toNat * 24 / 1000 := by
    rw [BitVec.toNat_udiv, BitVec.toNat_mul, show (24 : BitVec 32).toNat = 24 from rfl,
      show (1000 : BitVec 32).toNat = 1000 from rfl, Nat.mod_eq_of_lt (by omega)]
  rw [blinkGfrq, BitVec.toNat_setWidth, BitVec.toNat_sub, hquotient,
    show (1 : BitVec 32).toNat = 1 from rfl]
  split_ifs <;> omega

theorem blinkGdc_toNat (hsum : 41 ≤ delaySum delayOn delayOff)
    (hsum' : delaySum delayOn delayOff ≤ 10667) :
    (blinkGdc delayOn delayOff).toNat =
      delayOn.toNat * 256 / delaySum delayOn delayOff % 256 := by
  have hon : delayOn.toNat ≤ 10667 := le_trans (Nat.le_add_right _ _) hsum'
  have hproduct : (delayOn * 256).toNat = delayOn.toNat * 256 := by
    rw [BitVec.toNat_mul, show (256 : BitVec 32).toNat = 256 from rfl]
    exact Nat.mod_eq_of_lt (by omega)
  rw [blinkGdc, BitVec.toNat_setWidth, BitVec.toNat_udiv, hproduct,
    toNat_add_of_delaySum_lt (by omega)]

/-- The manual's formula takes the programmed frequency back to a period that is short by less than
one unit of it, at every accepted period but 41. -/
theorem periodMs_bounds_iff (hperiod : 41 ≤ (delayOn + delayOff).toNat)
    (hperiod' : (delayOn + delayOff).toNat ≤ 10667) :
    ((delayOn + delayOff).toNat : ℚ) - 1000 / 24 < periodMs (blinkGfrq delayOn delayOff)
        ∧ periodMs (blinkGfrq delayOn delayOff) ≤ (delayOn + delayOff).toNat
      ↔ (delayOn + delayOff).toNat ≠ 41 := by
  have hgfrq := blinkGfrq_toNat hperiod hperiod'
  generalize (delayOn + delayOff).toNat = period at *
  rw [periodMs, hgfrq]
  split_ifs with hlowest
  · refine iff_of_false (fun hbounds => ?_) (fun hne => hne hlowest)
    rw [hlowest] at hbounds
    norm_num at hbounds
  · refine iff_of_true ?_ hlowest
    have hback : ((period * 24 / 1000 - 1 : Nat) : ℚ) + 1 = (period * 24 / 1000 : Nat) := by
      rw [Nat.cast_pred (by omega), sub_add_cancel]
    rw [hback]
    constructor
    · exact_mod_cast Scaling.sub_lt_scaled_back (k := 24) (d := 1000) (K := ℚ) (by decide)
        (by decide) period
    · exact_mod_cast Scaling.scaled_back_le (k := 24) (K := ℚ) (by decide) period 1000

end Values

/-! ### The call -/

section Call

variable (lslPast : BitVec 32 → BitVec 32 → BitVec 32)

/-- The call returns 0 and has written this value to the register. -/
def Programs (dev : Device) (ok : Nat → Bool) (led delayOn delayOff : BitVec 32)
    (reg value : BitVec 8) : Prop :=
  ∃ returned, pca9632LedBlink lslPast dev ok led delayOn delayOff = .ok returned
    ∧ returned.rc = 0 ∧ .write reg value ∈ returned.taken ∧ returned.dev.regs reg = value

/-- The call is accepted for exactly the sums in range, and an accepted call programs a frequency
whose period is the sum less a fraction of a unit. -/
def PeriodFaithful (dev : Device) (ok : Nat → Bool) (led delayOn delayOff : BitVec 32) : Prop :=
  ∃ returned, pca9632LedBlink lslPast dev ok led delayOn delayOff = .ok returned
    ∧ (returned.rc = 0 ↔ 41 ≤ delaySum delayOn delayOff ∧ delaySum delayOn delayOff ≤ 10667)
    ∧ (returned.rc = 0 → ∃ gfrq, Programs lslPast dev ok led delayOn delayOff grpfreq gfrq
        ∧ (delaySum delayOn delayOff : ℚ) - 1000 / 24 < periodMs gfrq
        ∧ periodMs gfrq ≤ delaySum delayOn delayOff)

/-- The call programs the duty cycle asked for to within 1/256, and no call with the same sum and a
shorter on-time programs a larger one. -/
def DutyFaithful (dev : Device) (ok : Nat → Bool) (led delayOn delayOff : BitVec 32) : Prop :=
  ∃ gdc, Programs lslPast dev ok led delayOn delayOff grppwm gdc
    ∧ |dutyCycle gdc - delayOn.toNat / delaySum delayOn delayOff| ≤ 1 / 256
    ∧ ∀ delayOn' delayOff' gdc', delaySum delayOn' delayOff' = delaySum delayOn delayOff →
        delayOn' ≤ delayOn → Programs lslPast dev ok led delayOn' delayOff' grppwm gdc' →
          gdc' ≤ gdc

variable {dev : Device} {ok : Nat → Bool} (led : BitVec 32) {delayOn delayOff : BitVec 32}

theorem refused_blink_iff (hmin : dev.data.minPeriod = 41) (hmax : dev.data.maxPeriod = 10667) :
    Call.Refused dev.data ⟨led, .blink delayOn delayOff, ok⟩
      ↔ ¬ (41 ≤ (delayOn + delayOff).toNat ∧ (delayOn + delayOff).toNat ≤ 10667) := by
  simp only [Call.Refused, hmin, hmax, BitVec.lt_def, gt_iff_lt]
  rw [show (41 : BitVec 32).toNat = 41 from rfl, show (10667 : BitVec 32).toNat = 10667 from rfl]
  omega

theorem blink_of_refused (hmin : dev.data.minPeriod = 41) (hmax : dev.data.maxPeriod = 10667)
    (hperiod : ¬ (41 ≤ (delayOn + delayOff).toNat ∧ (delayOn + delayOff).toNat ≤ 10667)) :
    pca9632LedBlink lslPast dev ok led delayOn delayOff = .ok (dev.refuse (-einval)) := by
  have hrefused : Call.Refused dev.data ⟨led, .blink delayOn delayOff, ok⟩ :=
    (refused_blink_iff led hmin hmax).mpr hperiod
  exact exec_of_refused lslPast dev hrefused

theorem blink_regs_grppwm (data : LedData) (regs : Registers) :
    applyAll regs (Call.accesses lslPast data ⟨led, .blink delayOn delayOff, ok⟩) grppwm =
      blinkGdc delayOn delayOff := by
  apply applyAll_write_cons
  simp [Access.reg, grppwm, grpfreq, mode2, ledout]

theorem blink_regs_grpfreq (data : LedData) (regs : Registers) :
    applyAll regs (Call.accesses lslPast data ⟨led, .blink delayOn delayOff, ok⟩) grpfreq =
      blinkGfrq delayOn delayOff := by
  apply applyAll_write_cons
  simp [Access.reg, grpfreq, mode2, ledout]

theorem write_grppwm_mem_iff (data : LedData) (value : BitVec 8) :
    .write grppwm value ∈ Call.accesses lslPast data ⟨led, .blink delayOn delayOff, ok⟩
      ↔ value = blinkGdc delayOn delayOff := by
  simp [Call.accesses, grppwm, grpfreq, blinkGdc]

theorem write_grpfreq_mem_iff (data : LedData) (value : BitVec 8) :
    .write grpfreq value ∈ Call.accesses lslPast data ⟨led, .blink delayOn delayOff, ok⟩
      ↔ value = blinkGfrq delayOn delayOff := by
  simp [Call.accesses, grppwm, grpfreq, blinkGfrq]

theorem blink_of_accepted (hmin : dev.data.minPeriod = 41) (hmax : dev.data.maxPeriod = 10667)
    (hok : ∀ n, ok n = true) (hperiod : 41 ≤ (delayOn + delayOff).toNat)
    (hperiod' : (delayOn + delayOff).toNat ≤ 10667) :
    ∃ returned, pca9632LedBlink lslPast dev ok led delayOn delayOff = .ok returned
      ∧ returned.rc = 0
      ∧ returned.taken = Call.accesses lslPast dev.data ⟨led, .blink delayOn delayOff, ok⟩
      ∧ returned.dev.regs = applyAll dev.regs
          (Call.accesses lslPast dev.data ⟨led, .blink delayOn delayOff, ok⟩) := by
  have hrefused : ¬ Call.Refused dev.data ⟨led, .blink delayOn delayOff, ok⟩ := by
    rw [refused_blink_iff led hmin hmax]
    omega
  have hzero : ¬ Call.ZeroDivisor dev.data ⟨led, .blink delayOn delayOff, ok⟩ := by
    intro hzero
    rw [show delayOn + delayOff = 0 from hzero] at hperiod
    exact absurd hperiod (by decide)
  have htaken : taken ok (Call.accesses lslPast dev.data ⟨led, .blink delayOn delayOff, ok⟩) =
      Call.accesses lslPast dev.data ⟨led, .blink delayOn delayOff, ok⟩ :=
    taken_eq_self_iff.mpr fun n _ => hok n
  exact ⟨_, exec_of_accepted lslPast dev hrefused hzero, makeAccesses_rc_eq_zero_iff.mpr htaken,
    htaken, congrArg (applyAll dev.regs) htaken⟩

theorem programs_iff (hmin : dev.data.minPeriod = 41) (hmax : dev.data.maxPeriod = 10667)
    (hok : ∀ n, ok n = true) (hperiod : 41 ≤ (delayOn + delayOff).toNat)
    (hperiod' : (delayOn + delayOff).toNat ≤ 10667) (reg value : BitVec 8) :
    Programs lslPast dev ok led delayOn delayOff reg value
      ↔ .write reg value ∈ Call.accesses lslPast dev.data ⟨led, .blink delayOn delayOff, ok⟩
        ∧ applyAll dev.regs
            (Call.accesses lslPast dev.data ⟨led, .blink delayOn delayOff, ok⟩) reg = value := by
  obtain ⟨returned, hreturned, hrc, htaken, hregs⟩ :=
    blink_of_accepted lslPast led hmin hmax hok hperiod hperiod'
  rw [Programs, hreturned, ← hregs, ← htaken]
  constructor
  · rintro ⟨other, hother, -, hwritten⟩
    cases hother
    exact hwritten
  · intro hwritten
    exact ⟨returned, rfl, hrc, hwritten⟩

theorem programs_grppwm_iff (hmin : dev.data.minPeriod = 41) (hmax : dev.data.maxPeriod = 10667)
    (hok : ∀ n, ok n = true) (hperiod : 41 ≤ (delayOn + delayOff).toNat)
    (hperiod' : (delayOn + delayOff).toNat ≤ 10667) (value : BitVec 8) :
    Programs lslPast dev ok led delayOn delayOff grppwm value
      ↔ value = blinkGdc delayOn delayOff := by
  rw [programs_iff lslPast led hmin hmax hok hperiod hperiod', write_grppwm_mem_iff,
    blink_regs_grppwm]
  exact and_iff_left_of_imp Eq.symm

theorem programs_grpfreq_iff (hmin : dev.data.minPeriod = 41) (hmax : dev.data.maxPeriod = 10667)
    (hok : ∀ n, ok n = true) (hperiod : 41 ≤ (delayOn + delayOff).toNat)
    (hperiod' : (delayOn + delayOff).toNat ≤ 10667) (value : BitVec 8) :
    Programs lslPast dev ok led delayOn delayOff grpfreq value
      ↔ value = blinkGfrq delayOn delayOff := by
  rw [programs_iff lslPast led hmin hmax hok hperiod hperiod', write_grpfreq_mem_iff,
    blink_regs_grpfreq]
  exact and_iff_left_of_imp Eq.symm

/-! ### The period -/

theorem periodFaithful_of_refused (hmin : dev.data.minPeriod = 41)
    (hmax : dev.data.maxPeriod = 10667)
    (hperiod : ¬ (41 ≤ (delayOn + delayOff).toNat ∧ (delayOn + delayOff).toNat ≤ 10667))
    (hsum : ¬ (41 ≤ delaySum delayOn delayOff ∧ delaySum delayOn delayOff ≤ 10667)) :
    PeriodFaithful lslPast dev ok led delayOn delayOff := by
  have hrc : (dev.refuse (-einval)).rc ≠ 0 := show -einval ≠ 0 by decide
  exact ⟨_, blink_of_refused lslPast led hmin hmax hperiod, iff_of_false hrc hsum,
    fun hzero => absurd hzero hrc⟩

theorem periodFaithful_iff_of_accepted (hmin : dev.data.minPeriod = 41)
    (hmax : dev.data.maxPeriod = 10667) (hok : ∀ n, ok n = true)
    (hperiod : 41 ≤ (delayOn + delayOff).toNat) (hperiod' : (delayOn + delayOff).toNat ≤ 10667) :
    PeriodFaithful lslPast dev ok led delayOn delayOff
      ↔ (41 ≤ delaySum delayOn delayOff ∧ delaySum delayOn delayOff ≤ 10667)
        ∧ (delaySum delayOn delayOff : ℚ) - 1000 / 24 < periodMs (blinkGfrq delayOn delayOff)
        ∧ periodMs (blinkGfrq delayOn delayOff) ≤ delaySum delayOn delayOff := by
  obtain ⟨returned, hreturned, hrc, -⟩ :=
    blink_of_accepted lslPast led hmin hmax hok hperiod hperiod'
  have hgfrq := programs_grpfreq_iff lslPast led hmin hmax hok hperiod hperiod'
  constructor
  · rintro ⟨other, hother, hrange, hbounds⟩
    cases hreturned.symm.trans hother
    obtain ⟨gfrq, hprograms, hbounds⟩ := hbounds hrc
    rw [hgfrq] at hprograms
    subst hprograms
    exact ⟨hrange.mp hrc, hbounds⟩
  · rintro ⟨hrange, hbounds⟩
    exact ⟨returned, hreturned, iff_of_true hrc hrange, fun _ => ⟨_, (hgfrq _).mpr rfl, hbounds⟩⟩

/-- **The blink period.** On an initialised device with a sound bus the call does what was asked for,
exactly when the sum of the delays is not 41 and does not wrap into the accepted range. -/
theorem periodFaithful_iff (hmin : dev.data.minPeriod = 41) (hmax : dev.data.maxPeriod = 10667)
    (hok : ∀ n, ok n = true) :
    PeriodFaithful lslPast dev ok led delayOn delayOff
      ↔ delaySum delayOn delayOff ≠ 41
        ∧ ¬ (2 ^ 32 + 41 ≤ delaySum delayOn delayOff
          ∧ delaySum delayOn delayOff ≤ 2 ^ 32 + 10667) := by
  have hwrapped : (delayOn + delayOff).toNat = delaySum delayOn delayOff % 2 ^ 32 :=
    BitVec.toNat_add _ _
  have hlt : delaySum delayOn delayOff < 2 ^ 33 := Nat.add_lt_add delayOn.isLt delayOff.isLt
  by_cases hperiod : 41 ≤ (delayOn + delayOff).toNat ∧ (delayOn + delayOff).toNat ≤ 10667
  · rw [periodFaithful_iff_of_accepted lslPast led hmin hmax hok hperiod.1 hperiod.2]
    by_cases hsum : delaySum delayOn delayOff < 2 ^ 32
    · rw [← toNat_add_of_delaySum_lt hsum, and_iff_right hperiod,
        periodMs_bounds_iff hperiod.1 hperiod.2]
      omega
    · exact iff_of_false (fun hrange => by omega) (fun hwraps => by omega)
  · exact iff_of_true (periodFaithful_of_refused lslPast led hmin hmax hperiod (by omega)) (by omega)

end Call

/-- Twenty milliseconds on and twenty-one off are accepted and blink more than two hundred times too
slowly. -/
theorem blink41_unfaithful :
    ¬ PeriodFaithful (fun word _ => word)
      (pca9632LedInit true (fun _ => true) ⟨.zeroed, fun _ => 0⟩).dev (fun _ => true) 0 20 21 := by
  have hsum : delaySum 20 21 = (20 + 21 : BitVec 32).toNat := rfl
  rw [periodFaithful_iff_of_accepted _ _ rfl rfl (fun _ => rfl) (by decide) (by decide), hsum,
    periodMs_bounds_iff (by decide) (by decide)]
  exact fun hfaithful => hfaithful.2 rfl

theorem periodFaithful_half_seconds :
    PeriodFaithful (fun word _ => word)
      (pca9632LedInit true (fun _ => true) ⟨.zeroed, fun _ => 0⟩).dev (fun _ => true) 0 500 500 :=
  (periodFaithful_iff _ _ rfl rfl fun _ => rfl).mpr (by decide)

/-! ### The duty cycle -/

section Duty

variable (lslPast : BitVec 32 → BitVec 32 → BitVec 32) {dev : Device} {ok : Nat → Bool}
  (led : BitVec 32) {delayOn delayOff : BitVec 32}

theorem blinkGdc_toNat_of_off (hsum : 41 ≤ delaySum delayOn delayOff)
    (hsum' : delaySum delayOn delayOff ≤ 10667) (hoff : delayOff ≠ 0) :
    (blinkGdc delayOn delayOff).toNat = delayOn.toNat * 256 / delaySum delayOn delayOff := by
  have hon : delayOn.toNat < delaySum delayOn delayOff :=
    Nat.lt_add_of_pos_right (BitVec.toNat_pos_of_ne_zero hoff)
  rw [blinkGdc_toNat hsum hsum']
  exact Nat.mod_eq_of_lt ((Scaling.scaled_lt_iff (by decide) (by omega)).mpr hon)

theorem dutyCycle_error_le (hsum : 41 ≤ delaySum delayOn delayOff)
    (hsum' : delaySum delayOn delayOff ≤ 10667) (hoff : delayOff ≠ 0) :
    |dutyCycle (blinkGdc delayOn delayOff) - delayOn.toNat / delaySum delayOn delayOff|
      ≤ 1 / 256 := by
  rw [dutyCycle, blinkGdc_toNat_of_off hsum hsum' hoff]
  exact_mod_cast Scaling.abs_scaled_sub_le (k := 256) (K := ℚ) (by decide) (by omega) delayOn.toNat

theorem lt_dutyCycle_error (hsum : 41 ≤ delaySum delayOn 0) (hsum' : delaySum delayOn 0 ≤ 10667) :
    1 / 256 < |dutyCycle (blinkGdc delayOn 0) - delayOn.toNat / delaySum delayOn 0| := by
  have hon : delaySum delayOn 0 = delayOn.toNat := Nat.add_zero _
  have hpos : 0 < delayOn.toNat := by omega
  have hne : (delayOn.toNat : ℚ) ≠ 0 := by exact_mod_cast hpos.ne'
  have hgdc : (blinkGdc delayOn 0).toNat = 0 := by
    rw [blinkGdc_toNat hsum hsum', hon, Nat.mul_div_cancel_left 256 hpos, Nat.mod_self]
  calc
    (1 / 256 : ℚ) < |0 / 256 - 1| := by norm_num
    _ = |dutyCycle (blinkGdc delayOn 0) - delayOn.toNat / delaySum delayOn 0| := by
      rw [dutyCycle, hgdc, hon, div_self hne, Nat.cast_zero]

theorem blinkGdc_le {delayOn' delayOff' : BitVec 32} (hsum : 41 ≤ delaySum delayOn delayOff)
    (hsum' : delaySum delayOn delayOff ≤ 10667) (hoff : delayOff ≠ 0)
    (hsame : delaySum delayOn' delayOff' = delaySum delayOn delayOff) (hle : delayOn' ≤ delayOn) :
    blinkGdc delayOn' delayOff' ≤ blinkGdc delayOn delayOff := by
  have hle : delayOn'.toNat ≤ delayOn.toNat := hle
  have hoff' : delayOff' ≠ 0 := by
    rintro rfl
    have hpos := BitVec.toNat_pos_of_ne_zero hoff
    have hsame : delayOn'.toNat + 0 = delayOn.toNat + delayOff.toNat := hsame
    omega
  rw [BitVec.le_def]
  calc
    (blinkGdc delayOn' delayOff').toNat =
        delayOn'.toNat * 256 / delaySum delayOn' delayOff' :=
      blinkGdc_toNat_of_off (hsame ▸ hsum) (hsame ▸ hsum') hoff'
    _ = delayOn'.toNat * 256 / delaySum delayOn delayOff := by rw [hsame]
    _ ≤ delayOn.toNat * 256 / delaySum delayOn delayOff := Scaling.scaled_le_scaled hle 256 _
    _ = (blinkGdc delayOn delayOff).toNat := (blinkGdc_toNat_of_off hsum hsum' hoff).symm

/-- **The duty cycle.** For delays whose sum is in range, an initialised device with a sound bus is
programmed faithfully exactly when there is an off-time: without one the byte of the duty cycle
wraps from 256 to 0. -/
theorem dutyFaithful_iff (hmin : dev.data.minPeriod = 41) (hmax : dev.data.maxPeriod = 10667)
    (hok : ∀ n, ok n = true) (hsum : 41 ≤ delaySum delayOn delayOff)
    (hsum' : delaySum delayOn delayOff ≤ 10667) :
    DutyFaithful lslPast dev ok led delayOn delayOff ↔ delayOff ≠ 0 := by
  have hgdc : ∀ delayOn' delayOff' gdc,
      delaySum delayOn' delayOff' = delaySum delayOn delayOff →
        (Programs lslPast dev ok led delayOn' delayOff' grppwm gdc
          ↔ gdc = blinkGdc delayOn' delayOff') := by
    intro delayOn' delayOff' gdc hsame
    have hperiod := toNat_add_of_delaySum_lt (show delaySum delayOn' delayOff' < 2 ^ 32 by omega)
    exact programs_grppwm_iff lslPast led hmin hmax hok (by omega) (by omega) gdc
  constructor
  · rintro ⟨gdc, hprograms, herror, -⟩ rfl
    rw [(hgdc _ _ _ rfl).mp hprograms] at herror
    exact absurd (lt_dutyCycle_error hsum hsum') herror.not_gt
  · intro hoff
    refine ⟨_, (hgdc _ _ _ rfl).mpr rfl, dutyCycle_error_le hsum hsum' hoff, ?_⟩
    intro delayOn' delayOff' gdc' hsame hle hprograms
    rw [(hgdc _ _ _ hsame).mp hprograms]
    exact blinkGdc_le hsum hsum' hoff hsame hle

end Duty

/-- A second on and nothing off programs no on-time at all. -/
theorem blink_always_on_unfaithful :
    ¬ DutyFaithful (fun word _ => word)
      (pca9632LedInit true (fun _ => true) ⟨.zeroed, fun _ => 0⟩).dev (fun _ => true) 0 1000 0 := by
  rintro ⟨gdc, hprograms, herror, -⟩
  rw [programs_grppwm_iff _ _ rfl rfl (fun _ => rfl) (by decide) (by decide)] at hprograms
  rw [hprograms] at herror
  exact absurd (lt_dutyCycle_error (by decide) (by decide)) herror.not_gt

theorem dutyFaithful_quarter :
    DutyFaithful (fun word _ => word)
      (pca9632LedInit true (fun _ => true) ⟨.zeroed, fun _ => 0⟩).dev (fun _ => true) 0 250 750 :=
  (dutyFaithful_iff _ _ rfl rfl (fun _ => rfl) (by decide) (by decide)).mpr (by decide)

end RcFirmware.Pca9632
