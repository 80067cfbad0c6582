import RcFirmware.As7341
import Mathlib.Data.Fin.VecNotation
import Mathlib.Tactic.FinCases

/-!
# The decoding of a fetch against the register map

The header puts the low byte of a data channel in the first of its two registers. The decoder takes
the first byte for the high one, in all six channels: what it stores is the sample with its bytes
swapped.
-/

namespace RcFirmware.As7341

/-- The register of the low byte of a data channel, in address order. -/
def dataL : Fin 6 → BitVec 8 := ![ch0DataL, ch1DataL, ch2DataL, ch3DataL, ch4DataL, ch5DataL]

def dataH : Fin 6 → BitVec 8 := ![ch0DataH, ch1DataH, ch2DataH, ch3DataH, ch4DataH, ch5DataH]

/-- The sample a data channel is decoded into. -/
def decoded : Fin 6 → Channel := ![.f1, .f2, .f3, .f4, .clear, .nir]

/-- The fetch takes each data channel for its low byte and 256 times its high byte, and leaves every
other sample alone. -/
structure FollowsMap (bus : Bus) (drvData : DriverData) : Prop where
  rc : (as7341SampleFetch bus drvData).1 = 0
  sample : ∀ n, ((as7341SampleFetch bus drvData).2.sample (decoded n)).toNat =
    (bus.regs (dataL n)).toNat + 256 * (bus.regs (dataH n)).toNat
  others : ∀ channel, (∀ n, channel ≠ decoded n) →
    (as7341SampleFetch bus drvData).2.sample channel = drvData.sample channel

/-- The data registers hold these samples. -/
def Encodes (regs : BitVec 8 → BitVec 8) (samples : Fin 6 → BitVec 16) : Prop :=
  ∀ n, (samples n).toNat = (regs (dataL n)).toNat + 256 * (regs (dataH n)).toNat

section

variable {bus : Bus} (drvData : DriverData)

theorem shiftOr_toNat (first second : BitVec 8) :
    (shiftOr first second).toNat = 256 * first.toNat + second.toNat := by
  have hword := Word.toNat_shiftLeft_or (w := 32) (by decide) first second
  have hfirst := first.isLt
  have hsecond := second.isLt
  rw [shiftOr, BitVec.toNat_setWidth, hword]
  omega

theorem fetch_rc (hread : 0 ≤ bus.i2cBurstReadDt) : (as7341SampleFetch bus drvData).1 = 0 := by
  rw [as7341SampleFetch, if_neg (Int.not_lt.mpr hread)]

theorem fetch_sample (hread : 0 ≤ bus.i2cBurstReadDt) (n : Fin 6) :
    (as7341SampleFetch bus drvData).2.sample (decoded n) =
      shiftOr (bus.regs (dataL n)) (bus.regs (dataH n)) := by
  rw [as7341SampleFetch, if_neg (Int.not_lt.mpr hread)]
  fin_cases n <;> rfl

theorem fetch_others {channel : Channel} (hother : ∀ n, channel ≠ decoded n) :
    (as7341SampleFetch bus drvData).2.sample channel = drvData.sample channel := by
  unfold as7341SampleFetch
  split_ifs
  · rfl
  · cases channel with
    | f1 => exact absurd rfl (hother 0)
    | f2 => exact absurd rfl (hother 1)
    | f3 => exact absurd rfl (hother 2)
    | f4 => exact absurd rfl (hother 3)
    | clear => exact absurd rfl (hother 4)
    | nir => exact absurd rfl (hother 5)
    | f5 | f6 | f7 | f8 | fd => rfl

theorem shiftOr_eq_iff (low high : BitVec 8) :
    (shiftOr low high).toNat = low.toNat + 256 * high.toNat ↔ low = high := by
  rw [shiftOr_toNat, BitVec.toNat_eq]
  omega

/-- **Decoding.** A successful fetch follows the register map exactly when each data channel has the
same low and high byte, and so do the samples encoded in the map come back. -/
theorem fetch_followsMap_iff (hread : 0 ≤ bus.i2cBurstReadDt) :
    (FollowsMap bus drvData ↔ ∀ n, bus.regs (dataL n) = bus.regs (dataH n))
      ∧ ∀ samples, Encodes bus.regs samples →
        ((∀ n, (as7341SampleFetch bus drvData).2.sample (decoded n) = samples n)
          ↔ ∀ n, bus.regs (dataL n) = bus.regs (dataH n)) := by
  have hsample : ∀ n, ((as7341SampleFetch bus drvData).2.sample (decoded n)).toNat =
      (bus.regs (dataL n)).toNat + 256 * (bus.regs (dataH n)).toNat
        ↔ bus.regs (dataL n) = bus.regs (dataH n) := by
    intro n
    rw [fetch_sample drvData hread]
    exact shiftOr_eq_iff _ _
  constructor
  · constructor
    · intro hfollows n
      exact (hsample n).mp (hfollows.sample n)
    · intro hsame
      exact {
        rc := fetch_rc drvData hread
        sample := fun n => (hsample n).mpr (hsame n)
        others := fun channel hother => fetch_others drvData hother }
  · intro samples hencodes
    refine forall_congr' fun n => ?_
    rw [BitVec.toNat_eq, hencodes n]
    exact hsample n

end

/-- Channel 0 counts 1, the others nothing: the fetch stores 256 for it. -/
theorem fetch_one_not_followsMap :
    ¬ FollowsMap ⟨fun reg => if reg = ch0DataL then 1 else 0, 0⟩
      ⟨0, 0, 0, 0, 0, 0, 0, 0, 0, 0, 0⟩ := by
  intro hfollows
  exact absurd (hfollows.sample 0) (by decide)

theorem fetch_equal_bytes_followsMap :
    FollowsMap ⟨fun reg => if reg = ch0DataL ∨ reg = ch0DataH then 7 else 0, 0⟩
      ⟨0, 0, 0, 0, 0, 0, 0, 0, 0, 0, 0⟩ :=
  (fetch_followsMap_iff _ le_rfl).1.mpr (by decide)

end RcFirmware.As7341
