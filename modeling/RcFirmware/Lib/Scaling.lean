import Mathlib.Algebra.Order.Field.Basic
import Mathlib.Algebra.Order.Floor.Ring
import Mathlib.Data.Nat.Cast.Order.Field
import Mathlib.Tactic.FieldSimp
import Mathlib.Tactic.Linarith

/-!
# Scaled quotients

Integer code takes a number `n` to the scale `k / d` as `n * k / d`. Read back at the old scale the
quotient never exceeds the number, and it falls short of it by less than one unit of the new scale.

A number that is not an integer goes to such a scale in two parts, its whole part and its fraction in
units of `1 / k`, each truncated. Put together they are the number truncated at the new scale.
-/

namespace Scaling

variable {K : Type*} [Field K] [LinearOrder K] [IsStrictOrderedRing K] {n k d : Nat}

theorem scaled_mul_le (n k d : Nat) : ((n * k / d : Nat) : K) * d ≤ n * k := by
  exact_mod_cast Nat.div_mul_le_self (n * k) d

theorem lt_scaled_succ_mul (n k : Nat) (hd : 0 < d) :
    (n : K) * k < (((n * k / d : Nat) : K) + 1) * d := by
  have hlt : n * k < (n * k / d + 1) * d := by
    rw [Nat.mul_comm (n * k / d + 1) d]
    exact Nat.lt_mul_div_succ (n * k) hd
  exact_mod_cast hlt

theorem scaled_back_le (hk : 0 < k) (n d : Nat) : ((n * k / d : Nat) : K) * d / k ≤ n := by
  have hpos : (0 : K) < k := Nat.cast_pos.mpr hk
  rw [div_le_iff₀ hpos]
  exact scaled_mul_le n k d

theorem sub_lt_scaled_back (hk : 0 < k) (hd : 0 < d) (n : Nat) :
    (n : K) - d / k < ((n * k / d : Nat) : K) * d / k := by
  have hpos : (0 : K) < k := Nat.cast_pos.mpr hk
  have hlt := lt_scaled_succ_mul (K := K) n k hd
  rw [sub_lt_iff_lt_add, ← add_div, lt_div_iff₀ hpos]
  linarith

/-- As an approximation of the ratio `n / d` in units of `1 / k`, the quotient is off by less than one
unit. -/
theorem abs_scaled_sub_le (hk : 0 < k) (hd : 0 < d) (n : Nat) :
    |((n * k / d : Nat) : K) / k - n / d| ≤ 1 / k := by
  have hkpos : (0 : K) < k := Nat.cast_pos.mpr hk
  have hdpos : (0 : K) < d := Nat.cast_pos.mpr hd
  have hle : ((n * k / d : Nat) : K) / k ≤ n / d := by
    rw [div_le_div_iff₀ hkpos hdpos]
    exact scaled_mul_le n k d
  have hlt : (n : K) / d ≤ ((n * k / d : Nat) : K) / k + 1 / k := by
    rw [← add_div, div_le_div_iff₀ hdpos hkpos]
    exact (lt_scaled_succ_mul n k hd).le
  rw [abs_le]
  constructor <;> linarith

theorem scaled_le_scaled {m : Nat} (hnm : n ≤ m) (k d : Nat) : n * k / d ≤ m * k / d :=
  Nat.div_le_div_right (Nat.mul_le_mul_right k hnm)

theorem scaled_lt_iff (hk : 0 < k) (hd : 0 < d) : n * k / d < k ↔ n < d := by
  rw [Nat.div_lt_iff_lt_mul hd, Nat.mul_comm k d]
  exact Nat.mul_lt_mul_right hk

/-! ### Whole part and fraction -/

section Truncate

variable {R : Type*} [Ring R] [LinearOrder R] [FloorRing R] {x : R}

/-- The conversion of a real value to an integer in C, towards zero. -/
def truncate (x : R) : Int := if x < 0 then ⌈x⌉ else ⌊x⌋

theorem truncate_of_nonneg (hx : 0 ≤ x) : truncate x = ⌊x⌋ := if_neg hx.not_gt

theorem sub_truncate (hx : 0 ≤ x) : x - truncate x = Int.fract x := by
  rw [truncate_of_nonneg hx, Int.self_sub_floor]

variable [IsStrictOrderedRing R]

theorem truncate_fraction_bounds (hx : 0 ≤ x) (hk : 0 < k) :
    0 ≤ truncate ((x - truncate x) * k) ∧ truncate ((x - truncate x) * k) < k := by
  have hkpos : (0 : R) < k := Nat.cast_pos.mpr hk
  have hfraction : 0 ≤ Int.fract x * k := mul_nonneg (Int.fract_nonneg x) hkpos.le
  rw [sub_truncate hx, truncate_of_nonneg hfraction]
  constructor
  · exact Int.floor_nonneg.mpr hfraction
  · rw [Int.floor_lt, Int.cast_natCast]
    exact mul_lt_of_lt_one_left hkpos (Int.fract_lt_one x)

/-- The two parts put together. -/
theorem truncate_mul_add_fraction (hx : 0 ≤ x) (k : Nat) :
    truncate x * k + truncate ((x - truncate x) * k) = ⌊x * k⌋ := by
  have hfraction : 0 ≤ Int.fract x * k := mul_nonneg (Int.fract_nonneg x) (Nat.cast_nonneg k)
  rw [sub_truncate hx, truncate_of_nonneg hx, truncate_of_nonneg hfraction]
  calc
    ⌊x⌋ * (k : Int) + ⌊Int.fract x * k⌋ = ⌊((⌊x⌋ * (k : Int) : Int) : R) + Int.fract x * k⌋ :=
      (Int.floor_intCast_add _ _).symm
    _ = ⌊(⌊x⌋ + Int.fract x) * k⌋ := by
      rw [Int.cast_mul, Int.cast_natCast, add_mul]
    _ = ⌊x * k⌋ := by
      rw [Int.floor_add_fract]

end Truncate

end Scaling
