import Mathlib.Data.BitVec
import Mathlib.Tactic.Common

/-!
# Machine words

A C integer of width `w` is a `BitVec w`, its unsigned value `toNat` and its signed value `toInt`.
Stated here once: what truncating division splits a signed word into and with which signs, when
a word is worth the same with its sign as without, when narrowing it loses nothing, when dividing a
wrapped product does, what two narrow words side by side are worth, and when a difference taken in a
wider word is the difference modulo the narrower one.
-/

namespace Word

theorem toInt_sdiv_of_pos {w : Nat} (x : BitVec w) {d : BitVec w} (hd : 0 < d.toInt) :
    (x.sdiv d).toInt = x.toInt.tdiv d.toInt := by
  have hne : d ≠ -1#w := by
    rintro rfl
    rw [BitVec.neg_one_eq_allOnes, BitVec.toInt_allOnes] at hd
    split at hd <;> omega
  exact BitVec.toInt_sdiv_of_ne_or_ne x d (Or.inr hne)

/-- Quotient and remainder by a positive word put the dividend back together. -/
theorem toInt_sdiv_mul_add_srem {w : Nat} (x : BitVec w) {d : BitVec w} (hd : 0 < d.toInt) :
    (x.sdiv d).toInt * d.toInt + (x.srem d).toInt = x.toInt := by
  rw [toInt_sdiv_of_pos x hd, BitVec.toInt_srem]
  have hsplit := Int.tmod_add_tdiv_mul x.toInt d.toInt
  omega

theorem natAbs_srem_lt {w : Nat} (x : BitVec w) {d : BitVec w} (hd : 0 < d.toInt) :
    (x.srem d).toInt.natAbs < d.toInt.natAbs := by
  rw [BitVec.toInt_srem, Int.natAbs_tmod]
  exact Nat.mod_lt _ (Int.natAbs_pos.mpr hd.ne')

/-- C truncates towards zero, so quotient and remainder never disagree in sign. -/
theorem sdiv_srem_signs {w : Nat} (x : BitVec w) {d : BitVec w} (hd : 0 < d.toInt) :
    (0 ≤ (x.sdiv d).toInt ∧ 0 ≤ (x.srem d).toInt)
      ∨ ((x.sdiv d).toInt ≤ 0 ∧ (x.srem d).toInt ≤ 0) := by
  rw [toInt_sdiv_of_pos x hd, BitVec.toInt_srem]
  obtain hx | hx := Int.le_total 0 x.toInt
  · exact .inl ⟨Int.tdiv_nonneg hx hd.le, Int.tmod_nonneg _ hx⟩
  · right
    have hquotient := Int.tdiv_nonneg (Int.neg_nonneg_of_nonpos hx) hd.le
    have hremainder := Int.tmod_nonneg d.toInt (Int.neg_nonneg_of_nonpos hx)
    rw [Int.neg_tdiv] at hquotient
    rw [Int.neg_tmod] at hremainder
    omega

/-- A word whose unsigned value is small has it as its signed value too. -/
theorem toInt_eq_of_toNat_eq {w n : Nat} {x : BitVec w} (hx : x.toNat = n) (hn : 2 * n < 2 ^ w) :
    x.toInt = n := by
  rw [BitVec.toInt_eq_toNat_of_lt (hx ▸ hn), hx]

theorem toInt_setWidth_of_lt {v w : Nat} (x : BitVec v) (hx : 2 * x.toNat < 2 ^ w) :
    (x.setWidth w).toInt = x.toNat := by
  have hlt : x.toNat < 2 ^ w := by omega
  exact toInt_eq_of_toNat_eq (by rw [BitVec.toNat_setWidth, Nat.mod_eq_of_lt hlt]) hx

/-- A number that wraps before it is divided loses at least one from its quotient. -/
theorem mod_div_eq_iff {m d : Nat} (hd : 0 < d) (hdm : d ≤ m) (n : Nat) :
    n % m / d = n / d ↔ n < m := by
  constructor
  · intro hquotient
    by_contra hwraps
    have hlost : n % m + d ≤ n := by
      have hmod := Nat.mod_add_div n m
      have hturn : m * 1 ≤ m * (n / m) :=
        Nat.mul_le_mul_left m (Nat.div_pos (Nat.le_of_not_lt hwraps) (Nat.lt_of_lt_of_le hd hdm))
      omega
    have hless : n % m / d + 1 ≤ n / d := by
      rw [← Nat.add_div_right _ hd]
      exact Nat.div_le_div_right hlost
    omega
  · intro hfits
    rw [Nat.mod_eq_of_lt hfits]

theorem setWidth_setWidth_self {v w : Nat} (hvw : v ≤ w) (x : BitVec v) :
    (x.setWidth w).setWidth v = x := by
  rw [BitVec.setWidth_setWidth_of_le x hvw, BitVec.setWidth_eq]

/-- Two narrow words side by side in a wide one: the shifted word counts for the high part. -/
theorem toNat_shiftLeft_or {v w : Nat} (hvw : v + v ≤ w) (high low : BitVec v) :
    (high.setWidth w <<< v ||| low.setWidth w).toNat = 2 ^ v * high.toNat + low.toNat := by
  have hpow : 2 ^ v * 2 ^ v ≤ 2 ^ w := by
    rw [← Nat.pow_add]
    exact Nat.pow_le_pow_right (by decide) hvw
  have hnarrow : 2 ^ v ≤ 2 ^ w := Nat.pow_le_pow_right (by decide) (by omega)
  have hhigh := high.isLt
  have hlow := low.isLt
  have hshifted : high.toNat * 2 ^ v < 2 ^ w :=
    Nat.lt_of_lt_of_le (Nat.mul_lt_mul_of_pos_right hhigh (Nat.two_pow_pos v)) hpow
  rw [BitVec.toNat_or, BitVec.toNat_shiftLeft, BitVec.toNat_setWidth, BitVec.toNat_setWidth,
    Nat.mod_eq_of_lt (by omega : high.toNat < 2 ^ w), Nat.mod_eq_of_lt (by omega : low.toNat < 2 ^ w),
    Nat.shiftLeft_eq, Nat.mod_eq_of_lt hshifted, ← Nat.shiftLeft_eq,
    ← Nat.shiftLeft_add_eq_or_of_lt hlow, Nat.shiftLeft_eq, Nat.mul_comm]

/-- **Where the borrow goes.** The difference of two narrow stamps taken in a wider word is their
difference modulo the narrow width exactly when nothing is borrowed. -/
theorem setWidth_sub_eq_iff {v w : Nat} (hvw : v < w) (finish start : BitVec v) :
    finish.setWidth w - start.setWidth w = (finish - start).setWidth w ↔ start ≤ finish := by
  have hpow : 2 ^ v < 2 ^ w := Nat.pow_lt_pow_right (by omega) hvw
  have hfinish := finish.isLt
  have hstart := start.isLt
  have hwide : ∀ x : BitVec v, (x.setWidth w).toNat = x.toNat := fun x => by
    rw [BitVec.toNat_setWidth, Nat.mod_eq_of_lt (by omega)]
  rw [BitVec.le_def, BitVec.toNat_eq, BitVec.toNat_sub, hwide, hwide, hwide, BitVec.toNat_sub]
  constructor
  · intro heq
    by_contra hborrow
    have hwideBorrow : 2 ^ w - start.toNat + finish.toNat < 2 ^ w := by omega
    have hnarrowBorrow : 2 ^ v - start.toNat + finish.toNat < 2 ^ v := by omega
    rw [Nat.mod_eq_of_lt hwideBorrow, Nat.mod_eq_of_lt hnarrowBorrow] at heq
    omega
  · intro hle
    have hwideSum : 2 ^ w - start.toNat + finish.toNat = 2 ^ w + (finish.toNat - start.toNat) := by
      omega
    have hnarrowSum : 2 ^ v - start.toNat + finish.toNat = 2 ^ v + (finish.toNat - start.toNat) := by
      omega
    rw [hwideSum, hnarrowSum, Nat.add_mod_left, Nat.add_mod_left, Nat.mod_eq_of_lt (by omega),
      Nat.mod_eq_of_lt (by omega)]

end Word
