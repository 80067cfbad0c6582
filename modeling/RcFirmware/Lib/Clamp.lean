import Mathlib.Algebra.Order.Field.Basic
import Mathlib.Tactic.Linarith

/-!
# Clamping

A value above the upper limit is replaced by it, one below the lower limit by that, and the two are
tested in this order. When the limits are the right way round a clamp lands between them, keeps the
order of the values and reaches each limit from everything beyond it. What comes of a line with a
bounded correction once it is clamped is decided by the slope of the line. A sum that is clamped at
every step forgets where it came from as soon as it has been pushed across the whole range.
-/

namespace Clamp

variable {K : Type*} [LinearOrder K] {lo hi x : K}

def clamp (lo hi x : K) : K :=
  if x > hi then hi else if x < lo then lo else x

theorem clamp_of_hi_le (hx : hi ≤ x) (hle : lo ≤ hi) : clamp lo hi x = hi := by
  rw [clamp]
  split_ifs with hover hunder
  · rfl
  · exact absurd hunder (hle.trans hx).not_gt
  · exact le_antisymm (le_of_not_gt hover) hx

theorem clamp_of_le_lo (hx : x ≤ lo) (hle : lo ≤ hi) : clamp lo hi x = lo := by
  rw [clamp, if_neg (hx.trans hle).not_gt]
  split_ifs with hunder
  · rfl
  · exact le_antisymm hx (le_of_not_gt hunder)

theorem clamp_eq_max_min (hle : lo ≤ hi) (x : K) : clamp lo hi x = max lo (min hi x) := by
  rcases le_total hi x with hhi | hhi
  · rw [clamp_of_hi_le hhi hle, min_eq_left hhi, max_eq_right hle]
  rcases le_total x lo with hlo | hlo
  · rw [clamp_of_le_lo hlo hle, min_eq_right hhi, max_eq_left hlo]
  · rw [clamp, if_neg hhi.not_gt, if_neg hlo.not_gt, min_eq_right hhi, max_eq_right hlo]

theorem lo_le_clamp (hle : lo ≤ hi) (x : K) : lo ≤ clamp lo hi x := by
  rw [clamp_eq_max_min hle]
  exact le_max_left lo (min hi x)

theorem clamp_le_hi (hle : lo ≤ hi) (x : K) : clamp lo hi x ≤ hi := by
  rw [clamp_eq_max_min hle]
  exact max_le hle (min_le_left hi x)

theorem clamp_monotone (hle : lo ≤ hi) : Monotone (clamp lo hi) := by
  intro x y hxy
  rw [clamp_eq_max_min hle, clamp_eq_max_min hle]
  exact max_le_max le_rfl (min_le_min le_rfl hxy)

theorem clamp_self (lo x : K) : clamp lo lo x = lo :=
  le_antisymm (clamp_le_hi le_rfl x) (lo_le_clamp le_rfl x)

/-! ### A line with a bounded correction

Far enough out a line that rises reaches both limits whatever is added to it, so long as that stays
bounded. -/

section Line

variable {F : Type*} [Field F] [LinearOrder F] [IsStrictOrderedRing F] {lo hi a : F} {g : F → F}
  {glo ghi : F}

theorem rising_reaches_limits (hle : lo ≤ hi) (ha : 0 < a) (c : F)
    (hg : ∀ x, glo ≤ g x ∧ g x ≤ ghi) :
    ∃ x y, x ≤ y ∧ clamp lo hi (a * x + c + g x) = lo ∧ clamp lo hi (a * y + c + g y) = hi := by
  refine ⟨(lo - c - ghi) / a, (hi - c - glo) / a, ?_, ?_, ?_⟩
  · have hcorrection := (hg 0).1.trans (hg 0).2
    rw [div_le_div_iff_of_pos_right ha]
    linarith
  · have hbound := (hg ((lo - c - ghi) / a)).2
    apply clamp_of_le_lo _ hle
    rw [mul_div_cancel₀ _ ha.ne']
    linarith
  · have hbound := (hg ((hi - c - glo) / a)).1
    apply clamp_of_hi_le _ hle
    rw [mul_div_cancel₀ _ ha.ne']
    linarith

/-- **The slope decides.** A clamped line with a bounded falling correction falls exactly when the line
does not rise, or there is nothing between the limits. -/
theorem antitone_clamp_line_iff (hle : lo ≤ hi) (c : F) (hg : ∀ x, glo ≤ g x ∧ g x ≤ ghi)
    (hanti : Antitone g) :
    Antitone (fun x => clamp lo hi (a * x + c + g x)) ↔ a ≤ 0 ∨ lo = hi := by
  constructor
  · intro hfalls
    by_contra hneither
    rw [not_or, not_le] at hneither
    obtain ⟨x, y, hxy, hlo, hhi⟩ := rising_reaches_limits hle hneither.1 c hg
    have hout := hfalls hxy
    simp only [hlo, hhi] at hout
    exact hneither.2 (le_antisymm hle hout)
  · rintro (hslope | rfl) x y hxy
    · apply clamp_monotone hle
      have hline : a * y ≤ a * x := mul_le_mul_of_nonpos_left hxy hslope
      have hcorrection := hanti hxy
      linarith
    · simp only [clamp_self, le_refl]

end Line

/-! ### A sum clamped at every step -/

section Sum

variable {F : Type*} [Field F] [LinearOrder F] {lo hi x a b : F} {ds : List F}

def clampedSum (lo hi x : F) (ds : List F) : F := ds.foldl (fun x d => clamp lo hi (x + d)) x

theorem clampedSum_cons (d : F) :
    clampedSum lo hi x (d :: ds) = clampedSum lo hi (clamp lo hi (x + d)) ds := rfl

theorem lo_le_clampedSum (hle : lo ≤ hi) (hx : lo ≤ x) : lo ≤ clampedSum lo hi x ds := by
  induction ds generalizing x with
  | nil => exact hx
  | cons d ds ih => exact ih (lo_le_clamp hle _)

variable [IsStrictOrderedRing F]

theorem clamp_neg (hle : lo ≤ hi) (x : F) : clamp (-hi) (-lo) (-x) = -clamp lo hi x := by
  obtain hhi | hhi := le_total hi x
  · rw [clamp_of_le_lo (neg_le_neg hhi) (neg_le_neg hle), clamp_of_hi_le hhi hle]
  obtain hlo | hlo := le_total x lo
  · rw [clamp_of_hi_le (neg_le_neg hlo) (neg_le_neg hle), clamp_of_le_lo hlo hle]
  · rw [clamp_eq_max_min (neg_le_neg hle), clamp_eq_max_min hle, min_eq_right (neg_le_neg hlo),
      max_eq_right (neg_le_neg hhi), min_eq_right hhi, max_eq_right hlo]

theorem clampedSum_neg (hle : lo ≤ hi) (x : F) (ds : List F) :
    clampedSum (-hi) (-lo) (-x) (ds.map fun d => -d) = -clampedSum lo hi x ds := by
  induction ds generalizing x with
  | nil => rfl
  | cons d ds ih =>
      rw [List.map_cons, clampedSum_cons, clampedSum_cons, ← neg_add, clamp_neg hle, ih]

theorem clamp_add_le (hle : lo ≤ hi) (hb : 0 ≤ b) (hx : x ≤ max lo (hi - a)) {d : F} (hd : d ≤ -b) :
    clamp lo hi (x + d) ≤ max lo (hi - (a + b)) := by
  rw [clamp_eq_max_min hle]
  apply max_le (le_max_left _ _)
  apply (min_le_right _ _).trans
  obtain hlo | hhi := le_max_iff.mp hx
  · exact le_max_of_le_left (by linarith)
  · exact le_max_of_le_right (by linarith)

/-- Every step down by `b` takes `b` off what the sum can be at most. -/
theorem clampedSum_le (hle : lo ≤ hi) (hb : 0 ≤ b) (hx : x ≤ max lo (hi - a))
    (hds : ∀ d ∈ ds, d ≤ -b) : clampedSum lo hi x ds ≤ max lo (hi - (a + ds.length * b)) := by
  induction ds generalizing x a with
  | nil => simpa [clampedSum] using hx
  | cons d ds ih =>
      obtain ⟨hd, hrest⟩ := List.forall_mem_cons.mp hds
      have hstep := ih (clamp_add_le hle hb hx hd) hrest
      rw [List.length_cons, Nat.cast_add, Nat.cast_one, add_one_mul, add_comm _ b, ← add_assoc]
      exact hstep

/-- **Down to the limit.** A sum that is pushed down across the whole range is at the lower limit. -/
theorem clampedSum_eq_lo (hlo : lo ≤ x) (hhi : x ≤ hi) (hb : 0 ≤ b) (hds : ∀ d ∈ ds, d ≤ -b)
    (hlong : hi - lo ≤ ds.length * b) : clampedSum lo hi x ds = lo := by
  have hle := hlo.trans hhi
  have hstart : x ≤ max lo (hi - 0) := le_max_of_le_right (by rwa [sub_zero])
  have hbound := clampedSum_le hle hb hstart hds
  rw [zero_add, max_eq_left (by linarith)] at hbound
  exact le_antisymm hbound (lo_le_clampedSum hle hlo)

theorem clampedSum_eq_hi (hlo : lo ≤ x) (hhi : x ≤ hi) (hb : 0 ≤ b) (hds : ∀ d ∈ ds, b ≤ d)
    (hlong : hi - lo ≤ ds.length * b) : clampedSum lo hi x ds = hi := by
  have hneg : clampedSum (-hi) (-lo) (-x) (ds.map fun d => -d) = -hi := by
    apply clampedSum_eq_lo (neg_le_neg hhi) (neg_le_neg hlo) hb
    · intro d hd
      obtain ⟨e, he, rfl⟩ := List.mem_map.mp hd
      exact neg_le_neg (hds e he)
    · rw [List.length_map]
      linarith
  rw [clampedSum_neg (hlo.trans hhi)] at hneg
  exact neg_injective hneg

end Sum

end Clamp
