import LoxTokens.Proofs.Double.Rounding
import Mathlib.Algebra.Order.AbsoluteValue.Basic

/-!
The number nearest to an exact value. Rounding yields it, and it is the only one.
-/

namespace LoxTokens.Double

-- The number without a sign that is nearest to the value, one with an even significand where two
-- are as near. Half a step behind the largest number it is infinite.
structure Nearest (v : ℚ) (x : Double) : Prop where
  not_negative : ¬x.isNegative
  not_nan      : ¬x.isNaN
  infinite     : x.isInfinite ↔ 2 ^ 1024 - 2 ^ 970 ≤ v
  zero         : x.isZero ↔ v ≤ 2 ^ (-1075 : ℤ)
  nearest      : x.isFinite → ∀ y : Double, y.isFinite → |v - x.absValue| ≤ |v - y.absValue|
  even         : x.isFinite → ∀ y : Double, y.isFinite → y.absValue ≠ x.absValue →
                 |v - x.absValue| = |v - y.absValue| → Even x.significand

variable {v a b : ℚ} {m i : ℕ} {x y : Double}

theorem abs_sub_le_abs_sub_left_iff (h : a < b) : |v - b| ≤ |v - a| ↔ a + b ≤ 2 * v := by
  rw [← sq_le_sq]
  constructor <;> intro <;> nlinarith

theorem abs_sub_le_abs_sub_right_iff (h : a < b) : |v - a| ≤ |v - b| ↔ 2 * v ≤ a + b := by
  rw [← sq_le_sq]
  constructor <;> intro <;> nlinarith

theorem even_significand_iff : Even x.significand ↔ Even x.magnitude := by
  simp only [Nat.even_iff, significand, Nat.pow_eq]
  split <;> omega

theorem valueAt_infinityBits : valueAt infinityBits = 2 ^ 1024 := by
  have h := valueAt_mul_add (k := 2046) (s := 2 ^ 52) (by decide) (by decide)
  have hp : ((2046 : ℕ) - 1074 : ℤ) = (972 : ℕ) := rfl
  rw [hp, zpow_natCast, Nat.cast_pow, Nat.cast_two, ← pow_add] at h
  exact h

theorem valueAt_largest : valueAt (infinityBits - 1) = 2 ^ 1024 - 2 ^ 971 := by
  have h := valueAt_mul_add (k := 2045) (s := 2 ^ 53 - 1) (by decide) (by decide)
  have hp : ((2045 : ℕ) - 1074 : ℤ) = (971 : ℕ) := rfl
  have hs : ((2 ^ 53 - 1 : ℕ) : ℚ) = 2 ^ 53 - 1 := by norm_num
  rw [hp, zpow_natCast, hs, sub_one_mul, ← pow_add] at h
  exact h

theorem valueAt_largest_add_infinityBits :
    valueAt (infinityBits - 1) + valueAt infinityBits = 2 * (2 ^ 1024 - 2 ^ 970) := by
  rw [valueAt_largest, valueAt_infinityBits, pow_succ' 2 970]
  generalize (2 : ℚ) ^ 1024 = a, (2 : ℚ) ^ 970 = b
  ring

namespace Rounds

theorem infinityBits_le_iff (h : Rounds v m) : infinityBits ≤ m ↔ 2 ^ 1024 - 2 ^ 970 ≤ v := by
  have hs := valueAt_largest_add_infinityBits
  generalize (2 : ℚ) ^ 1024 - 2 ^ 970 = a at *
  constructor
  case mp =>
    intro hm
    have := valueAt_strictMono.monotone hm
    linarith [h.below (infinityBits - 1) <| Nat.lt_of_lt_of_le (by decide) hm]
  case mpr =>
    intro hv
    by_contra hm
    have hm : m ≤ infinityBits - 1 := by omega
    have hle := valueAt_strictMono.monotone hm
    have ha := h.above infinityBits (by omega)
    have he := h.even infinityBits (by omega) (by linarith)
    have : m = infinityBits - 1 := valueAt_inj.mp (by linarith)
    exact absurd (this ▸ he) (by decide)

theorem eq_zero_iff (h : Rounds v m) : m = 0 ↔ v ≤ 2 ^ (-1075 : ℤ) := by
  have h₀ : valueAt 0 = 0 := by simp [valueAt]
  have h₁ : valueAt 1 = 2 * 2 ^ (-1075 : ℤ) := by
    rw [← zpow_one_add₀ two_ne_zero]
    simp [valueAt]
  generalize (2 : ℚ) ^ (-1075 : ℤ) = a at *
  constructor
  case mp =>
    rintro rfl
    linarith [h.above 1 one_pos]
  case mpr =>
    intro hv
    by_contra hm
    have hle := valueAt_strictMono.monotone (Nat.one_le_iff_ne_zero.mpr hm)
    have hb := h.below 0 (Nat.pos_of_ne_zero hm)
    have he := h.even 0 (Ne.symm hm) (by linarith)
    have : m = 1 := valueAt_inj.mp (by linarith)
    exact absurd (this ▸ he) (by decide)

theorem abs_sub_le (h : Rounds v m) (i : ℕ) : |v - valueAt m| ≤ |v - valueAt i| := by
  rcases lt_trichotomy i m with hi | rfl | hi
  case inl     => exact abs_sub_le_abs_sub_left_iff (valueAt_strictMono hi) |>.mpr <| h.below i hi
  case inr.inl => exact le_rfl
  case inr.inr => exact abs_sub_le_abs_sub_right_iff (valueAt_strictMono hi) |>.mpr <| h.above i hi

theorem even_of_abs_sub_eq (h : Rounds v m) (hi : i ≠ m) (he : |v - valueAt m| = |v - valueAt i|) :
    Even m := by
  refine h.even i hi ?_
  cases abs_eq_abs.mp he
  case inl he => exact absurd (valueAt_inj.mp <| by linarith) hi
  case inr he => linarith

theorem nearest (h : Rounds v m) : Nearest v (ofMagnitude <| min infinityBits m) := by
  have hlt : min infinityBits m < 2 ^ 63 := Nat.lt_of_le_of_lt (min_le_left ..) (by decide)
  have hm := magnitude_ofMagnitude hlt
  have hf : (ofMagnitude <| min infinityBits m).isFinite →
      (ofMagnitude <| min infinityBits m).magnitude = m := by
    rw [isFinite_iff, hm]
    omega
  refine ⟨not_isNegative_ofMagnitude hlt, ?nan, ?infinite, ?zero, fun hx y _ => ?nearest,
    fun hx y _ hne he => ?even⟩
  case nan      => simp [isNaN, hm]
  case infinite => rw [isInfinite_iff, hm, ← h.infinityBits_le_iff, min_eq_left_iff]
  case zero     =>
    have : min infinityBits m = 0 ↔ m = 0 := by unfold infinityBits; omega
    simp [isZero, hm, this, h.eq_zero_iff]
  case nearest =>
    rw [absValue_eq_valueAt, absValue_eq_valueAt, hf hx]
    exact h.abs_sub_le _
  case even =>
    rw [absValue_eq_valueAt, absValue_eq_valueAt, hf hx] at he hne
    rw [even_significand_iff, hf hx]
    exact h.even_of_abs_sub_eq (mt (congrArg valueAt) hne) he

end Rounds

namespace Nearest

theorem isFinite (h : Nearest v x) (hi : ¬x.isInfinite) : x.isFinite :=
  isFinite_of_not_isNaN h.not_nan hi

-- The value is nearer to the largest number than to infinity.
theorem lt_add_infinityBits (h : Nearest v x) (hx : x.magnitude + 1 = infinityBits) :
    2 * v < valueAt x.magnitude + valueAt infinityBits := by
  have hi : ¬x.isInfinite := by
    rw [isInfinite_iff]
    omega
  have hv := not_le.mp <| mt h.infinite.mpr hi
  rw [Nat.eq_sub_of_add_eq hx, valueAt_largest_add_infinityBits]
  exact mul_lt_mul_of_pos_left hv two_pos

theorem rounds (h : Nearest v x) (hf : x.isFinite) : Rounds v x.magnitude := by
  have hx := isFinite_iff.mp hf
  have hy : ∀ i < infinityBits, |v - valueAt x.magnitude| ≤ |v - valueAt i| ∧
      (i ≠ x.magnitude → |v - valueAt x.magnitude| = |v - valueAt i| → Even x.magnitude) := by
    intro i hi
    have hm := magnitude_ofMagnitude (show i < 2 ^ 63 from Nat.lt_trans hi (by decide))
    have hn := h.nearest hf (ofMagnitude i) (isFinite_iff.mpr <| hm.symm ▸ hi)
    have he := h.even hf (ofMagnitude i) (isFinite_iff.mpr <| hm.symm ▸ hi)
    simp only [absValue_eq_valueAt, hm, even_significand_iff, ne_eq, valueAt_inj] at hn he
    exact ⟨hn, he⟩
  refine rounds_of_neighbours (fun i hi => ?below) ?above fun i hi heq => ?even
  case below =>
    have hlt := valueAt_strictMono (show i < x.magnitude by omega)
    exact abs_sub_le_abs_sub_left_iff hlt |>.mp <| hy i (by omega) |>.left
  case above =>
    have hlt := valueAt_strictMono (Nat.lt_add_one x.magnitude)
    cases lt_or_eq_of_le (show x.magnitude + 1 ≤ infinityBits from hx)
    case inl hi => exact abs_sub_le_abs_sub_right_iff hlt |>.mp <| hy _ hi |>.left
    case inr hi => exact hi ▸ (h.lt_add_infinityBits hi).le
  case even =>
    have he : |v - valueAt x.magnitude| = |v - valueAt i| := abs_eq_abs.mpr <| .inr (by linarith)
    by_cases hi' : i < infinityBits
    case pos => exact hy i hi' |>.right (by omega) he
    case neg =>
      have hi : i = infinityBits := by omega
      linarith [hi ▸ h.lt_add_infinityBits (by omega)]

theorem unique (hx : Nearest v x) (hy : Nearest v y) : x = y := by
  rw [eq_ofMagnitude hx.not_negative, eq_ofMagnitude hy.not_negative]
  congr 1
  by_cases hi : x.isInfinite
  case pos =>
    have hi' := hy.infinite.mpr <| hx.infinite.mp hi
    rw [isInfinite_iff.mp hi, isInfinite_iff.mp hi']
  case neg =>
    have hi' := mt hy.infinite.mp <| mt hx.infinite.mpr hi
    exact (hx.rounds <| hx.isFinite hi).unique (hy.rounds <| hy.isFinite hi')

end Nearest

end LoxTokens.Double
