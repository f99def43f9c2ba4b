import LoxTokens.Decimal
import LoxTokens.Double.Basic
import Mathlib.Algebra.Field.Rat
import Mathlib.Algebra.Order.Field.Power
import Mathlib.Algebra.Order.Ring.Rat
import Mathlib.Tactic.Linarith
import Mathlib.Tactic.NormNum
import Mathlib.Tactic.Positivity
import Mathlib.Tactic.Ring

/-!
The exact values of numbers. The bits of a `Double` without its sign are ordered as the values they
stand for, also across the powers of two, where the distance between neighbours changes.
-/

namespace LoxTokens

theorem zpow_eq_div {b : ℚ} (hb : b ≠ 0) (p : ℤ) : b ^ p = b ^ p.toNat / b ^ (-p).toNat := by
  rw [← zpow_natCast, ← zpow_natCast, ← zpow_sub₀ hb]
  congr 1
  omega

def Decimal.value (d : Decimal) : ℚ :=
  d.coefficient * 10 ^ d.exponent

theorem Decimal.num_div_den (d : Decimal) : (d.num / d.den : ℚ) = d.value := by
  rw [value, zpow_eq_div (by norm_num), num, den]
  push_cast [Nat.pow_eq]
  ring

namespace Double

-- The value of a finite number, without its sign.
def absValue (x : Double) : ℚ :=
  x.significand * 2 ^ x.exponent

-- The value that a magnitude stands for. Infinity has the next power of two.
def valueAt (magnitude : ℕ) : ℚ :=
  (if magnitude < 2 ^ 52 then magnitude else magnitude % 2 ^ 52 + 2 ^ 52 : ℕ) *
    2 ^ ((max (magnitude / 2 ^ 52) 1 : ℕ) - 1075 : ℤ)

theorem absValue_eq_valueAt (x : Double) : x.absValue = valueAt x.magnitude :=
  rfl

-- A significand below the normal range has the least exponent. One that is the next power of two
-- belongs to the next exponent, where it is the least.
theorem valueAt_mul_add {k s : ℕ} (hs : s ≤ 2 ^ 53) (hk : k = 0 ∨ 2 ^ 52 ≤ s) :
    valueAt (k * 2 ^ 52 + s) = s * 2 ^ (k - 1074 : ℤ) := by
  unfold valueAt
  rcases Nat.lt_or_ge s (2 ^ 52) with hl | hl
  case inl =>
    have h₀ : k = 0 := by omega
    have h₁ : max ((k * 2 ^ 52 + s) / 2 ^ 52) 1 = 1 := by omega
    rw [if_pos (by omega), h₁, h₀]
    norm_num
  rcases Nat.eq_or_lt_of_le hs with rfl | hs
  case inr.inl =>
    have h₀ : (k * 2 ^ 52 + 2 ^ 53) % 2 ^ 52 = 0 := by omega
    have h₁ : max ((k * 2 ^ 52 + 2 ^ 53) / 2 ^ 52) 1 = k + 2 := by omega
    have h₂ : ((k + 2 : ℕ) - 1075 : ℤ) = (k - 1074 : ℤ) + 1 := by omega
    rw [if_neg (by omega), h₀, h₁, h₂, zpow_add_one₀ two_ne_zero]
    push_cast
    ring
  case inr.inr =>
    have h₀ : (k * 2 ^ 52 + s) % 2 ^ 52 + 2 ^ 52 = s := by omega
    have h₁ : max ((k * 2 ^ 52 + s) / 2 ^ 52) 1 = k + 1 := by omega
    have h₂ : ((k + 1 : ℕ) - 1075 : ℤ) = k - 1074 := by omega
    rw [if_neg (by omega), h₀, h₁, h₂]

theorem exists_eq_mul_add (m : ℕ) :
    ∃ k s, m = k * 2 ^ 52 + s ∧ s < 2 ^ 53 ∧ (k = 0 ∨ 2 ^ 52 ≤ s) :=
  ⟨m / 2 ^ 52 - 1, m - (m / 2 ^ 52 - 1) * 2 ^ 52, by omega, by omega, by omega⟩

theorem valueAt_succ {k s : ℕ} (hs : s < 2 ^ 53) (hk : k = 0 ∨ 2 ^ 52 ≤ s) :
    valueAt (k * 2 ^ 52 + s + 1) = (s + 1) * 2 ^ (k - 1074 : ℤ) := by
  rw [Nat.add_assoc, valueAt_mul_add hs (by omega), Nat.cast_succ]

theorem valueAt_pred {k s i : ℕ} (hs : s ≤ 2 ^ 53) (hk : k = 0 ∨ 2 ^ 52 < s)
    (hi : i + 1 = k * 2 ^ 52 + s) : valueAt i = (s - 1) * 2 ^ (k - 1074 : ℤ) := by
  have hi : i = k * 2 ^ 52 + (s - 1) := by omega
  rw [hi, valueAt_mul_add (by omega) (by omega), Nat.cast_pred (by omega)]

theorem valueAt_strictMono : StrictMono valueAt := by
  refine strictMono_nat_of_lt_succ fun m => ?_
  have ⟨k, s, hm, hs, hk⟩ := exists_eq_mul_add m
  have hp : (0 : ℚ) < 2 ^ (k - 1074 : ℤ) := by positivity
  rw [hm, valueAt_succ hs hk, valueAt_mul_add hs.le hk]
  linarith

theorem valueAt_inj {m₁ m₂ : ℕ} : valueAt m₁ = valueAt m₂ ↔ m₁ = m₂ :=
  valueAt_strictMono.injective.eq_iff

theorem magnitude_lt (x : Double) : x.magnitude < 2 ^ 63 :=
  Nat.mod_lt _ (by decide)

theorem magnitude_ofMagnitude {m : ℕ} (h : m < 2 ^ 63) : (ofMagnitude m).magnitude = m := by
  have : m % 2 ^ 64 % 2 ^ 63 = m := by omega
  simpa [magnitude, ofMagnitude, UInt64.toNat_ofNat'] using this

theorem not_isNegative_ofMagnitude {m : ℕ} (h : m < 2 ^ 63) : ¬(ofMagnitude m).isNegative := by
  have : m % 2 ^ 64 < 2 ^ 63 := by omega
  simpa [isNegative, ofMagnitude, UInt64.toNat_ofNat'] using this

section

variable {x y : Double}

theorem isFinite_iff : x.isFinite ↔ x.magnitude < infinityBits := by
  simp [isFinite]

theorem isInfinite_iff : x.isInfinite ↔ x.magnitude = infinityBits := by
  simp [isInfinite]

theorem isFinite_of_not_isNaN (hn : ¬x.isNaN) (hi : ¬x.isInfinite) : x.isFinite := by
  have hn : x.magnitude ≤ infinityBits := by simpa [isNaN] using hn
  exact isFinite_iff.mpr <| Nat.lt_of_le_of_ne hn <| mt isInfinite_iff.mpr hi

-- Sign and magnitude are all there is.
theorem eq_of_magnitude_eq (hs : x.isNegative = y.isNegative) (hm : x.magnitude = y.magnitude) :
    x = y := by
  have hx := x.bits.toNat_lt
  have hy := y.bits.toNat_lt
  have hb : x.bits = y.bits := by
    rw [← UInt64.toNat_inj]
    simp [isNegative, magnitude] at hs hm
    omega
  cases x
  cases y
  exact congrArg _ hb

end

-- Without a sign the magnitude is all there is.
theorem eq_ofMagnitude {x : Double} (h : ¬x.isNegative) : x = ofMagnitude x.magnitude := by
  have hx : x.bits.toNat < 2 ^ 63 := by simpa [isNegative] using h
  rw [magnitude, Nat.pow_eq, Nat.mod_eq_of_lt hx, ofMagnitude, UInt64.ofNat_toNat]

end Double
end LoxTokens
