import LoxTokens.Double.Layout
import LoxTokens.Proofs.Decimal.Numeral
import LoxTokens.Proofs.Double.Rounding
import Mathlib.Tactic.FieldSimp

/-!
Reading back the text of a number. The shortest digits were chosen because they read back, without
their last zeros they stand for the same value, and where all digits are needed these are exact.
-/

namespace LoxTokens

open PieceKind

namespace Decimal

theorem value_trim (d : Decimal) : d.trim.value = d.value := by
  fun_induction trim d
  case case1 d h hi =>
    have hc : (d.coefficient : ℚ) = (d.coefficient / 10 : ℕ) * 10 := by
      exact_mod_cast (Nat.div_mul_cancel <| Nat.dvd_of_mod_eq_zero h.right).symm
    rw [hi, value, value, zpow_add_one₀ (by norm_num), hc]
    ring
  case case2 => rfl

end Decimal

namespace Double

variable {x y : Double} {d d' : Decimal}

@[simp]
theorem magnitude_abs (x : Double) : x.abs.magnitude = x.magnitude :=
  magnitude_ofMagnitude x.magnitude_lt

theorem abs_abs (x : Double) : x.abs.abs = x.abs := by
  rw [abs, magnitude_abs, abs]

theorem equal_iff (hx : ¬x.isNaN) (hy : ¬y.isNaN) (hs : x.isNegative = y.isNegative) :
    x.equal y ↔ x = y := by
  have hz : x.isZero → y.isZero → x = y := by
    simp only [isZero, decide_eq_true_iff]
    exact fun hx hy => eq_of_magnitude_eq hs <| hx.trans hy.symm
  have hb : x.bits = y.bits ↔ x = y := by cases x; cases y; simp
  simp only [equal, hx, hy, Bool.not_false, Bool.true_and, Bool.or_eq_true, Bool.and_eq_true,
    beq_iff_eq, hb]
  exact or_iff_left_of_imp fun h => hz h.left h.right

theorem ofDecimal_eq_ofMagnitude (d : Decimal) : ∃ m ≤ infinityBits, ofDecimal d = ofMagnitude m := by
  have ⟨m, _, he⟩ := exists_rounds_ofDecimal d
  exact ⟨_, min_le_left .., he⟩

-- What is read from digits is a number without a sign.
theorem not_isNaN_ofDecimal (d : Decimal) : ¬(ofDecimal d).isNaN := by
  have ⟨m, hm, he⟩ := ofDecimal_eq_ofMagnitude d
  have hl : m < 2 ^ 63 := hm.trans_lt <| by decide
  simpa [isNaN, he, magnitude_ofMagnitude hl] using hm

theorem not_isNegative_ofDecimal (d : Decimal) : ¬(ofDecimal d).isNegative := by
  have ⟨m, hm, he⟩ := ofDecimal_eq_ofMagnitude d
  exact he ▸ not_isNegative_ofMagnitude (hm.trans_lt <| by decide)

-- Rounding sees nothing of a decimal but its value.
theorem ofDecimal_congr (h : d.value = d'.value) : ofDecimal d = ofDecimal d' := by
  have ⟨m, hm, he⟩ := exists_rounds_ofDecimal d
  rw [he, Rounds.ofDecimal_eq <| h ▸ hm]

theorem ofDecimal_eq_abs (hx : x.isFinite) (h : d.value = x.absValue) : ofDecimal d = x.abs := by
  have hm : Rounds d.value x.magnitude := h ▸ rounds_valueAt x.magnitude
  have hl : x.magnitude < infinityBits := by simpa [isFinite] using hx
  rw [hm.ofDecimal_eq, Nat.min_eq_right hl.le, abs]

theorem value_exact (x : Double) : x.exact.value = x.absValue := by
  unfold exact
  split
  case isTrue h =>
    have hp : (-x.exponent).toNat = 0 := by omega
    rw [Decimal.value, absValue, num, zpow_eq_div two_ne_zero, hp]
    push_cast [Nat.pow_eq]
    ring
  case isFalse h =>
    have hp : x.exponent.toNat = 0 := by omega
    have ht : (10 : ℚ) ^ x.exponent = 2 ^ x.exponent * 5 ^ x.exponent := by
      rw [← mul_zpow]
      norm_num
    rw [Decimal.value, absValue, ht, zpow_eq_div (b := 5) (by norm_num), hp]
    push_cast [Nat.pow_eq]
    field_simp

theorem ofDecimal_of_onGrid? {grid : ℤ} (h : x.onGrid? grid = some d) : ofDecimal d = x := by
  unfold onGrid? at h
  grind

theorem ofDecimal_shortest (hx : x.isFinite) : ofDecimal x.shortest = x.abs := by
  unfold shortest
  extract_lets y p
  have hy : y.isFinite := by simpa [y, isFinite] using hx
  split
  case isTrue hz =>
    have hz : x.magnitude = 0 := by simpa [y, isZero] using hz
    exact congrArg ofMagnitude hz.symm
  case isFalse =>
    rw [ofDecimal_congr <| Decimal.value_trim _]
    cases hd : (List.range 17).findSome? fun i : ℕ => y.onGrid? (p - 1 - i)
    case none   => exact ofDecimal_eq_abs hy y.value_exact |>.trans x.abs_abs
    case some d =>
      obtain ⟨_, _, hg⟩ := List.exists_of_findSome?_eq_some hd
      exact ofDecimal_of_onGrid? hg

theorem ofDecimal_read_positional (hx : x.isFinite) (places : ℕ) :
    ofDecimal (.read <| x.shortest.positional places) = x.abs := by
  rw [ofDecimal_congr <| Decimal.value_read_positional places _, ofDecimal_shortest hx]

theorem toList_text (hx : x.isFinite) :
    x.text.toList = (if x.isNegative then ['-'] else []) ++ x.shortest.positional 0 := by
  have hm : x.magnitude < infinityBits := by simpa [isFinite] using hx
  have hn : ¬x.isNaN := by simpa [isNaN] using hm.le
  have hi : ¬x.isInfinite := by simpa [isInfinite] using hm.ne
  have hp : (⟨0, none⟩ : Layout).magnitude x = x.shortest.positional 0 := by
    simp [Layout.magnitude, Layout.isPositional]
  rw [text, String.toList_ofList, Layout.render, if_neg hn, if_neg hi, hp]
  split <;> rfl

end Double
end LoxTokens
