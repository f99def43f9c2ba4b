import LoxTokens.Double.Rounding
import LoxTokens.Proofs.Double.Value

/-!
Rounding of exact values. A value is rounded as if magnitudes went on behind infinity. Which one it
becomes is decided by its two neighbours, and depends on nothing but the value.
-/

namespace LoxTokens

-- The whole number is the nearest to the value, the even one of two.
structure RoundsToNat (w : ℚ) (s : ℕ) : Prop where
  below : 2 * s - 1 ≤ 2 * w
  above : 2 * w ≤ 2 * s + 1
  even  : 2 * s - 1 = 2 * w ∨ 2 * w = 2 * s + 1 → Even s

namespace RoundsToNat

variable {w : ℚ} {s n : ℕ}

theorem le (h : RoundsToNat w s) (hw : w ≤ n) : s ≤ n := by
  have : 2 * s ≤ 2 * n + 1 := by
    exact_mod_cast (by linarith [h.below] : (2 * s : ℚ) ≤ 2 * n + 1)
  omega

theorem ge (h : RoundsToNat w s) (hw : n ≤ w) : n ≤ s := by
  have : 2 * n ≤ 2 * s + 1 := by
    exact_mod_cast (by linarith [h.above] : (2 * n : ℚ) ≤ 2 * s + 1)
  omega

end RoundsToNat

theorem roundsToNat_divRound {n d : ℕ} (hd : 0 < d) : RoundsToNat (n / d) (divRound n d) := by
  have hn := Nat.div_add_mod n d
  have hr := Nat.mod_lt n hd
  unfold divRound
  generalize n / d = q at *
  generalize n % d = r at *
  have hd' : (0 : ℚ) < d := by exact_mod_cast hd
  have hw : (n / d : ℚ) = q + r / d := by
    have : (n : ℚ) = d * q + r := by exact_mod_cast hn.symm
    rw [this, add_div, mul_div_cancel_left₀ _ hd'.ne']
  have hr₀ : (0 : ℚ) ≤ r / d := by positivity
  have hr₁ : (r / d : ℚ) < 1 := by
    rw [div_lt_one hd']
    exact_mod_cast hr
  have hq : ((q + 1 : ℕ) : ℚ) = q + 1 := Nat.cast_succ q
  rw [hw]
  extract_lets
  split
  case isTrue h =>
    have : (r / d : ℚ) < 1 / 2 := by
      rw [div_lt_div_iff₀ hd' two_pos]
      exact_mod_cast (by omega)
    exact ⟨by linarith, by linarith, fun h => by cases h <;> linarith⟩
  split
  case isFalse.isTrue h =>
    have : (1 / 2 : ℚ) < r / d := by
      rw [div_lt_div_iff₀ two_pos hd']
      exact_mod_cast (by omega)
    exact ⟨by linarith, by linarith, fun h => by cases h <;> linarith⟩
  case isFalse.isFalse h₁ h₂ =>
    have : (r / d : ℚ) = 1 / 2 := by
      rw [div_eq_div_iff hd'.ne' two_ne_zero]
      exact_mod_cast (by omega)
    cases Nat.even_or_odd q
    case inl he =>
      rw [Nat.even_iff.mp he, Nat.add_zero]
      exact ⟨by linarith, by linarith, fun _ => he⟩
    case inr ho =>
      rw [Nat.odd_iff.mp ho]
      exact ⟨by linarith, by linarith, fun _ => ho.add_one⟩

theorem floorLog2_bounds {n d : ℕ} (hn : 0 < n) (hd : 0 < d) :
    (2 : ℚ) ^ floorLog2 n d ≤ n / d ∧ (n / d : ℚ) < 2 ^ (floorLog2 n d + 1) := by
  have hd' : (0 : ℚ) < d := by exact_mod_cast hd
  have hn₁ : (2 : ℚ) ^ (n.log2 : ℤ) ≤ n := by exact_mod_cast Nat.log2_self_le hn.ne'
  have hn₂ : (n : ℚ) < 2 ^ (n.log2 + 1 : ℤ) := by exact_mod_cast Nat.lt_log2_self
  have hd₁ : (2 : ℚ) ^ (d.log2 : ℤ) ≤ d := by exact_mod_cast Nat.log2_self_le hd.ne'
  have hd₂ : (d : ℚ) < 2 ^ (d.log2 + 1 : ℤ) := by exact_mod_cast Nat.lt_log2_self
  unfold floorLog2
  extract_lets k
  have hlow : (2 : ℚ) ^ (k - 1) ≤ n / d := by
    rw [le_div_iff₀ hd']
    calc
      (2 : ℚ) ^ (k - 1) * d ≤ 2 ^ (k - 1) * 2 ^ (d.log2 + 1 : ℤ) := by gcongr
      _ = 2 ^ (n.log2 : ℤ) := by rw [← zpow_add₀ two_ne_zero]; congr 1; omega
      _ ≤ n := hn₁
  have hhigh : (n / d : ℚ) < 2 ^ (k + 1) := by
    rw [div_lt_iff₀ hd']
    calc
      (n : ℚ) < 2 ^ (n.log2 + 1 : ℤ) := hn₂
      _ = 2 ^ (k + 1) * 2 ^ (d.log2 : ℤ) := by rw [← zpow_add₀ two_ne_zero]; congr 1; omega
      _ ≤ 2 ^ (k + 1) * d := by gcongr
  have hk : d * Nat.pow 2 k.toNat ≤ n * Nat.pow 2 (-k).toNat ↔ (2 : ℚ) ^ k ≤ n / d := by
    rw [zpow_eq_div two_ne_zero, div_le_div_iff₀ (by positivity) hd', mul_comm]
    exact_mod_cast Iff.rfl
  split
  case isTrue h  => exact ⟨hk.mp h, hhigh⟩
  case isFalse h => exact ⟨hlow, by simpa using not_le.mp <| mt hk.mpr h⟩

namespace Double

-- No other magnitude is nearer to the value, and an odd one is not even as near as another.
structure Rounds (v : ℚ) (m : ℕ) : Prop where
  below : ∀ i < m, valueAt i + valueAt m ≤ 2 * v
  above : ∀ i > m, 2 * v ≤ valueAt m + valueAt i
  even  : ∀ i ≠ m, valueAt i + valueAt m = 2 * v → Even m

variable {v : ℚ} {m m₁ m₂ n d : ℕ}

theorem rounds_of_neighbours
    (below : ∀ i, i + 1 = m → valueAt i + valueAt m ≤ 2 * v)
    (above : 2 * v ≤ valueAt m + valueAt (m + 1))
    (even : ∀ i, i + 1 = m ∨ i = m + 1 → valueAt i + valueAt m = 2 * v → Even m) :
    Rounds v m where
  below i hi := by
    have := valueAt_strictMono.monotone (show i ≤ m - 1 by omega)
    linarith [below (m - 1) (by omega)]
  above i hi := by
    have := valueAt_strictMono.monotone (show m + 1 ≤ i from hi)
    linarith
  even i hi h := by
    by_cases hn : i + 1 = m ∨ i = m + 1
    case pos => exact even i hn h
    case neg =>
      cases lt_or_gt_of_ne hi
      case inl hi =>
        have := valueAt_strictMono (show i < m - 1 by omega)
        linarith [below (m - 1) (by omega)]
      case inr hi =>
        have := valueAt_strictMono (show m + 1 < i by omega)
        linarith

theorem Rounds.le (h₁ : Rounds v m₁) (h₂ : Rounds v m₂) : m₂ ≤ m₁ := by
  by_contra h
  rw [not_le] at h
  have ha := h₁.above m₂ h
  have hb := h₂.below m₁ h
  have he₁ := Nat.even_iff.mp <| h₁.even m₂ h.ne' (by linarith)
  have he₂ := Nat.even_iff.mp <| h₂.even m₁ h.ne (by linarith)
  -- Between two even magnitudes there is a nearer one.
  have := valueAt_strictMono (show m₁ + 1 < m₂ by omega)
  linarith [h₁.above (m₁ + 1) (by omega)]

theorem Rounds.unique (h₁ : Rounds v m₁) (h₂ : Rounds v m₂) : m₁ = m₂ :=
  le_antisymm (h₂.le h₁) (h₁.le h₂)

theorem rounds_valueAt (m : ℕ) : Rounds (valueAt m) m where
  below i hi   := by linarith [valueAt_strictMono hi]
  above i hi   := by linarith [valueAt_strictMono hi]
  even  i hi h := absurd (valueAt_inj.mp <| by linarith) hi

-- Rounding the significand at its place is rounding the value, although the distance to the
-- magnitude below halves at a power of two.
theorem rounds_of_roundsToNat {w : ℚ} {s k : ℕ} (h : RoundsToNat w s) (hw : w < 2 ^ 53)
    (hk : k = 0 ∨ 2 ^ 52 ≤ w) : Rounds (w * 2 ^ (k - 1074 : ℤ)) (k * 2 ^ 52 + s) := by
  have hs53 : s ≤ 2 ^ 53 := h.le <| by exact_mod_cast hw.le
  have hs52 : k = 0 ∨ 2 ^ 52 ≤ s := hk.imp_right fun hk => h.ge <| by exact_mod_cast hk
  have ⟨hb, ha, he⟩ := h
  have hp : (0 : ℚ) < 2 ^ (k - 1074 : ℤ) := by positivity
  have hm := valueAt_mul_add hs53 hs52
  have hpred : ∀ i, i + 1 = k * 2 ^ 52 + s →
      valueAt i = (s - 1) * 2 ^ (k - 1074 : ℤ) ∨ (s : ℚ) ≤ w := by
    intro i hi
    by_cases h : k = 0 ∨ 2 ^ 52 < s
    case pos => exact .inl <| valueAt_pred hs53 h hi
    case neg =>
      have hs : (s : ℚ) = 2 ^ 52 := by exact_mod_cast (by omega)
      exact .inr <| hs ▸ hk.resolve_left (by omega)
  have hsucc : valueAt (k * 2 ^ 52 + s + 1) = (s + 1) * 2 ^ (k - 1074 : ℤ) ∨ w < s := by
    by_cases h : s < 2 ^ 53
    case pos => exact .inl <| valueAt_succ h hs52
    case neg =>
      have hs : (s : ℚ) = 2 ^ 53 := by exact_mod_cast (by omega)
      exact .inr <| hs ▸ hw
  have hm' : Even s → Even (k * 2 ^ 52 + s) := Even.add (Even.mul_left (by decide) k)
  have hlt := valueAt_strictMono (Nat.lt_add_one <| k * 2 ^ 52 + s)
  generalize (2 : ℚ) ^ (k - 1074 : ℤ) = p at *
  refine rounds_of_neighbours (fun i hi => ?below) ?above fun i hi heq => ?even
  case below =>
    have hlt := valueAt_strictMono (show i < k * 2 ^ 52 + s by omega)
    cases hpred i hi <;> nlinarith
  case above => cases hsucc <;> nlinarith
  case even =>
    refine hm' <| he ?_
    cases hi
    case inl hi =>
      have hlt := valueAt_strictMono (show i < k * 2 ^ 52 + s by omega)
      cases hpred i hi
      case inl h =>
        refine .inl <| mul_right_cancel₀ hp.ne' ?_
        linarith
      case inr h => nlinarith
    case inr hi =>
      cases hsucc
      case inl h =>
        refine .inr <| mul_right_cancel₀ hp.ne' ?_
        rw [hi] at heq
        linarith
      case inr h =>
        rw [hi] at heq
        nlinarith

theorem lastPlace_bounds (hn : 0 < n) (hd : 0 < d) :
    (n / d : ℚ) < 2 ^ 53 * 2 ^ lastPlace n d ∧
    (lastPlace n d = -1074 ∨ 2 ^ 52 * 2 ^ lastPlace n d ≤ (n / d : ℚ)) := by
  have ⟨hl, hh⟩ := floorLog2_bounds hn hd
  have hp (i : ℕ) : (2 : ℚ) ^ i * 2 ^ lastPlace n d = 2 ^ (lastPlace n d + i) := by
    rw [zpow_add₀ two_ne_zero, zpow_natCast, mul_comm]
  rw [hp, hp]
  constructor
  case left =>
    refine hh.trans_le <| zpow_le_zpow_right₀ one_le_two ?_
    unfold lastPlace
    omega
  case right =>
    refine or_iff_not_imp_left.mpr fun h => le_trans (zpow_le_zpow_right₀ one_le_two ?_) hl
    unfold lastPlace at h ⊢
    omega

theorem exists_rounds_ofRatio (n : ℕ) (hd : 0 < d) :
    ∃ m, Rounds (n / d) m ∧ ofRatio n d = ofMagnitude (min infinityBits m) := by
  rcases Nat.eq_zero_or_pos n with rfl | hn
  case inl => exact ⟨0, by simpa [valueAt] using rounds_valueAt 0, rfl⟩
  have ⟨hw, hk⟩ := lastPlace_bounds hn hd
  have hl : -1074 ≤ lastPlace n d := le_max_left ..
  unfold ofRatio
  extract_lets place significand
  rw [if_neg hn.ne']
  refine ⟨_, ?_, rfl⟩
  have hp : (0 : ℚ) < 2 ^ place := by positivity
  have hplace : ((place + 1074).toNat - 1074 : ℤ) = place := by omega
  have hv : ((n * Nat.pow 2 (-place).toNat : ℕ) / (d * Nat.pow 2 place.toNat : ℕ) : ℚ) =
      n / d / 2 ^ place := by
    rw [zpow_eq_div two_ne_zero, div_div_div_eq]
    push_cast [Nat.pow_eq]
    rfl
  have hr : RoundsToNat (n / d / 2 ^ place) significand :=
    hv ▸ roundsToNat_divRound (Nat.mul_pos hd <| Nat.pow_pos two_pos)
  have h := rounds_of_roundsToNat (k := (place + 1074).toNat) hr
    (by rwa [div_lt_iff₀ hp]) (by rw [le_div_iff₀ hp]; exact hk.imp_left (by omega))
  rwa [hplace, div_mul_cancel₀ _ hp.ne'] at h

theorem exists_rounds_ofDecimal (x : Decimal) :
    ∃ m, Rounds x.value m ∧ ofDecimal x = ofMagnitude (min infinityBits m) :=
  x.num_div_den ▸ exists_rounds_ofRatio x.num x.den_pos

-- Only the value of a decimal matters.
theorem Rounds.ofDecimal_eq {x : Decimal} (h : Rounds x.value m) :
    ofDecimal x = ofMagnitude (min infinityBits m) := by
  have ⟨m', h', he⟩ := exists_rounds_ofDecimal x
  rw [he, h.unique h']

end Double
end LoxTokens
