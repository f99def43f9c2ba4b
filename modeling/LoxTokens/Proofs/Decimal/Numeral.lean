import LoxTokens.Proofs.Double.Value
import LoxTokens.Proofs.Piece.LongestMatch

/-!
Numerals: digits, or digits around a point. One is read as the exact value of all its digits, and a
decimal that is written with its digits in place is read back as the same value.
-/

namespace LoxTokens

open PieceKind TokenType

-- A numeral with its digits before the point and behind it.
inductive IsNumeral : List Char → List Char → List Char → Prop
  | whole    : IsDigits ds → IsNumeral ds ds []
  | fraction : IsDigits ds → IsDigits fs → IsNumeral (ds ++ '.' :: fs) ds fs

theorem allows_number_iff {text : List Char} :
    Allows (.lexeme .number) text ↔ ∃ ds fs, IsNumeral text ds fs := by
  constructor
  case mp =>
    intro h
    generalize hk : PieceKind.lexeme .number = kind at h
    cases h
    case whole h       => exact ⟨_, _, .whole h⟩
    case fraction h h' => exact ⟨_, _, .fraction h h'⟩
    case symbol h      => cases hk; simp [symbols] at h
    case word _ h      =>
      cases hk
      cases h
      case reserved h => simp [keywords] at h
    all_goals cases hk
  case mpr =>
    rintro ⟨_, _, h⟩
    cases h
    case whole h       => exact .whole h
    case fraction h h' => exact .fraction h h'

variable {text ds fs : List Char}

theorem IsNumeral.not_mem {c : Char} (h : IsNumeral text ds fs) (hd : ¬c.isDigit) (hp : c ≠ '.') :
    c ∉ text := by
  have hn (cs : List Char) (h : IsDigits cs) : c ∉ cs := fun hc => hd <| h.right c hc
  cases h
  case whole h       => exact hn _ h
  case fraction h h' => simp [hn _ h, hn _ h', hp]

namespace Decimal

theorem read_of_isNumeral (h : IsNumeral text ds fs) : read text = ofDigits ds fs := by
  cases h
  case whole h =>
    have ht := takeWhile_append_of_stop (r := []) h.right (by simp)
    have hd := dropWhile_append_of_stop (r := []) h.right (by simp)
    rw [List.append_nil] at ht hd
    rw [read, ht, hd, List.drop_nil]
  case fraction h _ =>
    have hp : ∀ c ∈ ('.' :: fs).head?, ¬c.isDigit := by simp
    rw [read, takeWhile_append_of_stop h.right hp, dropWhile_append_of_stop h.right hp]
    rfl

theorem value_ofDigits (ds fs : List Char) :
    (ofDigits ds fs).value = Nat.ofDigitChars 10 (ds ++ fs) 0 / 10 ^ fs.length := by
  rw [value, ofDigits, zpow_neg, zpow_natCast, div_eq_mul_inv]

theorem isDigits_toDigits (n : ℕ) : IsDigits (Nat.toDigits 10 n) :=
  ⟨Nat.toDigits_ne_nil, fun _ => Nat.isDigit_of_mem_toDigits (by decide) (by decide)⟩

theorem isDigit_of_mem_fractionDigits {width n : ℕ} : ∀ c ∈ fractionDigits width n, c.isDigit := by
  unfold fractionDigits
  split
  case isTrue => simp
  case isFalse =>
    simp only [List.mem_append, List.mem_replicate]
    rintro c (⟨_, rfl⟩ | hc)
    case inl => rfl
    case inr => exact (isDigits_toDigits n).right c hc

theorem length_fractionDigits {width n : ℕ} (h : n < 10 ^ width) :
    (fractionDigits width n).length = width := by
  unfold fractionDigits
  split
  case isTrue hw => exact hw.symm
  case isFalse hw =>
    have := Nat.length_toDigits_le_iff (b := 10) (by decide) (Nat.pos_of_ne_zero hw) |>.mpr h
    simp
    omega

theorem ofDigitChars_fractionDigits {width n : ℕ} (h : n < 10 ^ width) :
    Nat.ofDigitChars 10 (fractionDigits width n) 0 = n := by
  unfold fractionDigits
  split
  case isTrue hw =>
    subst hw
    simp at h
    simp [h]
  case isFalse =>
    simp [Nat.ofDigitChars_append, Nat.ofDigitChars_replicate_zero]

variable (places : ℕ) (d : Decimal)

theorem exists_isNumeral_positional :
    ∃ ds fs, IsNumeral (d.positional places) ds fs ∧ (ofDigits ds fs).value = d.value := by
  have hr : d.num % d.den < 10 ^ (-d.exponent).toNat := Nat.mod_lt _ d.den_pos
  let ds := Nat.toDigits 10 (d.num / d.den)
  let digits := fractionDigits (-d.exponent).toNat (d.num % d.den)
  let fs := digits ++ List.replicate (places - digits.length) '0'
  have hd : IsDigits ds := isDigits_toDigits _
  refine ⟨ds, fs, ?numeral, ?value⟩
  case numeral =>
    have hf : ∀ c ∈ fs, c.isDigit := by
      simp only [fs, List.mem_append, List.mem_replicate]
      rintro c (hc | ⟨_, rfl⟩)
      case inl => exact isDigit_of_mem_fractionDigits c hc
      case inr => rfl
    unfold positional
    dsimp only
    split
    case h_1 h => exact (show fs = [] from h) ▸ .whole hd
    case h_2 h => exact .fraction hd ⟨h, hf⟩
  case value =>
    have hl : digits.length = (-d.exponent).toNat := length_fractionDigits hr
    have hn : Nat.ofDigitChars 10 (ds ++ fs) 0 = 10 ^ (places - digits.length) * d.num := by
      have ha : d.den * (d.num / d.den) + d.num % d.den = d.num := Nat.div_add_mod ..
      rw [Nat.ofDigitChars_append, Nat.ofDigitChars_append, Nat.ofDigitChars_replicate_zero,
        Nat.ofDigitChars_ten_toDigits, Nat.ofDigitChars_eq_ofDigitChars_zero, hl,
        ofDigitChars_fractionDigits hr]
      exact congrArg _ ha
    have hd : 10 ^ fs.length = 10 ^ (places - digits.length) * d.den := by
      rw [List.length_append, List.length_replicate, hl, den, Nat.add_comm, pow_add]
      rfl
    have hd' : (10 : ℚ) ^ fs.length = 10 ^ (places - digits.length) * d.den := by exact_mod_cast hd
    rw [value_ofDigits, hn, hd', ← d.num_div_den]
    push_cast
    exact mul_div_mul_left _ _ (by positivity)

theorem value_read_positional : (read <| d.positional places).value = d.value := by
  have ⟨ds, fs, h, hv⟩ := d.exists_isNumeral_positional places
  rw [read_of_isNumeral h, hv]

end Decimal
end LoxTokens
