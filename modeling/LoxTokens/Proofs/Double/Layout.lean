import LoxTokens.Proofs.Double.ReadBack

/-!
The texts of numbers, whatever their layout. A sign, the mark of infinity and an exponent can be told
from digits, and the digits were chosen because they read back. So no two numbers share a text.
-/

namespace LoxTokens

open PieceKind

def signed (negative : Bool) (text : List Char) : List Char :=
  if negative then '-' :: text else text

theorem signed_inj {n₁ n₂ : Bool} {l₁ l₂ : List Char} (h₁ : '-' ∉ l₁.head?) (h₂ : '-' ∉ l₂.head?)
    (h : signed n₁ l₁ = signed n₂ l₂) : n₁ = n₂ ∧ l₁ = l₂ := by
  cases n₁ <;> cases n₂
  case false.false => exact ⟨rfl, h⟩
  case false.true  => exact absurd ((show l₁ = '-' :: l₂ from h) ▸ rfl) h₁
  case true.false  => exact absurd ((show '-' :: l₁ = l₂ from h) ▸ rfl) h₂
  case true.true   => exact ⟨rfl, List.cons.inj h |>.right⟩

theorem not_mem_signed {negative : Bool} {text : List Char} {c : Char} (hc : c ≠ '-') (h : c ∉ text) :
    c ∉ signed negative text := by
  unfold signed
  split <;> simp [hc, h]

theorem toDigits_inj {m n : ℕ} (h : Nat.toDigits 10 m = Nat.toDigits 10 n) : m = n := by
  rw [← @Nat.ofDigitChars_ten_toDigits m, h, Nat.ofDigitChars_ten_toDigits]

theorem PieceKind.IsDigits.exists_cons {ds : List Char} (h : IsDigits ds) :
    ∃ c cs, ds = c :: cs ∧ c.isDigit := by
  have ⟨c, cs, hc⟩ := List.exists_cons_of_ne_nil h.left
  exact ⟨c, cs, hc, h.right c <| hc ▸ List.mem_cons_self⟩

theorem IsNumeral.exists_cons {text ds fs : List Char} (h : IsNumeral text ds fs) :
    ∃ c cs, text = c :: cs ∧ c.isDigit := by
  cases h
  case whole h      => exact h.exists_cons
  case fraction h _ =>
    have ⟨c, cs, hc, hd⟩ := h.exists_cons
    exact ⟨c, cs ++ '.' :: fs, hc ▸ rfl, hd⟩

theorem minus_not_mem_head?_cons {c : Char} {cs : List Char} (h : c.isDigit) :
    '-' ∉ (c :: cs).head? := by
  rintro ⟨⟩
  exact absurd h <| by decide

theorem toList_toString_int (p : ℤ) :
    (toString p).toList = signed (p < 0) (Nat.toDigits 10 p.natAbs) := by
  rw [Int.toString_eq_repr, Int.repr_eq_if]
  split
  case isTrue h =>
    have ht : p.toNat = p.natAbs := by omega
    simp [signed, ht, not_lt.mpr h]
  case isFalse h =>
    have ht : (-p).toNat = p.natAbs := by omega
    simp [signed, ht, not_le.mp h]

theorem toString_int_inj {p q : ℤ} (h : (toString p).toList = (toString q).toList) : p = q := by
  rw [toList_toString_int, toList_toString_int] at h
  have hd (n : ℕ) : '-' ∉ (Nat.toDigits 10 n).head? := by
    have ⟨c, cs, hc, hd⟩ := (Decimal.isDigits_toDigits n).exists_cons
    exact hc ▸ minus_not_mem_head?_cons hd
  have ⟨hs, ha⟩ := signed_inj (hd _) (hd _) h
  have hs := decide_eq_decide.mp hs
  have ha := toDigits_inj ha
  omega

namespace Decimal

variable {d d' : Decimal}

-- The value of the digits around the point is scaled by the exponent.
theorem exists_scientific_eq (d : Decimal) :
    ∃ text ds fs, IsNumeral text ds fs ∧
      d.scientific = text ++ 'e' :: (toString (d.point - 1)).toList ∧
      d.value = (read text).value * 10 ^ (d.point - 1) := by
  have ⟨c, cs, hc⟩ := List.exists_cons_of_ne_nil <| @Nat.toDigits_ne_nil d.coefficient 10
  have hd := isDigits_toDigits d.coefficient
  have hv : d.value = (ofDigits [c] cs).value * 10 ^ (d.point - 1) := by
    have hn : Nat.ofDigitChars 10 ([c] ++ cs) 0 = d.coefficient := by
      rw [List.singleton_append, ← hc, Nat.ofDigitChars_ten_toDigits]
    have hp : d.point - 1 = d.exponent + cs.length := by
      rw [point, hc, List.length_cons]
      omega
    rw [value_ofDigits, hn, hp, zpow_add₀ (by norm_num), zpow_natCast, value]
    field_simp
  cases cs
  case nil =>
    have hn : IsNumeral [c] [c] [] := .whole <| hc ▸ hd
    exact ⟨[c], [c], [], hn, by simp [scientific, hc], read_of_isNumeral hn ▸ hv⟩
  case cons f fs =>
    have hw : IsDigits [c] := ⟨by simp, fun _ h => hd.right _ <| by simp_all⟩
    have hf : IsDigits (f :: fs) := ⟨by simp, fun _ h => hd.right _ <| hc ▸ .tail _ h⟩
    have hn := IsNumeral.fraction hw hf
    exact ⟨_, _, _, hn, by simp [scientific, hc], read_of_isNumeral hn ▸ hv⟩

theorem value_eq_of_scientific_eq (h : d.scientific = d'.scientific) : d.value = d'.value := by
  have ⟨_, _, _, hn, ht, hv⟩ := d.exists_scientific_eq
  have ⟨_, _, _, hn', ht', hv'⟩ := d'.exists_scientific_eq
  have he {text ds fs} (hn : IsNumeral text ds fs) : 'e' ∉ text := hn.not_mem (by decide) (by decide)
  have ⟨hl, hr⟩ := append_cons_inj (he hn) (he hn') <| ht ▸ ht' ▸ h
  rw [hv, hv', hl, toString_int_inj hr]

theorem value_eq_of_positional_eq {places : ℕ} (h : d.positional places = d'.positional places) :
    d.value = d'.value := by
  rw [← value_read_positional places d, h, value_read_positional]

theorem positional_ne_scientific (places : ℕ) : d.positional places ≠ d'.scientific := by
  intro h
  have ⟨_, _, hn, _⟩ := d.exists_isNumeral_positional places
  have ⟨_, _, _, _, ht, _⟩ := d'.exists_scientific_eq
  have : 'e' ∉ d.positional places := hn.not_mem (by decide) (by decide)
  simp [h, ht] at this

end Decimal

namespace Double

variable {x y : Double}

namespace Layout

variable (l : Layout)

theorem exists_numeral_magnitude (x : Double) :
    ∃ text ds fs r, IsNumeral text ds fs ∧ l.magnitude x = text ++ r ∧ ')' ∉ r := by
  unfold magnitude
  dsimp only
  split
  case isTrue =>
    have ⟨ds, fs, hn, _⟩ := x.shortest.exists_isNumeral_positional l.places
    exact ⟨_, ds, fs, [], hn, (List.append_nil _).symm, List.not_mem_nil⟩
  case isFalse =>
    have ⟨text, ds, fs, hn, ht, _⟩ := x.shortest.exists_scientific_eq
    refine ⟨text, ds, fs, _, hn, ht, ?_⟩
    have hd := Decimal.isDigits_toDigits (x.shortest.point - 1).natAbs
    rw [toList_toString_int]
    refine List.not_mem_cons_of_ne_of_not_mem (by decide) <| not_mem_signed (by decide) ?_
    exact fun hm => absurd (hd.right _ hm) <| by decide

theorem value_eq_of_magnitude_eq (h : l.magnitude x = l.magnitude y) :
    x.shortest.value = y.shortest.value := by
  unfold magnitude at h
  dsimp only at h
  split at h <;> split at h
  case isTrue.isTrue   => exact Decimal.value_eq_of_positional_eq h
  case isTrue.isFalse  => exact absurd h <| Decimal.positional_ne_scientific _
  case isFalse.isTrue  => exact absurd h.symm <| Decimal.positional_ne_scientific _
  case isFalse.isFalse => exact Decimal.value_eq_of_scientific_eq h

theorem exists_magnitude_eq_cons (x : Double) : ∃ c cs, l.magnitude x = c :: cs ∧ c.isDigit := by
  have ⟨text, ds, fs, r, hn, ht, _⟩ := l.exists_numeral_magnitude x
  have ⟨c, cs, hc, hd⟩ := hn.exists_cons
  exact ⟨c, cs ++ r, by rw [ht, hc, List.cons_append], hd⟩

-- The text without the sign.
def body (x : Double) : List Char :=
  if x.isInfinite then ['i', 'n', 'f'] else l.magnitude x

theorem minus_not_mem_head?_body (x : Double) : '-' ∉ (l.body x).head? := by
  unfold body
  split
  case isTrue  => decide
  case isFalse =>
    have ⟨c, cs, hc, hd⟩ := l.exists_magnitude_eq_cons x
    exact hc ▸ minus_not_mem_head?_cons hd

theorem magnitude_eq_of_body_eq (hx : ¬x.isNaN) (hy : ¬y.isNaN) (h : l.body x = l.body y) :
    x.magnitude = y.magnitude := by
  have hi (z : Double) : l.magnitude z ≠ ['i', 'n', 'f'] := by
    have ⟨c, cs, hc, hd⟩ := l.exists_magnitude_eq_cons z
    rintro hz
    cases hc.symm.trans hz
    exact absurd hd <| by decide
  unfold body at h
  split at h <;> split at h
  case isTrue.isTrue hx hy     => rw [isInfinite_iff.mp hx, isInfinite_iff.mp hy]
  case isTrue.isFalse          => exact absurd h.symm <| hi y
  case isFalse.isTrue          => exact absurd h <| hi x
  case isFalse.isFalse hix hiy =>
    have ha := ofDecimal_congr <| l.value_eq_of_magnitude_eq h
    rw [ofDecimal_shortest <| isFinite_of_not_isNaN hx hix,
      ofDecimal_shortest <| isFinite_of_not_isNaN hy hiy] at ha
    rw [← magnitude_abs, ha, magnitude_abs]

theorem render_eq_signed (h : ¬x.isNaN) : l.render x = signed x.isNegative (l.body x) := by
  rw [render, if_neg h]
  rfl

theorem render_inj (hx : ¬x.isNaN) (hy : ¬y.isNaN) (h : l.render x = l.render y) : x = y := by
  rw [l.render_eq_signed hx, l.render_eq_signed hy] at h
  have ⟨hs, hb⟩ := signed_inj (l.minus_not_mem_head?_body x) (l.minus_not_mem_head?_body y) h
  exact eq_of_magnitude_eq hs <| l.magnitude_eq_of_body_eq hx hy hb

theorem paren_not_mem_render (x : Double) : ')' ∉ l.render x := by
  have ⟨text, ds, fs, r, hn, ht, hr⟩ := l.exists_numeral_magnitude x
  have hm : ')' ∉ l.magnitude x := by
    rw [ht, List.mem_append]
    exact not_or.mpr ⟨hn.not_mem (by decide) (by decide), hr⟩
  by_cases hx : x.isNaN
  case pos => simp [render, hx]
  case neg =>
    rw [l.render_eq_signed hx]
    refine not_mem_signed (by decide) ?_
    unfold body
    split
    case isTrue  => decide
    case isFalse => exact hm

end Layout

theorem inspect_inj (hx : ¬x.isNaN) (hy : ¬y.isNaN) (h : x.inspect = y.inspect) : x = y :=
  Layout.render_inj _ hx hy <| String.ofList_injective h

end Double

end LoxTokens
