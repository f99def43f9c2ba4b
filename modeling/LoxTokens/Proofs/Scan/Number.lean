import LoxTokens.Proofs.Decimal.Numeral
import LoxTokens.Proofs.Double.Nearest
import LoxTokens.Proofs.Scan.Spelling

/-!
The numbers of a source. However many digits a number has, its literal is the one that is nearest to
the exact value of all of them. No scan fails on a number.
-/

namespace LoxTokens

open PieceKind Piece

theorem Double.nearest_read {text ds fs : List Char} (h : IsNumeral text ds fs) :
    Nearest (Nat.ofDigitChars 10 (ds ++ fs) 0 / 10 ^ fs.length) (ofDecimal <| Decimal.read text) := by
  have ⟨m, hm, he⟩ := exists_rounds_ofDecimal (Decimal.read text)
  rw [← Decimal.value_ofDigits, ← Decimal.read_of_isNumeral h, he]
  exact hm.nearest

-- Halfway between two numbers, of which the upper one has the even significand.
example : Double.ofDecimal (.read "9007199254740995".toList) = ⟨0x4340000000000002⟩ := by
  decide +kernel

-- Less than half of the least number is zero, and a little more than half is not.
example :
    let half := "0.".toList ++ List.replicate 323 '0' ++ "24703282292062327208".toList
    Double.ofDecimal (.read half) = ⟨0⟩ ∧ Double.ofDecimal (.read <| half.dropLast ++ ['9']) = ⟨1⟩ := by
  decide +kernel

namespace Scan

theorem ne_internalError_of_mem_errorsOf {source : String} {e : LexicalError}
    (h : e ∈ errorsOf source) (message : String) (line : UInt32) :
    e ≠ .internalError message line := by
  have ⟨ev, hev, he⟩ := List.mem_filterMap.mp h
  have ⟨p, _, line, hp⟩ := exists_piece_of_mem_events hev
  unfold event? at hp
  split at hp <;> cases hp <;> cases he
  all_goals nofun

end Scan

theorem stands_of_mem_scan_tokens {source : String} {t : Token} (h : t ∈ (scan source).tokens)
    (ht : t.type ≠ .eof) : Stands t.lexeme.toList t := by
  rw [scan_tokens] at h
  cases List.mem_append.mp h
  case inl h => exact Scan.stands_of_mem_tokensOf h
  case inr h => exact absurd (List.mem_singleton.mp h ▸ rfl) ht

open Double in
theorem scan_numbers_nearest (source : String) :
    (∀ t ∈ (scan source).tokens, t.type = .number →
      ∃ ds fs x, IsNumeral t.lexeme.toList ds fs ∧ t.literal = some (.number x) ∧
        let v : ℚ := Nat.ofDigitChars 10 (ds ++ fs) 0 / 10 ^ fs.length
        Nearest v x ∧ ∀ y, Nearest v y → y = x) ∧
    (scan source).diagnostics.toList = (Scan.errorsOf source).map LexicalError.diagnostic ∧
    ∀ e ∈ Scan.errorsOf source, ∀ message line, e ≠ .internalError message line := by
  refine ⟨fun t h ht => ?number, toList_scan_diagnostics source,
    fun _ => Scan.ne_internalError_of_mem_errorsOf⟩
  have hs := stands_of_mem_scan_tokens h (by rw [ht]; nofun)
  have ⟨ds, fs, hn⟩ := allows_number_iff.mp (ht ▸ hs.allows)
  have hx := nearest_read hn
  refine ⟨ds, fs, _, hn, ?_, hx, fun _ hy => hy.unique hx⟩
  rw [hs.literal, ht]
  rfl

theorem scan_numbers_nearest_halfway :
    ∃ t ∈ (scan "9007199254740995").tokens, t.type = .number ∧
      ∃ x, t.literal = some (.number x) ∧ Double.Nearest 9007199254740995 x := by
  have ha : Allows (.lexeme .number) "9007199254740995".toList := .whole (by decide)
  have ⟨t, line, ht, hs⟩ := scan_lexeme ⟨_, ha⟩
  rw [String.ofList_toList] at ht
  have hm : t ∈ (scan "9007199254740995").tokens := by simp [ht]
  have htype : t.type = .number := PieceKind.lexeme.inj <| eq_of_allows hs.allows ha
  have ⟨ds, fs, x, hn, hx, hv, _⟩ := scan_numbers_nearest "9007199254740995" |>.left t hm htype
  refine ⟨t, hm, htype, x, hx, ?_⟩
  rw [hs.lexeme, String.toList_ofList] at hn
  generalize hl : "9007199254740995".toList = text at hn
  have hp : '.' ∉ text := hl ▸ by decide
  cases hn
  case whole    =>
    have : Nat.ofDigitChars 10 ("9007199254740995".toList ++ []) 0 = 9007199254740995 := by decide
    rw [← hl, this] at hv
    simpa using hv
  case fraction => simp at hp

end LoxTokens
