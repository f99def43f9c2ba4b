import LoxTokens.Proofs.Double.ReadBack
import LoxTokens.Proofs.Scan.Events

/-!
Scanning the text of a number. The sign is a token of its own, and all the rest is one number whose
literal has the bits of the number that was shown, but for the sign.
-/

namespace LoxTokens

open PieceKind Piece TokenType

variable {text ds fs : List Char}

theorem cut_of_isNumeral (h : IsNumeral text ds fs) : cut text = [⟨.lexeme .number, text⟩] := by
  have hl : Leads ⟨.lexeme .number, text⟩ [] :=
    ⟨.allowed <| allows_number_iff.mpr ⟨ds, fs, h⟩, stops_nil _⟩
  simpa [cut] using cut_append hl

theorem cut_minus (cs : List Char) : cut ('-' :: cs) = ⟨.lexeme .minus, ['-']⟩ :: cut cs :=
  cut_append <| punctuator_leads rfl

namespace Scan

variable {x : Double}

theorem eventsOf_text (hx : x.isFinite) :
    eventsOf x.text =
      (if x.isNegative then [.token ⟨.minus, "-", none, 1⟩] else []) ++
      [.token ⟨.number, String.ofList <| x.shortest.positional 0, some <| .number x.abs, 1⟩] := by
  have ⟨ds, fs, h, _⟩ := x.shortest.exists_isNumeral_positional 0
  rw [eventsOf, Double.toList_text hx]
  split
  case isTrue =>
    rw [List.singleton_append, cut_minus, cut_of_isNumeral h]
    simp [events, event?, literal?, Double.ofDecimal_read_positional hx, lineAfter]
  case isFalse =>
    rw [List.nil_append, cut_of_isNumeral h]
    simp [events, event?, literal?, Double.ofDecimal_read_positional hx]

theorem lineAfter_text (hx : x.isFinite) : lineAfter 1 x.text.toList = 1 := by
  have ⟨ds, fs, h, _⟩ := x.shortest.exists_isNumeral_positional 0
  have hn : '\n' ∉ x.text.toList := by
    rw [Double.toList_text hx]
    split <;> simp [h.not_mem]
  exact lineAfter_of_not_mem 1 hn

end Scan

theorem scan_text_of_isFinite (x : Double) (hx : x.isFinite) :
    let source := (Literal.number x).text
    ∃ digits, source = (if x.isNegative then "-" else "") ++ digits ∧
      (scan source).diagnostics.toList = [] ∧
      (scan source).tokens =
        (if x.isNegative then [⟨.minus, "-", none, 1⟩] else []) ++
        [⟨.number, digits, some <| .number x.abs, 1⟩, .eof 1] ∧
      x.abs.bits.toNat = x.bits.toNat % 2 ^ 63 := by
  intro source
  have he : Scan.eventsOf source = _ := Scan.eventsOf_text hx
  refine ⟨String.ofList <| x.shortest.positional 0, ?text, ?reports, ?tokens, ?bits⟩
  case text =>
    rw [← String.toList_inj, String.toList_append, String.toList_ofList]
    refine Double.toList_text hx |>.trans ?_
    split <;> rfl
  case reports =>
    rw [toList_scan_diagnostics, Scan.errorsOf, he]
    split <;> rfl
  case tokens =>
    have hl : Scan.lineAfter 1 source.toList = 1 := Scan.lineAfter_text hx
    rw [scan_tokens, hl, Scan.tokensOf, he]
    split <;> rfl
  case bits => exact UInt64.toNat_ofNat_of_lt' <| Nat.lt_trans x.magnitude_lt (by decide)

-- The negative zero.
theorem scan_text_of_isFinite_zero :
    ∃ digits, "-0" = "-" ++ digits ∧
      (scan "-0").diagnostics.toList = [] ∧
      (scan "-0").tokens =
        [⟨.minus, "-", none, 1⟩, ⟨.number, digits, some <| .number ⟨0⟩, 1⟩, .eof 1] := by
  have ht : (Literal.number ⟨0x8000000000000000⟩).text = "-0" := by decide +kernel
  have ⟨digits, hs, hd, hts, _⟩ := scan_text_of_isFinite ⟨0x8000000000000000⟩ (by decide)
  rw [ht] at hs hd hts
  exact ⟨digits, hs, hd, hts⟩

end LoxTokens
