import LoxTokens.Proofs.Piece.LongestMatch
import LoxTokens.Proofs.Scan.Events

/-!
What a scan yields, told by the longest match alone: each lexeme of the cut makes a token and each
mistake a report, in the order of the source. Nothing else is made but the final token.
-/

namespace LoxTokens

open PieceKind TokenType

-- The value of a text of the given type. The quotes of a string are not part of it.
inductive Literal.Of (text : List Char) : TokenType → Option Literal → Prop
  | string : text = '"' :: cs ++ ['"'] → Of text .string (some <| .string <| String.ofList cs)
  | number : Of text .number (some <| .number <| Double.ofDecimal <| Decimal.read text)
  | none   : type ≠ .string → type ≠ .number → Of text type none

namespace Piece

-- The token that a piece makes, on whatever line.
structure Denotes (p : Piece) (t : Token) : Prop where
  type    : p.kind = .lexeme t.type
  lexeme  : t.lexeme = String.ofList p.text
  literal : Literal.Of p.text t.type t.literal
  keyword : IsWord p.text → (t.type.isKeyword ↔ t.lexeme ∈ keywords.map Prod.fst)

-- The report that a piece makes, on whatever line.
inductive Misses : PieceKind → Diagnostic → Prop
  | openString : Misses .openString ⟨line, "", "Unterminated string."⟩
  | stray      :
    Misses (.stray c)
      ⟨line, "at '" ++ String.ofList (Text.escapeChar c) ++ "'", "Unexpected character."⟩

-- The tokens and the reports that pieces make, in their order.
inductive Yields : List Piece → List Token → List Diagnostic → Prop
  | nil    : Yields [] [] []
  | lexeme : Denotes p t → Yields ps ts ds → Yields (p :: ps) (t :: ts) ds
  | miss   : Misses p.kind d → Yields ps ts ds → Yields (p :: ps) ts (d :: ds)
  | skip   : p.kind ∈ [.blank, .lineFeed, .comment] → Yields ps ts ds → Yields (p :: ps) ts ds

theorem exists_of_allows_string {text : List Char} (h : Allows (.lexeme .string) text) :
    ∃ cs, text = '"' :: cs ++ ['"'] ∧ '"' ∉ cs := by
  generalize hk : PieceKind.lexeme .string = kind at h
  cases h
  case string cs h => exact ⟨cs, rfl, h⟩
  case symbol h    => cases hk; simp [symbols] at h
  case word h      =>
    cases hk
    cases h
    case reserved h => simp [keywords] at h
  all_goals cases hk

theorem WellShaped.literal_of {p : Piece} {type : TokenType} (h : p.WellShaped)
    (hk : p.kind = .lexeme type) : Literal.Of p.text type p.literal? := by
  cases h
  case stray => cases hk
  case allowed h =>
    rw [hk] at h
    by_cases hs : type = .string
    case pos =>
      subst hs
      have ⟨cs, ht, _⟩ := exists_of_allows_string h
      simpa [literal?, hk, ht] using Literal.Of.string ht
    by_cases hn : type = .number
    case pos =>
      subst hn
      simpa [literal?, hk] using Literal.Of.number
    case neg =>
      have : p.literal? = none := by
        unfold literal?
        split <;> simp_all
      exact this ▸ .none hs hn

theorem ofWord_of_allows {text : List Char} {type : TokenType} (h : Allows (.lexeme type) text)
    (hw : IsWord text) : OfWord text type := by
  have ho : OfWord text _ := ofWord_iff.mpr rfl
  cases eq_of_allows h <| .word hw ho
  exact ho

theorem WellShaped.denotes {p : Piece} {type : TokenType} (h : p.WellShaped)
    (hk : p.kind = .lexeme type) (line : UInt32) :
    p.Denotes ⟨type, String.ofList p.text, p.literal?, line⟩ where
  type    := hk
  lexeme  := rfl
  literal := h.literal_of hk
  keyword := by
    cases h
    case allowed h => exact fun hw => isKeyword_iff_of_ofWord <| ofWord_of_allows (hk ▸ h) hw
    case stray     => cases hk

theorem yields_events (line : UInt32) {ps : List Piece} (h : ∀ p ∈ ps, p.WellShaped) :
    Yields ps ((Scan.events line ps).filterMap ScanEvent.token?)
      (((Scan.events line ps).filterMap ScanEvent.error?).map LexicalError.diagnostic) := by
  induction ps generalizing line
  case nil => exact .nil
  case cons p ps hi =>
    have ⟨hp, hps⟩ := List.forall_mem_cons.mp h
    have hi := hi (Scan.lineAfter line p.text) hps
    cases hk : p.kind <;> simp [Scan.events, event?, hk]
    case lexeme     => exact .lexeme (hp.denotes hk line) hi
    case openString => exact .miss (hk ▸ .openString) hi
    case stray      => exact .miss (hk ▸ .stray) hi
    all_goals exact .skip (by simp [hk]) hi

end Piece

open Piece in
theorem scan_yields_longestCut (source : String) :
    ∃ ps, LongestCut source.toList ps ∧ (∀ qs, LongestCut source.toList qs → qs = ps) ∧
      ps.flatMap text = source.toList ∧ (∀ p ∈ ps, p.text ≠ []) ∧
      ∃ ts line, (scan source).tokens = ts ++ [.eof line] ∧
        Yields ps ts (scan source).diagnostics.toList := by
  have h := longestCut_cut source.toList
  refine ⟨_, h, fun _ => LongestCut.eq_cut, h.flatMap_text, h.text_ne_nil, ?_⟩
  refine ⟨Scan.tokensOf source, _, scan_tokens source, ?_⟩
  rw [toList_scan_diagnostics]
  exact yields_events 1 fun _ => wellShaped_of_mem_cut

end LoxTokens
