import LoxTokens.Proofs.Piece.Read

/-!
Gaps between pieces. Blanks and line feeds end every lexeme, and a line feed ends everything but
a string.
-/

namespace LoxTokens.Piece

open PieceKind TokenType

variable {c : Char} {cs rest : List Char} {p : Piece}

def isGap (c : Char) : Bool :=
  c ∈ [' ', '\t', '\r', '\n']

theorem stops_gap {type : TokenType} (h : p.kind = .lexeme type) (hc : isGap c) :
    p.Stops (c :: rest) := by
  have : c ≠ '/' ∧ c ≠ '=' ∧ c ≠ '.' ∧ ¬c.isDigit ∧ ¬isWordRest c := by
    simp only [isGap, List.mem_cons, List.not_mem_nil, or_false, decide_eq_true_eq] at hc
    rcases hc with rfl | rfl | rfl | rfl <;> decide
  unfold Stops
  split <;> simp_all

theorem Stops.append_lineFeed (h : p.Stops rest) (ho : p.kind ≠ .openString) :
    p.Stops (rest ++ '\n' :: cs) := by
  have : ¬isWordRest '\n' := by decide
  unfold Stops at h ⊢
  rcases rest with _ | ⟨c, _ | ⟨d, ds⟩⟩
  all_goals split at h <;> simp_all

def gap (c : Char) : Piece where
  kind := if c = '\n' then .lineFeed else .blank
  text := [c]

theorem gap_leads (h : isGap c) (rest : List Char) : (gap c).Leads rest := by
  simp only [isGap, List.mem_cons, List.not_mem_nil, or_false, decide_eq_true_eq] at h
  rcases h with rfl | rfl | rfl | rfl
  case inr.inr.inr => exact ⟨.allowed .lineFeed, trivial⟩
  all_goals exact ⟨.allowed <| .blank <| by simp, trivial⟩

theorem flatMap_text_gaps (gs : List Char) : (gs.map gap).flatMap text = gs := by
  simp [List.flatMap_map, gap]

theorem cut_gaps_append {gs : List Char} (h : ∀ c ∈ gs, isGap c) (cs : List Char) :
    cut (gs ++ cs) = gs.map gap ++ cut cs := by
  induction gs
  case nil => rfl
  case cons c gs hi =>
    have ⟨hc, hgs⟩ := List.forall_mem_cons.mp h
    have := cut_append <| gap_leads hc (gs ++ cs)
    simp_all [gap]

theorem cut_append_lineFeed (h : ∀ p ∈ cut cs, p.kind ≠ .openString) (ds : List Char) :
    cut (cs ++ '\n' :: ds) = cut cs ++ ⟨.lineFeed, ['\n']⟩ :: cut ds := by
  induction cs using cut_induction
  case nil =>
    have hl : Leads ⟨.lineFeed, ['\n']⟩ ds := ⟨.allowed .lineFeed, trivial⟩
    simpa [cut] using cut_append hl
  case cons p rest hl hi =>
    rw [cut_append hl] at h ⊢
    obtain ⟨hp, hps⟩ := List.forall_mem_cons.mp h
    have hl : p.Leads (rest ++ '\n' :: ds) := ⟨hl.shape, hl.stops.append_lineFeed hp⟩
    rw [List.append_assoc, cut_append hl, hi hps, List.cons_append]

end LoxTokens.Piece
