import LoxTokens.Proofs.Piece.Gap
import LoxTokens.Proofs.Piece.LongestMatch
import LoxTokens.Proofs.Scan.Events
import Mathlib.Data.List.Forall2

/-!
Spelling lexemes and scanning them again. However lexemes are set apart by gaps, the scan finds
them, and each of them makes the token that it makes alone.
-/

namespace LoxTokens

open PieceKind TokenType

-- A token without the line that it is on.
def Token.content (t : Token) : TokenType × String × Option Literal :=
  (t.type, t.lexeme, t.literal)

namespace Piece

def IsLexeme (text : List Char) : Prop :=
  ∃ type, Allows (.lexeme type) text

def IsGap (text : List Char) : Prop :=
  ∀ c ∈ text, isGap c

instance : DecidablePred IsGap :=
  List.decidableBAll (isGap ·)

-- The texts in which the lexemes come in their order, each with a gap after it. Only the last gap
-- may be empty.
inductive Spells : List (List Char) → List Char → Prop
  | nil  : Spells [] []
  | cons : IsLexeme l → IsGap g → (ls ≠ [] → g ≠ []) → Spells ls cs →
           Spells (l :: ls) (l ++ g ++ cs)

-- A gap ends every lexeme, and without one there is nothing left.
theorem Spells.leads {l g cs : List Char} {ls : List (List Char)} {type : TokenType}
    (h : Spells ls cs) (hl : Allows (.lexeme type) l) (hg : IsGap g) (hs : ls ≠ [] → g ≠ []) :
    Leads ⟨.lexeme type, l⟩ (g ++ cs) := by
  refine ⟨.allowed hl, ?_⟩
  cases g
  case cons c g => exact stops_gap rfl <| hg c List.mem_cons_self
  case nil =>
    cases h
    case nil  => exact stops_nil _
    case cons => simp at hs

theorem spells_intercalate {ls : List (List Char)} (h : ∀ l ∈ ls, IsLexeme l) :
    Spells ls <| [' '].intercalate ls := by
  induction ls
  case nil => exact .nil
  case cons l ls hi =>
    have ⟨hl, hls⟩ := List.forall_mem_cons.mp h
    cases ls
    case nil =>
      have := Spells.cons (g := []) hl (by decide) (by simp) .nil
      simpa using this
    case cons m ls =>
      rw [List.intercalate_cons_cons]
      exact .cons hl (by decide) (by simp) <| hi hls

-- The token that a lexeme makes wherever it stands.
structure Stands (l : List Char) (t : Token) : Prop where
  allows  : Allows (.lexeme t.type) l
  lexeme  : t.lexeme = String.ofList l
  literal : t.literal = literal? ⟨.lexeme t.type, l⟩

theorem Stands.content_eq {l : List Char} {t₁ t₂ : Token} (h₁ : Stands l t₁) (h₂ : Stands l t₂) :
    t₁.content = t₂.content := by
  have ht := eq_of_allows h₁.allows h₂.allows
  have ⟨_, hl₁, hv₁⟩ := h₁
  have ⟨_, hl₂, hv₂⟩ := h₂
  simp_all [Token.content]

end Piece

open Piece

theorem ne_eof_of_allows {text : List Char} {type : TokenType} (h : Allows (.lexeme type) text) :
    type ≠ eof := by
  generalize hk : PieceKind.lexeme type = kind at h
  cases h
  case symbol h =>
    have : ∀ e ∈ symbols, e.2 ≠ eof := by decide
    cases hk
    exact this _ h
  case word h =>
    have : ∀ e ∈ keywords, e.2 ≠ eof := by decide
    cases hk
    cases h
    case reserved h => exact this _ h
    case identifier => nofun
  all_goals cases hk <;> nofun

namespace Scan

variable {ls : List (List Char)} {cs : List Char} (line : UInt32)

theorem events_gaps (gs : List Char) : events line (gs.map gap) = [] := by
  induction gs generalizing line
  case nil => rfl
  case cons c gs hi =>
    have : (gap c).event? line = none := by
      unfold gap event?
      split <;> split at * <;> simp_all
    simp [events, this, hi]

theorem events_of_spells (h : Spells ls cs) :
    (events line <| cut cs).filterMap ScanEvent.error? = [] ∧
    List.Forall₂ Stands ls ((events line <| cut cs).filterMap ScanEvent.token?) := by
  induction h generalizing line
  case nil => simp [cut, events]
  case cons l g ls cs hl hg hs h hi =>
    obtain ⟨type, ha⟩ := hl
    have hc := cut_append <| h.leads ha hg hs
    obtain ⟨he, ht⟩ := hi <| lineAfter (lineAfter line l) g
    rw [List.append_assoc, hc, cut_gaps_append hg, events, events_append, events_gaps,
      flatMap_text_gaps]
    simp only [event?, Option.toList_some, List.nil_append, List.cons_append]
    exact ⟨he, .cons ⟨ha, rfl, rfl⟩ ht⟩

theorem stands_of_mem_tokensOf {source : String} {t : Token} (h : t ∈ tokensOf source) :
    Stands t.lexeme.toList t := by
  have ⟨e, he, het⟩ := List.mem_filterMap.mp h
  have ⟨⟨kind, text⟩, hp, line, hep⟩ := exists_piece_of_mem_events he
  have hw := wellShaped_of_mem_cut hp
  cases e <;> cases het
  unfold event? at hep
  split at hep <;> cases hep
  case h_1 hk =>
    cases hk
    cases hw
    case allowed h => exact ⟨String.toList_ofList ▸ h, String.ofList_toList.symm, by simp⟩

theorem type_ne_eof_of_mem_tokensOf {source : String} {t : Token} (h : t ∈ tokensOf source) :
    t.type ≠ eof :=
  ne_eof_of_allows (stands_of_mem_tokensOf h).allows

end Scan

theorem literal_of_mem_scan_tokens {source : String} {t : Token} (h : t ∈ (scan source).tokens) :
    t.literal = literal? ⟨.lexeme t.type, t.lexeme.toList⟩ := by
  rw [scan_tokens] at h
  cases List.mem_append.mp h
  case inl h => exact Scan.stands_of_mem_tokensOf h |>.literal
  case inr h => cases List.mem_singleton.mp h; rfl

theorem scan_spells {lead body : List Char} {ls : List (List Char)} (hl : IsGap lead)
    (h : Spells ls body) :
    let spelled := scan <| String.ofList <| lead ++ body
    spelled.diagnostics.toList = [] ∧
    ∃ ts line, spelled.tokens = ts ++ [.eof line] ∧ List.Forall₂ Stands ls ts := by
  intro spelled
  let source := String.ofList <| lead ++ body
  have he : Scan.eventsOf source = Scan.events (Scan.lineAfter 1 lead) (cut body) := by
    rw [Scan.eventsOf, String.toList_ofList, cut_gaps_append hl, Scan.events_append,
      Scan.events_gaps, flatMap_text_gaps, List.nil_append]
  obtain ⟨hn, ht⟩ := Scan.events_of_spells (Scan.lineAfter 1 lead) h
  rw [← he] at hn ht
  refine ⟨?_, _, _, scan_tokens source, ht⟩
  rw [toList_scan_diagnostics, Scan.errorsOf, hn]
  rfl

theorem scan_lexeme {l : List Char} (h : IsLexeme l) :
    ∃ t line, (scan <| String.ofList l).tokens = [t, .eof line] ∧ Stands l t := by
  have hs : Spells [l] l := by
    simpa using spells_intercalate <| List.forall_mem_singleton.mpr h
  have ⟨_, ts, line, ht, hf⟩ := scan_spells (List.forall_mem_nil _) hs
  cases hf
  case cons t _ hf hn =>
    cases hn
    exact ⟨t, line, ht, hf⟩

theorem map_content_eq {ls : List (List Char)} {ts₁ ts₂ : List Token}
    (h₁ : List.Forall₂ Stands ls ts₁) (h₂ : List.Forall₂ Stands ls ts₂) :
    ts₁.map Token.content = ts₂.map Token.content := by
  induction h₁ generalizing ts₂
  case nil => cases h₂; rfl
  case cons h₁ _ hi =>
    cases h₂
    case cons h₂ hs => simp [h₁.content_eq h₂, hi hs]

theorem scan_intercalate_lexemes (source : String) :
    let again := scan <| " ".intercalate <| (scan source).tokens.dropLast.map Token.lexeme
    again.diagnostics.toList = [] ∧
    again.tokens.map Token.content = (scan source).tokens.map Token.content := by
  let ts := Scan.tokensOf source
  let ls := ts.map (·.lexeme.toList)
  have hs : ∀ t ∈ ts, Stands t.lexeme.toList t := fun _ => Scan.stands_of_mem_tokensOf
  have hl : ∀ l ∈ ls, IsLexeme l := by
    intro l hl
    have ⟨t, ht, he⟩ := List.mem_map.mp hl
    exact he ▸ ⟨_, (hs t ht).allows⟩
  have hj : " ".intercalate ((scan source).tokens.dropLast.map Token.lexeme) =
      String.ofList ([] ++ [' '].intercalate ls) := by
    rw [← String.toList_inj]
    simp [scan_tokens, ls, ts]
    rfl
  have hf : List.Forall₂ Stands ls ts := by
    simp [ls, List.forall₂_map_left_iff, List.forall₂_same]
    exact hs
  have ⟨hd, ts', line, ht, hf'⟩ := scan_spells (List.forall_mem_nil _) <| spells_intercalate hl
  rw [hj]
  refine ⟨hd, ?_⟩
  rw [ht, scan_tokens, List.map_append, List.map_append, map_content_eq hf' hf]
  rfl

theorem scan_of_spells :
    (∀ lead body ls, IsGap lead → Spells ls body →
      let spelled := scan <| String.ofList <| lead ++ body
      spelled.diagnostics.toList = [] ∧
      ∃ ts line, spelled.tokens = ts ++ [.eof line] ∧
        List.Forall₂ (fun l t =>
          t.lexeme = String.ofList l ∧
          ∃ alone line, (scan <| String.ofList l).tokens = [alone, .eof line] ∧
            t.type = alone.type ∧ t.literal = alone.literal) ls ts) ∧
    (∀ source,
      let again := scan <| " ".intercalate <| (scan source).tokens.dropLast.map Token.lexeme
      again.diagnostics.toList = [] ∧
      again.tokens.map Token.content = (scan source).tokens.map Token.content) := by
  refine ⟨fun lead body ls hl hs => ?spelled, scan_intercalate_lexemes⟩
  have ⟨hd, ts, line, ht, hf⟩ := scan_spells hl hs
  refine ⟨hd, ts, line, ht, hf.imp fun l t h => ⟨h.lexeme, ?_⟩⟩
  have ⟨alone, line, ha, h'⟩ := scan_lexeme ⟨_, h.allows⟩
  have hc := h.content_eq h'
  simp only [Token.content, Prod.mk.injEq] at hc
  exact ⟨alone, line, ha, hc.1, hc.2.2⟩

-- A slash before a slash, a number before a point, and a string with a line feed in it.
theorem spells_slashes :
    Spells [['/'], ['/'], ['3'], ['.'], ['"', '\n', '"'], ['o', 'r']]
      ['/', ' ', '/', '\t', '3', '\n', '.', '\r', '"', '\n', '"', ' ', 'o', 'r'] := by
  have slash  : IsLexeme ['/'] := ⟨.slash, .symbol <| by decide⟩
  have number : IsLexeme ['3'] := ⟨.number, .whole <| by decide⟩
  have dot    : IsLexeme ['.'] := ⟨.dot, .symbol <| by decide⟩
  have string : IsLexeme ('"' :: ['\n'] ++ ['"']) := ⟨.string, .string <| by decide⟩
  have word   : IsLexeme ['o', 'r'] := ⟨.kwOr, .word (by decide) <| .reserved <| by decide⟩
  have h₁ : Spells [['o', 'r']] ['o', 'r'] := .cons (g := []) word (by decide) (by simp) .nil
  have h₂ := Spells.cons (g := [' ']) string (by decide) (by simp) h₁
  have h₃ := Spells.cons (g := ['\r']) dot (by decide) (by simp) h₂
  have h₄ := Spells.cons (g := ['\n']) number (by decide) (by simp) h₃
  have h₅ := Spells.cons (g := ['\t']) slash (by decide) (by simp) h₄
  exact .cons (g := [' ']) slash (by decide) (by simp) h₅

theorem scan_of_spells_slashes :
    let spelled := scan "\n/ /\t3\n.\r\"\n\" or"
    spelled.diagnostics.toList = [] ∧
    ∃ ts line, spelled.tokens = ts ++ [.eof line] ∧
      List.Forall₂ (fun l t => t.lexeme = String.ofList l)
        [['/'], ['/'], ['3'], ['.'], ['"', '\n', '"'], ['o', 'r']] ts := by
  have ⟨hd, ts, line, ht, hf⟩ := scan_of_spells.left ['\n'] _ _ (by decide) spells_slashes
  exact ⟨hd, ts, line, ht, hf.imp fun _ _ h => h.left⟩

end LoxTokens
