import LoxTokens.Proofs.Piece.Gap
import LoxTokens.Proofs.Scan.Events

/-!
Scanning across a line break. The scan of two texts with a line feed between them consists of the
scans of both, the second one moved down, unless a string is open at the break.
-/

namespace LoxTokens

-- Moving down by a number of lines.

def Token.below (n : Nat) (t : Token) : Token :=
  { t with line := t.line + UInt32.ofNat n }

def Diagnostic.below (n : Nat) (d : Diagnostic) : Diagnostic :=
  { d with line := d.line + UInt32.ofNat n }

def LexicalError.below (n : Nat) : LexicalError → LexicalError
  | unexpectedCharacter line c => unexpectedCharacter (line + UInt32.ofNat n) c
  | unterminatedString line    => unterminatedString (line + UInt32.ofNat n)
  | internalError msg line     => internalError msg (line + UInt32.ofNat n)

theorem LexicalError.diagnostic_below (n : Nat) (e : LexicalError) :
    (e.below n).diagnostic = e.diagnostic.below n := by
  cases e <;> rfl

namespace ScanEvent

def below (n : Nat) : ScanEvent → ScanEvent
  | token t => token (t.below n)
  | error e => error (e.below n)

theorem token?_below (n : Nat) (e : ScanEvent) : (e.below n).token? = e.token?.map (.below n) := by
  cases e <;> rfl

theorem error?_below (n : Nat) (e : ScanEvent) : (e.below n).error? = e.error?.map (.below n) := by
  cases e <;> rfl

end ScanEvent

theorem Piece.event?_below (p : Piece) (line : UInt32) (n : Nat) :
    p.event? (line + UInt32.ofNat n) = (p.event? line).map (ScanEvent.below n) := by
  unfold event?
  split
  case h_2 =>
    simp [ScanEvent.below, LexicalError.below, UInt32.add_assoc]
    rw [UInt32.add_comm]
  all_goals rfl

namespace Scan

theorem lineAfter_below (line : UInt32) (n : Nat) (text : List Char) :
    lineAfter (line + UInt32.ofNat n) text = lineAfter line text + UInt32.ofNat n := by
  simp only [lineAfter, UInt32.add_assoc]
  rw [UInt32.add_comm (UInt32.ofNat n)]

theorem events_below (line : UInt32) (n : Nat) (ps : List Piece) :
    events (line + UInt32.ofNat n) ps = (events line ps).map (ScanEvent.below n) := by
  induction ps generalizing line
  case nil => rfl
  case cons p ps hi =>
    rw [events, events, Piece.event?_below, lineAfter_below, hi]
    cases p.event? line <;> simp

theorem events_tokens_below (line : UInt32) (n : Nat) (ps : List Piece) :
    (events (line + UInt32.ofNat n) ps).filterMap ScanEvent.token? =
      ((events line ps).filterMap ScanEvent.token?).map (Token.below n) := by
  rw [events_below, List.filterMap_map, List.map_filterMap]
  exact congrArg (List.filterMap · _) <| funext <| ScanEvent.token?_below n

theorem events_errors_below (line : UInt32) (n : Nat) (ps : List Piece) :
    (events (line + UInt32.ofNat n) ps).filterMap ScanEvent.error? =
      ((events line ps).filterMap ScanEvent.error?).map (LexicalError.below n) := by
  rw [events_below, List.filterMap_map, List.map_filterMap]
  exact congrArg (List.filterMap · _) <| funext <| ScanEvent.error?_below n

end Scan

theorem cut_kind_ne_openString {source : String}
    (h : ∀ d ∈ (scan source).diagnostics.toList, d.message ≠ "Unterminated string.") :
    ∀ p ∈ Piece.cut source.toList, p.kind ≠ .openString := by
  intro p hp hk
  have ⟨line, he⟩ := Scan.exists_events_of_mem 1 hp
  let e := LexicalError.unterminatedString (line + p.lineFeeds)
  have he := he (.error e) <| by simp [Piece.event?, hk, e]
  have hd : e.diagnostic ∈ (scan source).diagnostics.toList := by
    rw [toList_scan_diagnostics]
    exact List.mem_map_of_mem <| List.mem_filterMap.mpr ⟨_, he, rfl⟩
  exact h _ hd rfl

section

variable {a : String} (b : String)

theorem eventsOf_append_lineFeed
    (ha : ∀ d ∈ (scan a).diagnostics.toList, d.message ≠ "Unterminated string.") :
    Scan.eventsOf (a ++ "\n" ++ b) =
      Scan.eventsOf a ++
        Scan.events (1 + UInt32.ofNat (a.toList.count '\n' + 1)) (Piece.cut b.toList) := by
  have hc := Piece.cut_append_lineFeed (cut_kind_ne_openString ha) b.toList
  have hl : Scan.lineAfter (Scan.lineAfter 1 a.toList) ['\n'] =
      1 + UInt32.ofNat (a.toList.count '\n' + 1) := by
    rw [← Scan.lineAfter_append]
    simp [Scan.lineAfter]
  have hs : (a ++ "\n" ++ b).toList = a.toList ++ '\n' :: b.toList := by simp
  rw [Scan.eventsOf, hs, hc, Scan.events_append, Piece.flatMap_text_cut, Scan.events, hl]
  rfl

theorem scan_tokens_append_lineFeed
    (ha : ∀ d ∈ (scan a).diagnostics.toList, d.message ≠ "Unterminated string.") :
    (scan <| a ++ "\n" ++ b).tokens =
      Scan.tokensOf a ++ (scan b).tokens.map (Token.below <| a.toList.count '\n' + 1) := by
  have hl : Scan.lineAfter 1 (a ++ "\n" ++ b).toList =
      Scan.lineAfter 1 b.toList + UInt32.ofNat (a.toList.count '\n' + 1) := by
    simp [Scan.lineAfter, UInt32.ofNat_add]
    ac_rfl
  simp only [scan_tokens, Scan.tokensOf, eventsOf_append_lineFeed b ha, hl]
  rw [List.filterMap_append, Scan.events_tokens_below]
  simp [Scan.eventsOf, Token.below, Token.eof]

theorem scan_diagnostics_append_lineFeed
    (ha : ∀ d ∈ (scan a).diagnostics.toList, d.message ≠ "Unterminated string.") :
    (scan <| a ++ "\n" ++ b).diagnostics.toList =
      (scan a).diagnostics.toList ++
        (scan b).diagnostics.toList.map (Diagnostic.below <| a.toList.count '\n' + 1) := by
  simp only [toList_scan_diagnostics, Scan.errorsOf, eventsOf_append_lineFeed b ha]
  rw [List.filterMap_append, Scan.events_errors_below]
  simp [Scan.eventsOf, LexicalError.diagnostic_below]

end

theorem scan_append_lineFeed (a b : String)
    (ha : ∀ d ∈ (scan a).diagnostics.toList, d.message ≠ "Unterminated string.")
    (h : a.toList.count '\n' + b.toList.count '\n' + 1 < UInt32.size - 1) :
    let n := a.toList.count '\n' + 1
    let both := scan (a ++ "\n" ++ b)
    (∃ ts line, (scan a).tokens = ts ++ [.eof line] ∧
      both.tokens = ts ++ (scan b).tokens.map (Token.below n)) ∧
    both.diagnostics.toList =
      (scan a).diagnostics.toList ++ (scan b).diagnostics.toList.map (Diagnostic.below n) ∧
    (∀ t ∈ (scan b).tokens, (t.below n).line.toNat = t.line.toNat + n) ∧
    (∀ d ∈ (scan b).diagnostics.toList, (d.below n).line.toNat = d.line.toNat + n) := by
  intro n both
  have ht := scan_tokens_append_lineFeed b ha
  have hd := scan_diagnostics_append_lineFeed b ha
  refine ⟨⟨_, _, scan_tokens a, ht⟩, hd, fun t ht => ?line_token, fun d hd => ?line_diagnostic⟩
  case line_token =>
    have := line_le_of_mem_scan_tokens (by omega) ht
    rw [UInt32.size] at h
    rw [Token.below, UInt32.toNat_add, UInt32.toNat_ofNat']
    omega
  case line_diagnostic =>
    have := line_le_of_mem_scan_diagnostics (by omega) hd
    rw [UInt32.size] at h
    rw [Diagnostic.below, UInt32.toNat_add, UInt32.toNat_ofNat']
    omega

-- A string over two lines, a number with a point and a comment do not reach over the break.
theorem scan_append_lineFeed_comment :
    let both := scan ("\"p\nq\" 3. @ // c" ++ "\n" ++ "5 # \"r\n")
    both.diagnostics.toList =
      (scan "\"p\nq\" 3. @ // c").diagnostics.toList ++
        (scan "5 # \"r\n").diagnostics.toList.map (Diagnostic.below 2) ∧
    both.diagnostics.toList.map Diagnostic.line = [2, 3, 4] := by
  have ha : ∀ d ∈ (scan "\"p\nq\" 3. @ // c").diagnostics.toList,
      d.message ≠ "Unterminated string." := by
    decide +kernel
  have ⟨_, hd, _⟩ := scan_append_lineFeed "\"p\nq\" 3. @ // c" "5 # \"r\n" ha (by decide +kernel)
  exact ⟨hd, by decide +kernel⟩

end LoxTokens
