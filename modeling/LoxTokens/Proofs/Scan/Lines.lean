import LoxTokens.Proofs.Scan.Place

/-!
The lines of tokens and reports. The line of a place is one more than the number of line feeds in
front of it. A token and a stray character have the line that they stand on, an unclosed string
the last line of the source.
-/

namespace LoxTokens

open Piece

def lineAt (cs : List Char) (i : Nat) : Nat :=
  1 + (cs.take i).count '\n'

theorem lineAt_le_lineAt {cs : List Char} {i j : Nat} (h : i ≤ j) : lineAt cs i ≤ lineAt cs j :=
  Nat.add_le_add_left (List.take_sublist_take_left h |>.count_le '\n') 1

theorem lineAt_length (cs : List Char) : lineAt cs cs.length = 1 + cs.count '\n' := by
  rw [lineAt, List.take_length]

structure Token.StandsAt (cs : List Char) (i : Nat) (t : Token) : Prop where
  lexeme : t.lexeme.toList <+: cs.drop i
  line   : t.line.toNat = lineAt cs i

-- An unclosed string is only missed where the source ends.
inductive LexicalError.StandsAt (cs : List Char) (i : Nat) : LexicalError → Prop
  | unexpectedCharacter {line : UInt32} :
    cs[i]? = some c → line.toNat = lineAt cs i → StandsAt cs i (.unexpectedCharacter line c)
  | unterminatedString {line : UInt32} :
    cs[i]? = some '"' → line.toNat = lineAt cs cs.length → StandsAt cs i (.unterminatedString line)

namespace Piece

theorem lexeme_and_line_of_mem_event? {p : Piece} {line : UInt32} {t : Token}
    (h : .token t ∈ p.event? line) : t.lexeme = String.ofList p.text ∧ t.line = line := by
  unfold event? at h
  split at h <;> cases h
  exact ⟨rfl, rfl⟩

end Piece

namespace Scan

variable {source : String} {q r : Placed}

-- The source has fewer line feeds than the counter can count.
variable (hc : source.toList.count '\n' < UInt32.size - 1)

include hc

theorem toNat_lineAfter_take (i : Nat) :
    (lineAfter 1 <| source.toList.take i).toNat = lineAt source.toList i := by
  have := List.take_sublist i source.toList |>.count_le '\n'
  have h₁ : (1 : UInt32).toNat = 1 := rfl
  rw [toNat_lineAfter, h₁, lineAt]
  omega

theorem toNat_line_of_mem_placed (h : q ∈ placed source) :
    q.line.toNat = lineAt source.toList q.start := by
  obtain ⟨before, after, hs, hq⟩ := exists_between_of_mem_placed h
  rw [← toNat_lineAfter_take hc, hs, hq.line, hq.start, List.append_assoc, List.take_left]

theorem toNat_lineAfter_of_mem_placed (h : q ∈ placed source) :
    (lineAfter q.line q.text).toNat = lineAt source.toList q.stop := by
  obtain ⟨before, after, hs, hq⟩ := exists_between_of_mem_placed h
  rw [← toNat_lineAfter_take hc, hs, hq.line, Placed.stop, hq.start, ← List.length_append,
    List.take_left, lineAfter_append]

theorem token_standsAt {t : Token} (h : q ∈ placed source) (ht : t ∈ q.token?) :
    t.StandsAt source.toList q.start := by
  have ⟨hl, hn⟩ := lexeme_and_line_of_mem_event? <| Placed.mem_event?_of_mem_token? ht
  refine ⟨?lexeme, hn ▸ toNat_line_of_mem_placed hc h⟩
  case lexeme =>
    have ⟨before, after, hs, hq⟩ := exists_between_of_mem_placed h
    rw [hl, String.toList_ofList, hs, hq.start, List.append_assoc, List.drop_left]
    exact List.prefix_append ..

theorem error_standsAt {e : LexicalError} (h : q ∈ placed source) (he : e ∈ q.error?) :
    e.StandsAt source.toList q.start := by
  have ⟨before, after, hs, hq⟩ := exists_between_of_mem_placed h
  have hd : source.toList[q.start]? = (q.text ++ after).head? := by
    rw [hs, hq.start, List.append_assoc, List.getElem?_append_right (Nat.le_refl _), Nat.sub_self,
      List.head?_eq_getElem?]
  have he := Placed.mem_event?_of_mem_error? he
  unfold Placed.event? Piece.event? at he
  split at he <;> cases he
  case h_2 hk =>
    have ⟨cs, ht⟩ := hq.leads.shape.text_of_openString hk
    have ha : after = [] := by simpa [Stops, hk] using hq.leads.stops
    refine .unterminatedString (by rw [hd, ht]; rfl) ?line
    case line =>
      have : q.stop = source.toList.length := by
        rw [hs, ha, Placed.stop, hq.start, List.append_nil, List.length_append]
      exact this ▸ toNat_lineAfter_of_mem_placed hc h
  case h_3 hk =>
    refine .unexpectedCharacter ?_ <| toNat_line_of_mem_placed hc h
    rw [hd, hq.leads.shape.text_of_stray hk]
    rfl

theorem lineAt_le_line_of_mem_event? {e : ScanEvent} (h : q ∈ placed source) (he : e ∈ q.event?) :
    lineAt source.toList q.start ≤ e.line.toNat ∧ e.line.toNat ≤ lineAt source.toList q.stop := by
  have hle : lineAt source.toList q.start ≤ lineAt source.toList q.stop :=
    lineAt_le_lineAt <| Nat.le_add_right ..
  rw [← toNat_line_of_mem_placed hc h, ← toNat_lineAfter_of_mem_placed hc h] at hle ⊢
  cases line_eq_of_mem_event? he
  case inl hl => exact ⟨Nat.le_of_eq <| congrArg _ hl.symm, hl ▸ hle⟩
  case inr hl => exact ⟨hl ▸ hle, Nat.le_of_eq <| congrArg _ hl⟩

theorem eventsOf_pairwise_line_le : (eventsOf source).Pairwise fun e f => e.line ≤ f.line := by
  rw [eventsOf, ← filterMap_event?_place, List.pairwise_filterMap]
  refine placed_pairwise.imp_of_mem fun {q r} hq hr hqr e he f hf => UInt32.le_iff_toNat_le.mpr ?_
  calc
    e.line.toNat ≤ lineAt source.toList q.stop  := (lineAt_le_line_of_mem_event? hc hq he).right
    _            ≤ lineAt source.toList r.start := lineAt_le_lineAt hqr
    _            ≤ f.line.toNat                 := (lineAt_le_line_of_mem_event? hc hr hf).left

theorem tokensOf_pairwise_line_le : (tokensOf source).Pairwise fun t u => t.line ≤ u.line := by
  refine (eventsOf_pairwise_line_le hc).filterMap _ fun e f h t ht u hu => ?_
  cases e <;> cases f <;> cases ht <;> cases hu
  exact h

theorem errorsOf_pairwise_line_le : (errorsOf source).Pairwise fun e f => e.line ≤ f.line := by
  refine (eventsOf_pairwise_line_le hc).filterMap _ fun e f h e' he f' hf => ?_
  cases e <;> cases f <;> cases he <;> cases hf
  exact h

-- The counter has room for all the line feeds of a piece when the piece is read.
theorem line_foldl_step_add_lt {σ : Type u} {filter : Log.Filter} {report : σ → Diagnostic → σ}
    {s : State σ} {ps qs : List Piece} {p : Piece} (hs : s.line = 1)
    (h : cut source.toList = ps ++ p :: qs) :
    (ps.foldl (State.step filter report) s).line.toNat + p.text.count '\n' < UInt32.size := by
  have ht : source.toList = ps.flatMap text ++ (p.text ++ qs.flatMap text) := by
    rw [← flatMap_text_cut source.toList, h, List.flatMap_append, List.flatMap_cons]
  rw [ht, List.count_append, List.count_append] at hc
  have h₁ : (1 : UInt32).toNat = 1 := rfl
  rw [State.foldl_step_line, hs, toNat_lineAfter, h₁]
  all_goals omega

theorem toNat_lineAfter_source : (lineAfter 1 source.toList).toNat = 1 + source.toList.count '\n' := by
  have := toNat_lineAfter_take hc source.toList.length
  rwa [List.take_length, lineAt_length] at this

end Scan

theorem scan_tokens_pairwise_line_le {source : String}
    (hc : source.toList.count '\n' < UInt32.size - 1) :
    (scan source).tokens.Pairwise fun t u => t.line ≤ u.line := by
  have hle : ∀ t ∈ (scan source).tokens, t.line ≤ Scan.lineAfter 1 source.toList := fun t ht =>
    UInt32.le_iff_toNat_le.mpr <|
      Scan.toNat_lineAfter_source hc ▸ line_le_of_mem_scan_tokens hc ht
  rw [scan_tokens] at hle ⊢
  refine List.pairwise_append.mpr
    ⟨Scan.tokensOf_pairwise_line_le hc, List.pairwise_singleton .., fun t ht u hu => ?_⟩
  cases List.mem_singleton.mp hu
  exact hle t <| List.mem_append_left _ ht

theorem scan_lines (source : String) (h : source.toList.count '\n' < UInt32.size - 1) :
    let cs := source.toList
    -- the tokens and the reports, each where its piece stands
    (∃ last : UInt32, last.toNat = 1 + cs.count '\n' ∧
      (scan source).tokens = (Scan.placed source).filterMap Placed.token? ++ [.eof last]) ∧
    (scan source).diagnostics.toList =
      ((Scan.placed source).filterMap Placed.error?).map LexicalError.diagnostic ∧
    (∀ q ∈ Scan.placed source,
      (∀ t ∈ q.token?, t.StandsAt cs q.start) ∧ (∀ e ∈ q.error?, e.StandsAt cs q.start)) ∧
    -- the line counter, which is never too small for the line feeds of a piece
    (∀ (σ : Type) filter (report : σ → Diagnostic → σ) sink log ps p qs, cut cs = ps ++ p :: qs →
      let s := ps.foldl (Scan.State.step filter report) (.start sink log)
      s.line.toNat + p.text.count '\n' < UInt32.size) ∧
    (scan source).tokens.Pairwise (fun t u => t.line ≤ u.line) ∧
    (scan source).diagnostics.toList.Pairwise (fun d e => d.line ≤ e.line) := by
  intro cs
  refine ⟨⟨_, Scan.toNat_lineAfter_source h, ?tokens⟩, ?diagnostics, fun q hq => ?places,
    fun σ filter report sink log ps p qs hp => ?counter, scan_tokens_pairwise_line_le h, ?sorted⟩
  case tokens      => rw [scan_tokens, Scan.tokensOf_eq_filterMap_placed]
  case diagnostics => rw [toList_scan_diagnostics, Scan.errorsOf_eq_filterMap_placed]
  case places      => exact ⟨fun t => Scan.token_standsAt h hq, fun e => Scan.error_standsAt h hq⟩
  case counter     => exact Scan.line_foldl_step_add_lt h rfl hp
  case sorted      =>
    rw [toList_scan_diagnostics]
    exact (Scan.errorsOf_pairwise_line_le h).map _ fun _ _ => id

-- A comment and a string over two lines, and at the end an open string with a line feed in it.
theorem scan_lines_openString :
    let source := "1 // c\n\"p\nq\" @ 2\n# \"r\n"
    source.toList.count '\n' < UInt32.size - 1 ∧
    (scan source).tokens.Pairwise (fun t u => t.line ≤ u.line) ∧
    (scan source).tokens.map Token.line = [1, 2, 3, 5] ∧
    (scan source).diagnostics.toList.map Diagnostic.line = [3, 4, 5] := by
  have h : "1 // c\n\"p\nq\" @ 2\n# \"r\n".toList.count '\n' < UInt32.size - 1 := by
    decide +kernel
  have ⟨_, _, _, _, hl, _⟩ := scan_lines _ h
  exact ⟨h, hl, by decide +kernel, by decide +kernel⟩

end LoxTokens
