import LoxTokens.Proofs.Scan.Place
import Mathlib.Data.List.Basic

/-!
Lookahead. A piece is cut off by its own characters and at most two more. So what is found within
the first characters of a source stays the same, whatever comes two characters later.
-/

namespace LoxTokens

namespace LexicalError

def isUnexpected : LexicalError → Bool
  | unexpectedCharacter .. => true
  | _                      => false

end LexicalError

namespace Piece

variable {n start : Nat} {line : UInt32} {cs ds rest : List Char} {p : Piece}

theorem Stops.of_take_two (h : p.Stops rest) (ht : rest.take 2 = cs.take 2) : p.Stops cs := by
  have : cs.head? = rest.head? ∧ cs.tail.head? = rest.tail.head? ∧ (cs = [] ↔ rest = []) := by
    rcases rest with _ | ⟨c, _ | ⟨d, rest⟩⟩ <;> rcases cs with _ | ⟨c', _ | ⟨d', cs⟩⟩ <;> simp_all
  unfold Stops at h ⊢
  split at h <;> simp_all

-- The other source starts with the piece as well.
theorem Leads.exists_of_take_eq (h : p.Leads rest) (hn : p.text.length ≤ n)
    (ht : (p.text ++ rest).take (n + 2) = cs.take (n + 2)) :
    ∃ rest', cs = p.text ++ rest' ∧ p.Leads rest' ∧
      rest.take (n + 2 - p.text.length) = rest'.take (n + 2 - p.text.length) := by
  have hp : p.text <+: cs := by
    have := congrArg (List.take p.text.length) ht
    rw [List.take_take, List.take_take, Nat.min_eq_left (by omega), List.take_left] at this
    exact this ▸ List.take_prefix ..
  obtain ⟨rest', rfl⟩ := hp
  rw [List.take_append, List.take_append] at ht
  have hr := List.append_cancel_left ht
  refine ⟨rest', rfl, ⟨h.shape, h.stops.of_take_two ?_⟩, hr⟩
  have := congrArg (List.take 2) hr
  rwa [List.take_take, List.take_take, Nat.min_eq_left (by omega)] at this

theorem filter_stop_le_place_cons {ps : List Piece} (hn : start + p.text.length ≤ n) :
    (place start line (p :: ps)).filter (·.stop ≤ n) =
      ⟨p, start, line⟩ ::
        (place (start + p.text.length) (Scan.lineAfter line p.text) ps).filter (·.stop ≤ n) := by
  rw [place, List.filter_cons_of_pos]
  exact decide_eq_true hn

-- No piece ends before one that comes earlier.
theorem filter_stop_le_place_eq_nil {ps : List Piece} (hn : n < start + p.text.length) :
    (place start line (p :: ps)).filter (·.stop ≤ n) = [] := by
  have : ∀ q ∈ place start line (p :: ps), n < q.stop := by
    intro q hq
    cases hq
    case head    => exact hn
    case tail hq =>
      have : q.start ≤ q.stop := Nat.le_add_right ..
      have := start_le_of_mem_place hq
      omega
  exact List.filter_eq_nil_iff.mpr fun q hq => by simpa using this q hq

theorem filter_stop_le_place_isPrefix {ps : List Piece} :
    (place start line ps).filter (·.stop ≤ n) <+: place start line ps := by
  induction ps generalizing start line
  case nil => exact List.prefix_rfl
  case cons p ps hi =>
    by_cases hn : start + p.text.length ≤ n
    case pos => exact filter_stop_le_place_cons hn ▸ List.cons_prefix_cons.mpr ⟨rfl, hi⟩
    case neg => exact filter_stop_le_place_eq_nil (Nat.lt_of_not_le hn) ▸ List.nil_prefix

-- What is cut off within the first characters of a source is cut off from the other one too.
theorem filter_stop_le_place_prefix_of_take_eq (start : Nat) (line : UInt32)
    (h : cs.take (n + 2 - start) = ds.take (n + 2 - start)) :
    (place start line (cut cs)).filter (·.stop ≤ n) <+:
      (place start line (cut ds)).filter (·.stop ≤ n) := by
  induction cs using cut_induction generalizing start line ds
  case nil => simp [cut, place]
  case cons p rest hl hi =>
    rw [cut_append hl]
    by_cases hn : start + p.text.length ≤ n
    case pos =>
      have hs : n + 2 - start = n - start + 2 := by omega
      obtain ⟨rest', rfl, hl', hr⟩ := hl.exists_of_take_eq (by omega) (hs ▸ h)
      rw [← hs, Nat.sub_sub] at hr
      rw [cut_append hl', filter_stop_le_place_cons hn, filter_stop_le_place_cons hn]
      exact List.cons_prefix_cons.mpr ⟨rfl, hi _ _ hr⟩
    case neg => exact filter_stop_le_place_eq_nil (Nat.lt_of_not_le hn) ▸ List.nil_prefix

-- The report of a stray character, none for what else may be wrong.
def Placed.stray? (q : Placed) : Option LexicalError :=
  q.error?.filter LexicalError.isUnexpected

end Piece

open Piece

namespace Scan

-- The tokens whose lexemes lie within the first characters.
def tokensWithin (n : Nat) (source : String) : List Token :=
  ((placed source).filter (·.stop ≤ n)).filterMap Placed.token?

-- The reports of stray characters among the first characters.
def straysWithin (n : Nat) (source : String) : List Diagnostic :=
  (((placed source).filter (·.start < n)).filterMap Placed.stray?).map LexicalError.diagnostic

variable {source s t : String} {n : Nat} {q : Placed}

theorem filter_stop_le_placed_eq (h : s.toList.take (n + 2) = t.toList.take (n + 2)) :
    (placed s).filter (·.stop ≤ n) = (placed t).filter (·.stop ≤ n) := by
  have hst := filter_stop_le_place_prefix_of_take_eq 0 1 h
  have hts := filter_stop_le_place_prefix_of_take_eq 0 1 h.symm
  exact hst.eq_of_length_le hts.length_le

theorem stop_eq_of_stray {e : LexicalError} (h : q ∈ placed source) (he : e ∈ q.stray?) :
    q.stop = q.start + 1 := by
  have ⟨_, _, _, hq⟩ := exists_between_of_mem_placed h
  have ⟨hr, hu⟩ := Option.filter_eq_some_iff.mp he
  have hv := Placed.mem_event?_of_mem_error? hr
  unfold Placed.event? Piece.event? at hv
  split at hv <;> cases hv
  case h_2    => cases hu
  case h_3 hk => rw [Placed.stop, hq.leads.shape.text_of_stray hk, List.length_singleton]

theorem straysWithin_eq :
    straysWithin n source =
      (((placed source).filter (·.stop ≤ n)).filterMap Placed.stray?).map LexicalError.diagnostic := by
  rw [straysWithin, List.filterMap_filter, List.filterMap_filter]
  refine congrArg _ <| List.filterMap_congr fun q hq => ?_
  cases he : q.stray?
  case none   => simp
  case some e =>
    have : q.stop ≤ n ↔ q.start < n := stop_eq_of_stray hq he ▸ Nat.succ_le_iff
    simp [this]

theorem tokensWithin_isPrefix : tokensWithin n source <+: (scan source).tokens := by
  rw [scan_tokens, tokensOf_eq_filterMap_placed]
  exact (filter_stop_le_place_isPrefix.filterMap _).trans <| List.prefix_append ..

theorem filterMap_stray?_placed :
    (placed source).filterMap Placed.stray? =
      (errorsOf source).filter LexicalError.isUnexpected := by
  rw [errorsOf_eq_filterMap_placed, List.filter_filterMap]
  rfl

theorem straysWithin_sublist : (straysWithin n source).Sublist (scan source).diagnostics.toList := by
  rw [toList_scan_diagnostics]
  refine List.Sublist.trans ?_ (filterMap_stray?_placed ▸ List.filter_sublist) |>.map _
  exact List.filter_sublist.filterMap _

end Scan

theorem scan_within_eq_of_take_eq {s t : String} {n : Nat}
    (h : s.toList.take (n + 2) = t.toList.take (n + 2)) :
    Scan.tokensWithin n s = Scan.tokensWithin n t ∧
    Scan.straysWithin n s = Scan.straysWithin n t ∧
    ∀ source, Scan.tokensWithin n source <+: (scan source).tokens ∧
      (Scan.straysWithin n source).Sublist (scan source).diagnostics.toList := by
  have hp := Scan.filter_stop_le_placed_eq h
  refine ⟨?tokens, ?strays, fun _ => ⟨Scan.tokensWithin_isPrefix, Scan.straysWithin_sublist⟩⟩
  case tokens => rw [Scan.tokensWithin, hp, Scan.tokensWithin]
  case strays => rw [Scan.straysWithin_eq, hp, Scan.straysWithin_eq]

-- The sources part behind a point that may belong to the number before it.
theorem scan_within_eq_of_take_eq_number :
    "@x = 3.5".toList.take (5 + 2) = "@x = 3. #".toList.take (5 + 2) ∧
    Scan.tokensWithin 5 "@x = 3.5" = Scan.tokensWithin 5 "@x = 3. #" ∧
    (Scan.tokensWithin 5 "@x = 3. #").map Token.lexeme = ["x", "="] ∧
    Scan.straysWithin 5 "@x = 3.5" = Scan.straysWithin 5 "@x = 3. #" ∧
    (Scan.straysWithin 5 "@x = 3. #").map Diagnostic.location = ["at '@'"] := by
  have h : "@x = 3.5".toList.take (5 + 2) = "@x = 3. #".toList.take (5 + 2) := by decide +kernel
  have ⟨ht, hs, _⟩ := scan_within_eq_of_take_eq h
  exact ⟨h, ht, by decide +kernel, hs, by decide +kernel⟩

end LoxTokens
