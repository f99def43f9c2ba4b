import LoxTokens.Proofs.Scan.Events

/-!
Pieces at their places. The place of a piece is the number of characters in front of it and the
line that it starts on, and the pieces of a source follow each other without a gap.
-/

namespace LoxTokens

namespace Piece

structure Placed extends Piece where
  start : Nat
  line  : UInt32

namespace Placed

def stop (q : Placed) : Nat :=
  q.start + q.text.length

def event? (q : Placed) : Option ScanEvent :=
  q.toPiece.event? q.line

def token? (q : Placed) : Option Token :=
  q.event? >>= ScanEvent.token?

def error? (q : Placed) : Option LexicalError :=
  q.event? >>= ScanEvent.error?

theorem mem_event?_of_mem_token? {q : Placed} {t : Token} (h : t ∈ q.token?) :
    .token t ∈ q.event? := by
  have ⟨ev, hev, ht⟩ := Option.bind_eq_some_iff.mp h
  cases ev <;> cases ht
  exact hev

theorem mem_event?_of_mem_error? {q : Placed} {e : LexicalError} (h : e ∈ q.error?) :
    .error e ∈ q.event? := by
  have ⟨ev, hev, he⟩ := Option.bind_eq_some_iff.mp h
  cases ev <;> cases he
  exact hev

-- The texts before and behind the piece, which is to be cut off between them.
structure Between (q : Placed) (before after : List Char) : Prop where
  leads : q.Leads after
  start : q.start = before.length
  line  : q.line = Scan.lineAfter 1 before

end Placed

def place (start : Nat) (line : UInt32) : List Piece → List Placed
  | []      => []
  | p :: ps => ⟨p, start, line⟩ :: place (start + p.text.length) (Scan.lineAfter line p.text) ps

variable {start : Nat} {line : UInt32} {ps : List Piece} {q : Placed}

theorem filterMap_event?_place :
    (place start line ps).filterMap Placed.event? = Scan.events line ps := by
  induction ps generalizing start line
  case nil => rfl
  case cons p ps hi =>
    cases h : p.event? line <;> simp [place, Scan.events, Placed.event?, h, hi]

theorem start_le_of_mem_place (h : q ∈ place start line ps) : start ≤ q.start := by
  induction ps generalizing start line
  case nil => cases h
  case cons p ps hi =>
    cases h
    case head   => exact Nat.le_refl _
    case tail h => exact Nat.le_trans (Nat.le_add_right ..) (hi h)

theorem place_pairwise : (place start line ps).Pairwise fun q r => q.stop ≤ r.start := by
  induction ps generalizing start line
  case nil     => exact .nil
  case cons hi => exact .cons (fun _ => start_le_of_mem_place) hi

-- The induction goes along the cut, what was cut off before is collected.
theorem exists_between_of_mem_place (before cs : List Char)
    (h : q ∈ place before.length (Scan.lineAfter 1 before) (cut cs)) :
    ∃ before' after, before ++ cs = before' ++ q.text ++ after ∧ q.Between before' after := by
  induction cs using cut_induction generalizing before
  case nil => simp [cut, place] at h
  case cons p rest hl hi =>
    rw [cut_append hl] at h
    cases h
    case head   => exact ⟨before, rest, by simp, hl, rfl, rfl⟩
    case tail h =>
      rw [← List.length_append, ← Scan.lineAfter_append] at h
      simpa using hi _ h

end Piece

namespace Scan

def placed (source : String) : List Piece.Placed :=
  Piece.place 0 1 <| Piece.cut source.toList

variable {source : String} {q : Piece.Placed}

theorem placed_pairwise : (placed source).Pairwise fun q r => q.stop ≤ r.start :=
  Piece.place_pairwise

theorem exists_between_of_mem_placed (h : q ∈ placed source) :
    ∃ before after, source.toList = before ++ q.text ++ after ∧ q.Between before after := by
  rw [placed, ← lineAfter_nil 1] at h
  exact Piece.exists_between_of_mem_place [] _ h

theorem tokensOf_eq_filterMap_placed :
    tokensOf source = (placed source).filterMap Piece.Placed.token? := by
  rw [tokensOf, eventsOf, ← Piece.filterMap_event?_place, List.filterMap_filterMap]
  rfl

theorem errorsOf_eq_filterMap_placed :
    errorsOf source = (placed source).filterMap Piece.Placed.error? := by
  rw [errorsOf, eventsOf, ← Piece.filterMap_event?_place, List.filterMap_filterMap]
  rfl

end Scan
end LoxTokens
