import LoxTokens.Proofs.Scan.Lookahead
import LoxTokens.Proofs.Scan.Spelling

/-!
Cleaning a source. A space in place of each stray character and of each character of a comment
changes nothing but that the stray characters are no longer reported: a space ends what comes
before it as well as these do.
-/

namespace LoxTokens

namespace Piece

namespace Placed

-- A character that is reported as unexpected, or a comment.
def isWaste (q : Placed) : Bool :=
  q.stray?.isSome || q.kind = .comment

def covers (q : Placed) (i : Nat) : Bool :=
  q.start ≤ i && i < q.stop

end Placed

def isWaste (p : Piece) : Bool :=
  match p.kind with
  | .stray _ | .comment => true
  | _                   => false

theorem Placed.isWaste_eq (q : Placed) : q.isWaste = q.toPiece.isWaste := by
  unfold Placed.isWaste Piece.isWaste stray? error? event? Piece.event?
  cases q.kind <;> simp [LexicalError.isUnexpected]

def cleaned (p : Piece) : List Char :=
  if p.isWaste then List.replicate p.text.length ' ' else p.text

theorem length_cleaned (p : Piece) : p.cleaned.length = p.text.length := by
  unfold cleaned
  split
  case isTrue  => exact List.length_replicate
  case isFalse => rfl

-- Characters that stay as they are or turn into spaces.
def Cleans : List Char → List Char → Prop :=
  List.Forall₂ fun c c' => c' = c ∨ c' = ' '

variable {p : Piece} {c d : Char} {cs rest rest' : List Char}

theorem cleans_refl (cs : List Char) : Cleans cs cs :=
  List.forall₂_same.mpr fun _ _ => .inl rfl

theorem cleans_replicate (cs : List Char) : Cleans cs (List.replicate cs.length ' ') := by
  induction cs
  case nil     => exact .nil
  case cons hi => exact .cons (.inr rfl) hi

theorem Cleans.cleaned_append (h : Cleans rest rest') (p : Piece) :
    Cleans (p.text ++ rest) (p.cleaned ++ rest') := by
  unfold cleaned
  split
  case isTrue  => exact List.rel_append (cleans_replicate p.text) h
  case isFalse => exact List.rel_append (cleans_refl p.text) h

-- A comment does not stop at a space, but it is not left as it is.
theorem Stops.space (h : p.Stops (c :: cs)) (hw : ¬p.isWaste) (rest : List Char) :
    p.Stops (' ' :: rest) := by
  obtain ⟨kind, text⟩ := p
  cases kind
  case lexeme     => exact stops_gap rfl <| by decide
  case comment    => exact absurd rfl hw
  case openString => cases h
  all_goals trivial

-- The second character only matters to a number, which does not go on behind a dot then.
theorem Stops.second_space (h : p.Stops (c :: d :: cs)) (rest : List Char) :
    p.Stops (c :: ' ' :: rest) := by
  obtain ⟨kind, text⟩ := p
  cases kind
  case openString => cases h
  case lexeme type =>
    cases type
    case number => exact ⟨h.left, fun _ _ d hd => Option.some.inj hd ▸ by decide⟩
    all_goals exact h
  all_goals exact h

theorem Stops.of_cleans (h : p.Stops rest) (hw : ¬p.isWaste) (hc : Cleans rest rest') :
    p.Stops rest' := by
  cases hc
  case nil => exact h
  case cons hc hcs =>
    obtain rfl | rfl := hc
    case inr => exact h.space hw _
    case inl =>
      cases hcs
      case nil => exact h
      case cons hd _ =>
        obtain rfl | rfl := hd
        case inl => exact h.of_take_two rfl
        case inr => exact h.second_space _

theorem WellShaped.lineFeed_not_mem (h : p.WellShaped) (hw : p.isWaste) : '\n' ∉ p.text := by
  cases h
  case stray c h =>
    intro hc
    exact h .lineFeed [] <| List.mem_singleton.mp hc ▸ .lineFeed
  case allowed h =>
    obtain ⟨kind, text⟩ := p
    cases h
    case comment h => simpa using h
    all_goals exact absurd hw (by simp [isWaste])

-- Whether the place of a character is covered by waste.
def isWasteAt (qs : List Placed) (i : Nat) : Bool :=
  qs.any fun q => q.isWaste && q.covers i

variable {start i : Nat} {line : UInt32} {ps : List Piece}

theorem isWasteAt_place_of_lt (h : i < p.text.length) :
    isWasteAt (place start line (p :: ps)) (start + i) = p.isWaste := by
  have hr : isWasteAt (place (start + p.text.length) (Scan.lineAfter line p.text) ps)
      (start + i) = false := by
    refine List.any_eq_false.mpr fun q hq => ?_
    have := start_le_of_mem_place hq
    simp [Placed.covers]
    omega
  have hp : Placed.covers ⟨p, start, line⟩ (start + i) := by
    simp [Placed.covers, Placed.stop, h]
  rw [isWasteAt] at hr ⊢
  rw [place, List.any_cons, hr, hp, Placed.isWaste_eq, Bool.and_true, Bool.or_false]

theorem isWasteAt_place_add_length :
    isWasteAt (place start line (p :: ps)) (start + (i + p.text.length)) =
      isWasteAt (place (start + p.text.length) (Scan.lineAfter line p.text) ps)
        (start + p.text.length + i) := by
  have hi : start + (i + p.text.length) = start + p.text.length + i := by omega
  have hn : ¬start + p.text.length + i < start + p.text.length := by omega
  have hp : Placed.covers ⟨p, start, line⟩ (start + p.text.length + i) = false := by
    simp [Placed.covers, Placed.stop, hn]
  rw [hi, isWasteAt, place, List.any_cons, hp, Bool.and_false, Bool.false_or, isWasteAt]

theorem mapIdx_isWasteAt_place (start : Nat) (line : UInt32) (cs : List Char) :
    (cs.mapIdx fun i c => if isWasteAt (place start line (cut cs)) (start + i) then ' ' else c) =
      (cut cs).flatMap cleaned := by
  induction cs using cut_induction generalizing start line
  case nil => simp [cut]
  case cons p rest hl hi =>
    have hp : (p.text.mapIdx fun i c =>
        if isWasteAt (place start line (p :: cut rest)) (start + i) then ' ' else c) =
        p.cleaned := by
      refine List.ext_getElem (by rw [List.length_mapIdx, length_cleaned]) fun i h _ => ?_
      rw [List.length_mapIdx] at h
      rw [List.getElem_mapIdx, isWasteAt_place_of_lt h]
      cases hw : p.isWaste <;> simp [cleaned, hw]
    rw [cut_append hl, List.mapIdx_append, hp, List.flatMap_cons,
      ← hi (start + p.text.length) (Scan.lineAfter line p.text)]
    simp only [isWasteAt_place_add_length]

end Piece

open Piece

def ScanEvent.isUnexpected : ScanEvent → Bool
  | token _ => false
  | error e => e.isUnexpected

namespace Scan

variable {p : Piece}

/-- The source with a space in place of each character that is reported as unexpected, and of
    each one that belongs to a comment. -/
def clean (source : String) : String :=
  String.ofList <| source.toList.mapIdx fun i c =>
    if isWasteAt (placed source) i then ' ' else c

theorem cleans_cut (cs : List Char) : Cleans cs ((cut cs).flatMap cleaned) := by
  induction cs using cut_induction
  case nil => simpa [cut] using cleans_refl []
  case cons p rest hl hi =>
    rw [cut_append hl, List.flatMap_cons]
    exact hi.cleaned_append p

theorem lineAfter_cleaned (h : p.WellShaped) (line : UInt32) :
    lineAfter line p.cleaned = lineAfter line p.text := by
  unfold cleaned
  split
  case isTrue hw =>
    rw [lineAfter, lineAfter, List.count_eq_zero.mpr (h.lineFeed_not_mem hw), List.count_replicate]
    rfl
  case isFalse => rfl

theorem lineAfter_flatMap_cleaned (line : UInt32) (cs : List Char) :
    lineAfter line ((cut cs).flatMap cleaned) = lineAfter line cs := by
  induction cs using cut_induction generalizing line
  case nil => rw [cut, List.flatMap_nil]
  case cons p rest hl hi =>
    rw [cut_append hl, List.flatMap_cons, lineAfter_append, lineAfter_append, hi,
      lineAfter_cleaned hl.shape]

theorem filter_event? (p : Piece) (line : UInt32) :
    (p.event? line).toList.filter (!·.isUnexpected) =
      if p.isWaste then [] else (p.event? line).toList := by
  unfold event? isWaste
  cases p.kind <;> simp [ScanEvent.isUnexpected, LexicalError.isUnexpected]

-- Waste leaves gaps, and everything else is cut off as before.
theorem events_cleaned (line : UInt32) (cs : List Char) :
    events line (cut <| (cut cs).flatMap cleaned) =
      (events line <| cut cs).filter (!·.isUnexpected) := by
  induction cs using cut_induction generalizing line
  case nil => simp [cut, events]
  case cons p rest hl hi =>
    have hl' := lineAfter_cleaned hl.shape line
    rw [cut_append hl, List.flatMap_cons, events, List.filter_append]
    by_cases hw : p.isWaste
    case pos =>
      have hg : ∀ c ∈ p.cleaned, isGap c := by
        rw [cleaned, if_pos hw]
        exact fun c hc => List.eq_of_mem_replicate hc ▸ by decide
      rw [cut_gaps_append hg, events_append, events_gaps, flatMap_text_gaps, hl', hi,
        filter_event?, if_pos hw]
    case neg =>
      have hc : p.cleaned = p.text := if_neg hw
      have hl'' : p.Leads _ := ⟨hl.shape, hl.stops.of_cleans hw <| cleans_cut rest⟩
      rw [hc, cut_append hl'', events, hi, filter_event?, if_neg hw]

theorem toList_clean (source : String) :
    (clean source).toList = (cut source.toList).flatMap cleaned := by
  rw [clean, String.toList_ofList, ← mapIdx_isWasteAt_place 0 1]
  simp only [Nat.zero_add]
  rfl

theorem eventsOf_clean (source : String) :
    eventsOf (clean source) = (eventsOf source).filter (!·.isUnexpected) := by
  rw [eventsOf, toList_clean, events_cleaned, eventsOf]

theorem tokensOf_clean (source : String) : tokensOf (clean source) = tokensOf source := by
  rw [tokensOf, eventsOf_clean, List.filterMap_filter, tokensOf]
  refine List.filterMap_congr fun e _ => ?_
  cases e <;> simp [ScanEvent.isUnexpected]

theorem errorsOf_clean (source : String) :
    errorsOf (clean source) = (errorsOf source).filter (!·.isUnexpected) := by
  rw [errorsOf, eventsOf_clean, List.filterMap_filter, errorsOf, List.filter_filterMap]
  refine List.filterMap_congr fun e _ => ?_
  cases e <;> simp [ScanEvent.isUnexpected, Option.filter]

theorem decide_message_of_mem_errorsOf {source : String} {e : LexicalError}
    (h : e ∈ errorsOf source) :
    decide (e.diagnostic.message = "Unexpected character.") = e.isUnexpected := by
  have ⟨ev, hev, he⟩ := List.mem_filterMap.mp h
  have ⟨p, _, line, hp⟩ := exists_piece_of_mem_events hev
  unfold event? at hp
  split at hp <;> cases hp <;> cases he
  all_goals rfl

end Scan

theorem scan_clean (source : String) :
    (scan <| Scan.clean source).tokens = (scan source).tokens ∧
    (scan <| Scan.clean source).diagnostics.toList =
      (scan source).diagnostics.toList.filter (·.message ≠ "Unexpected character.") ∧
    -- the reports that are gone, each at the place that is cleaned
    (scan source).diagnostics.toList.filter (·.message = "Unexpected character.") =
      ((Scan.placed source).filterMap Placed.stray?).map LexicalError.diagnostic := by
  refine ⟨?tokens, ?kept, ?gone⟩
  case tokens =>
    rw [scan_tokens, Scan.tokensOf_clean, Scan.toList_clean, Scan.lineAfter_flatMap_cleaned,
      scan_tokens]
  case kept =>
    rw [toList_scan_diagnostics, Scan.errorsOf_clean, toList_scan_diagnostics, List.filter_map]
    refine congrArg _ <| List.filter_congr fun e he => ?_
    simp [← Scan.decide_message_of_mem_errorsOf he]
  case gone =>
    rw [Scan.filterMap_stray?_placed, toList_scan_diagnostics, List.filter_map]
    exact congrArg _ <| List.filter_congr fun e => Scan.decide_message_of_mem_errorsOf

-- A space ends a number and an operator as well, and what a string holds is no waste.
example : Scan.clean "3.@ !é= // c\n\"#\"" = "3.  ! =     \n\"#\"" := by
  decide +kernel

end LoxTokens
