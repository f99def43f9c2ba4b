import LoxTokens.Proofs.Scan.Cursor.Stands

/-!
A cursor inside a piece. Its stage tells what the text taken so far looks like, so that the text leads
what is left when the piece is at its end. The event that is made then is the one of the scan.
-/

namespace LoxTokens

open Piece PieceKind

namespace Scan

-- What the text that is taken for a piece and the text that is left look like.
inductive Stage.Holds : Stage → List Char → List Char → Prop
  | begun    : rest ≠ [] → Holds .begun [] rest
  | first    : Holds (.first c) [c] rest
  | lexeme   : Leads ⟨.lexeme type, taken⟩ rest → literal? ⟨.lexeme type, taken⟩ = none →
               Holds (.lexeme type) taken rest
  | comment  : '\n' ∉ cs → Holds .comment ('/' :: '/' :: cs) rest
  | quoted   : '"' ∉ cs → Holds .quoted ('"' :: cs) rest
  | closed   : '"' ∉ cs → Holds .closed ('"' :: cs ++ ['"']) rest
  | whole    : IsDigits ds → Holds .whole ds rest
  -- the first digit behind the point was looked at before the point was taken
  | fraction : IsDigits ds → (∀ c ∈ fs, c.isDigit) → (fs = [] → ∃ c ∈ rest.head?, c.isDigit) →
               Holds .fraction (ds ++ '.' :: fs) rest
  | number   : Leads ⟨.lexeme .number, taken⟩ rest → Holds .number taken rest
  | word     : IsWord taken → Holds .word taken rest

-- The part of the text that is taken in which the lines are counted.
def Stage.counted : Stage → List Char → List Char
  | first _, _     => []
  | _,       taken => taken

-- The text, from the line on, gives rise to what is still missing from the events of the source.
structure Awaits (source : String) (es : List ScanEvent) (line : UInt32) (text : List Char) :
    Prop where
  events : es ++ Scan.events line (cut text) = eventsOf source
  line   : lineAfter line text = lineAfter 1 source.toList

namespace Cursor

-- The cursor has taken the text for a piece and is not yet through with it.
structure Within (source : String) (before taken : List Char) (s : Cursor) : Prop where
  stands : Stands source before taken s
  holds  : s.stage.Holds taken s.rest
  line   : s.line = lineAfter s.startLine (s.stage.counted taken)
  awaits : Awaits source s.events s.startLine (taken ++ s.rest)

-- The cursor has made the events of the source up to where it stands.
inductive Follows (source : String) (s : Cursor) : Prop
  | between : Stands source before taken s → s.stage = .between →
              Awaits source s.events s.line s.rest → Follows source s
  | within  : Within source before taken s → Follows source s
  | done    : Stands source before taken s → s.stage = .done → s.rest = [] →
              Awaits source s.events s.line s.rest → Follows source s

structure Onward (s t : Cursor) : Prop where
  bound : t.bound < s.bound
  rest  : t.rest <:+ s.rest
  done  : t.stage = .done → s.stage = .between

-- What a step of the cursor comes to, if it does not fail and does what the scan does.
def Goes (source : String) (s : Cursor) (x : Except BadSlice Cursor) : Prop :=
  ∃ t, x = .ok t ∧ Follows source t ∧ Onward s t

end Cursor

variable {source : String} {before taken text cs rest : List Char} {c : Char} {type : TokenType}
  {line : UInt32} {es : List ScanEvent} {stage : Stage} {kind : PieceKind}

-- Only strings and numbers have a value.

theorem literal?_lexeme (hs : type ≠ .string) (hn : type ≠ .number) (text : List Char) :
    literal? ⟨.lexeme type, text⟩ = none := by
  unfold literal?
  split <;> simp_all

theorem literal?_word (h : TokenType.OfWord text type) : literal? ⟨.lexeme type, text⟩ = none := by
  have hk : ∀ e ∈ TokenType.keywords, e.2 ≠ .string ∧ e.2 ≠ .number := by decide
  cases h
  case reserved h => exact literal?_lexeme (hk _ h).left (hk _ h).right text
  case identifier => rfl

theorem literal?_punctuator (h : punctuator? c = some type) (text : List Char) :
    literal? ⟨.lexeme type, text⟩ = none := by
  unfold punctuator? at h
  split at h <;> cases h <;> rfl

theorem literal?_operator {types : TokenType × TokenType} (h : operator? c = some types)
    (text : List Char) :
    literal? ⟨.lexeme types.1, text⟩ = none ∧ literal? ⟨.lexeme types.2, text⟩ = none := by
  unfold operator? at h
  split at h <;> cases h <;> exact ⟨rfl, rfl⟩

theorem Awaits.next {p : Piece} (hl : p.Leads rest) (h : Awaits source es line (p.text ++ rest)) :
    Awaits source (es ++ (p.event? line).toList) (lineAfter line p.text) rest where
  events := by
    have he := h.events
    rwa [cut_append hl, Scan.events, ← List.append_assoc] at he
  line   := lineAfter_append line p.text rest ▸ h.line

namespace Stage

-- What a loop takes fits what is taken before, and inside a piece only strings go on with a line feed.

theorem Holds.append (h : stage.Holds taken (c :: rest)) (hc : stage.takes c) :
    stage.Holds (taken ++ [c]) rest := by
  cases h <;> first | cases hc | skip
  case comment h =>
    have hc : c ≠ '\n' := of_decide_eq_true hc
    exact .comment <| by simp [h, hc.symm]
  case quoted h  =>
    have hc : c ≠ '"' := of_decide_eq_true hc
    exact .quoted <| by simp [h, hc.symm]
  case whole h   => exact .whole ⟨by simp, by simpa [or_imp, forall_and] using ⟨h.2, hc⟩⟩
  case fraction ds fs hd hf _ =>
    rw [List.append_assoc, List.cons_append]
    exact .fraction hd (by simpa [or_imp, forall_and] using ⟨hf, hc⟩) (by simp)
  case word h    =>
    obtain ⟨d, ds, rfl⟩ := List.exists_cons_of_ne_nil <| show taken ≠ [] by rintro rfl; exact h
    exact .word ⟨h.1, by simpa [or_imp, forall_and] using ⟨h.2, isWordRest_iff.mp hc⟩⟩

theorem ne_lineFeed_of_takes (h : stage.takes c) (hb : stage ≠ .between) (hq : stage ≠ .quoted) :
    c ≠ '\n' := by
  rintro rfl
  cases stage <;> first | exact hb rfl | exact hq rfl | cases h

theorem Holds.ne (h : stage.Holds taken rest) : stage ≠ .between ∧ stage ≠ .done := by
  cases h <;> exact ⟨nofun, nofun⟩

theorem Holds.two_lt_rank (h : stage.Holds taken rest) (hn : taken ≠ []) : 2 < stage.rank := by
  cases h <;> first | exact absurd rfl hn | simp [rank]

theorem counted_of_takes (h : stage.takes c) (text : List Char) : stage.counted text = text := by
  cases stage <;> first | rfl | cases h

theorem rank_le (stage : Stage) : stage.rank ≤ 5 := by
  cases stage <;> exact Nat.le_of_ble_eq_true rfl

end Stage

namespace Cursor

variable {s t : Cursor}

namespace Onward

theorem of_take (hr : s.rest = c :: cs) (ht : t.rest = cs) (hd : t.stage ≠ .done) : Onward s t where
  bound := by
    have := t.stage.rank_le
    simp only [Cursor.bound, hr, ht, List.length_cons]
    omega
  rest  := by rw [hr, ht]; exact List.suffix_cons c cs
  done  := fun h => absurd h hd

theorem of_rank (hr : t.rest = s.rest) (hl : t.stage.rank < s.stage.rank) (hd : t.stage ≠ .done) :
    Onward s t where
  bound := by
    simp only [Cursor.bound, hr]
    omega
  rest  := hr ▸ List.suffix_rfl
  done  := fun h => absurd h hd

end Onward

namespace Within

theorem enter (h : Within source before taken s) (hh : stage.Holds taken s.rest)
    (hl : s.line = lineAfter s.startLine (stage.counted taken)) (hr : stage.rank < s.stage.rank) :
    Goes source s (.ok <| s.enter stage) := by
  have ht : Within source before taken (s.enter stage) :=
    ⟨h.stands.congr rfl rfl rfl rfl, hh, hl, h.awaits⟩
  exact ⟨_, rfl, .within ht, .of_rank rfl hr hh.ne.right⟩

theorem take (h : Within source before taken s) (hr : s.rest = c :: cs)
    (hh : stage.Holds (taken ++ [c]) cs)
    (hl : line = lineAfter s.startLine (stage.counted <| taken ++ [c])) :
    Goes source s (.ok { s with
      stage := stage, rest := cs, current := s.current + c, line := line }) := by
  have ha := h.awaits
  rw [hr, List.append_cons] at ha
  exact ⟨_, rfl, .within ⟨h.stands.take hr rfl rfl rfl rfl, hh, hl, ha⟩,
    .of_take hr rfl hh.ne.right⟩

theorem line_append (h : Within source before taken s) (ht : s.stage.counted taken = taken)
    (hc : c ≠ '\n') : s.line = lineAfter s.startLine (taken ++ [c]) := by
  have hn : '\n' ∉ [c] := by simpa using hc.symm
  rw [h.line, ht, lineAfter_append, lineAfter_of_not_mem _ hn]

-- The piece is at its end, and its event is made if there is one.
theorem finish (h : Within source before taken s) (hl : Leads ⟨kind, taken⟩ s.rest) :
    Goes source s (.ok { s with
      stage  := .between
      line   := lineAfter s.startLine taken
      events := s.events ++ (event? ⟨kind, taken⟩ s.startLine).toList }) :=
  have hr := h.holds.two_lt_rank hl.shape.text_ne_nil
  ⟨_, rfl, .between (h.stands.congr rfl rfl rfl rfl) rfl <| .next hl h.awaits,
    .of_rank rfl hr nofun⟩

-- The same with the lines of the piece counted.
theorem finish_counted (h : Within source before taken s) (hl : Leads ⟨kind, taken⟩ s.rest)
    (hc : s.stage.counted taken = taken) :
    Goes source s (.ok { s with
      stage  := .between
      events := s.events ++ (event? ⟨kind, taken⟩ s.startLine).toList }) := by
  have hf := h.finish hl
  have hw := h.line
  rw [hc] at hw
  rwa [← hw] at hf

theorem finish_addToken (h : Within source before taken s) (hl : Leads ⟨.lexeme type, taken⟩ s.rest)
    (hc : s.stage.counted taken = taken) :
    Goes source s (s.addToken source type <| literal? ⟨.lexeme type, taken⟩) :=
  h.stands.addToken_eq type _ ▸ h.finish_counted hl hc

end Within

end Cursor
end Scan
end LoxTokens
