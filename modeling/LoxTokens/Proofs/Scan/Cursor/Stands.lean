import LoxTokens.Proofs.Scan.Cursor

/-!
The place of a cursor in its source. The source is made of what stands before the piece, what is taken for
it and what is left, and the offsets of the cursor are lengths of these parts in bytes.
-/

namespace LoxTokens.Scan

variable {source : String} {l m r : List Char}

theorem isValid_of_toList_eq (h : source.toList = l ++ r) :
    (⟨String.utf8Len l⟩ : String.Pos.Raw).IsValid source := by
  refine String.Pos.Raw.isValid_iff_exists_append.mpr ⟨String.ofList l, String.ofList r, ?_, ?_⟩
  · rw [← String.ofList_append, ← h, String.ofList_toList]
  · exact (String.rawEndPos_ofList l).symm

theorem slice_of_toList_eq (h : source.toList = l ++ m ++ r) :
    slice source ⟨String.utf8Len l⟩ ⟨String.utf8Len (l ++ m)⟩ = .ok (String.ofList m) := by
  have hl : source.toList = l ++ (m ++ r) := h.trans <| List.append_assoc ..
  have ho : (⟨String.utf8Len l⟩ : String.Pos.Raw) ≤ ⟨String.utf8Len (l ++ m)⟩ := by
    simp [String.Pos.Raw.le_iff]
  have hv₁ := String.Pos.Raw.isValid_eq_true_iff.mpr <| isValid_of_toList_eq hl
  have hv₂ := String.Pos.Raw.isValid_eq_true_iff.mpr <| isValid_of_toList_eq h
  rw [slice, if_pos ⟨ho, hv₁, hv₂⟩, String.utf8Len_append, ← String.extract_of_valid l m r, ← h,
    String.ofList_toList]

-- Within a character no slice starts or stops.
example : slice "é" ⟨1⟩ ⟨2⟩ = .error ⟨⟨1⟩, ⟨2⟩⟩ := by
  decide

theorem rawEndPos_eq (source : String) : source.rawEndPos = ⟨String.utf8Len source.toList⟩ := by
  rw [String.utf8Len_toList]
  rfl

namespace Cursor

structure Stands (source : String) (before taken : List Char) (s : Cursor) : Prop where
  text    : source.toList = before ++ taken ++ s.rest
  start   : s.start = ⟨String.utf8Len before⟩
  current : s.current = ⟨String.utf8Len (before ++ taken)⟩
  ranOut  : s.ranOut = false

variable {before taken cs : List Char} {c : Char} {s t : Cursor}

theorem advance_eq (h : s.rest = c :: cs) :
    s.advance = (c, { s with rest := cs, current := s.current + c }) := by
  rw [advance, h]

theorem initial_stands (source : String) : Stands source [] [] (initial source) :=
  ⟨rfl, rfl, rfl, rfl⟩

namespace Stands

theorem slice_taken (h : Stands source before taken s) :
    slice source s.start s.current = .ok (String.ofList taken) := by
  rw [h.start, h.current]
  exact slice_of_toList_eq h.text

theorem slice_rest (h : Stands source before taken s) :
    slice source s.current source.rawEndPos = .ok (String.ofList s.rest) := by
  rw [h.current, rawEndPos_eq, h.text]
  exact slice_of_toList_eq <| h.text.trans (List.append_nil _).symm

-- What stands between the quotes, each of which has one byte.
theorem slice_content (h : Stands source before ('"' :: cs ++ ['"']) s) :
    slice source ⟨s.start.byteIdx + 1⟩ ⟨s.current.byteIdx - 1⟩ = .ok (String.ofList cs) := by
  have hq : '"'.utf8Size = 1 := rfl
  have hs : s.start.byteIdx + 1 = String.utf8Len (before ++ ['"']) := by
    simp [h.start, hq]
  have hc : s.current.byteIdx - 1 = String.utf8Len (before ++ ['"'] ++ cs) := by
    simp [h.current, hq]
  rw [hs, hc]
  refine slice_of_toList_eq (r := '"' :: s.rest) ?_
  simp [h.text]

theorem peekNext_eq (h : Stands source before taken s) :
    s.peekNext source = .ok (s.rest.tail.headD '\x00') := by
  rw [peekNext, h.slice_rest, Except.map, String.toList_ofList]
  rcases s.rest with _ | ⟨c, _ | ⟨d, ds⟩⟩ <;> rfl

theorem isAtEnd_iff (h : Stands source before taken s) : s.isAtEnd source ↔ s.rest = [] := by
  rw [isAtEnd, decide_eq_true_iff, h.current, rawEndPos_eq, h.text, String.Pos.Raw.le_iff,
    String.utf8Len_append _ s.rest]
  cases s.rest
  case nil       => simp
  case cons c cs =>
    have := c.utf8Size_pos
    simp
    omega

theorem agrees (h : Stands source before taken s) : s.Agrees source where
  order := by
    rw [h.start, h.current, rawEndPos_eq, h.text]
    simp [String.Pos.Raw.le_iff]
  start    := h.start ▸ isValid_of_toList_eq (h.text.trans <| List.append_assoc ..)
  current  := h.current ▸ isValid_of_toList_eq h.text
  rest     := h.slice_rest
  peekNext := h.peekNext_eq
  atEnd    := h.isAtEnd_iff
  ranOut   := by simp [h.ranOut]

-- A cursor at the same place, one that has taken a character more, and one that begins a piece there.

theorem congr (h : Stands source before taken s) (ht : t.rest = s.rest) (hs : t.start = s.start)
    (hc : t.current = s.current) (ho : t.ranOut = s.ranOut) : Stands source before taken t :=
  ⟨ht ▸ h.text, hs ▸ h.start, hc ▸ h.current, ho ▸ h.ranOut⟩

theorem take (h : Stands source before taken s) (hr : s.rest = c :: cs) (ht : t.rest = cs)
    (hs : t.start = s.start) (hc : t.current = s.current + c) (ho : t.ranOut = s.ranOut) :
    Stands source before (taken ++ [c]) t where
  text    := by simp [h.text, hr, ht]
  start   := hs.trans h.start
  current := by simp [hc, h.current, String.Pos.Raw.add_char_eq, Nat.add_assoc]
  ranOut  := ho.trans h.ranOut

theorem restart (h : Stands source before taken s) (ht : t.rest = s.rest)
    (hs : t.start = s.current) (hc : t.current = s.current) (ho : t.ranOut = s.ranOut) :
    Stands source (before ++ taken) [] t where
  text    := by rw [List.append_nil, ht, h.text]
  start   := hs.trans h.current
  current := by rw [List.append_nil, hc, h.current]
  ranOut  := ho.trans h.ranOut

theorem addToken_eq (h : Stands source before taken s) (type : TokenType)
    (literal : Option Literal) :
    s.addToken source type literal = .ok { s with
      stage  := .between
      events := s.events ++ [.token ⟨type, String.ofList taken, literal, s.startLine⟩] } := by
  rw [addToken, h.slice_taken]
  rfl

end Stands

-- A character that is looked at is told from the end of the source, whichever character it is.

theorem headD_iff (p : Char → Prop) (hp : ¬p '\x00') (cs : List Char) :
    p (cs.headD '\x00') ↔ ∃ c ∈ cs.head?, p c := by
  cases cs <;> simp [hp]

theorem Stands.loops_iff (h : Stands source before taken s) :
    s.loops source ↔ ∃ c ∈ s.rest.head?, s.stage.takes c := by
  have he := h.isAtEnd_iff
  have hd : ¬Char.isDigit '\x00' := by decide
  have hw : ¬Piece.isWordRest '\x00' := by decide
  unfold loops peek
  cases s.stage <;> cases hr : s.rest <;> simp_all [Stage.takes]

theorem Stands.matchChar_eq (h : Stands source before taken s) (expected : Char) :
    (∃ cs, s.rest = expected :: cs ∧ s.matchChar source expected = (true, s.advance.2)) ∨
    (∀ c ∈ s.rest.head?, c ≠ expected) ∧ s.matchChar source expected = (false, s) := by
  have he := h.isAtEnd_iff
  unfold matchChar peek
  cases hr : s.rest
  case nil       => exact .inr ⟨nofun, if_pos <| .inr <| he.mpr hr⟩
  case cons c cs =>
    by_cases hc : c = expected
    case pos => exact .inl ⟨cs, hc ▸ rfl, if_neg <| by simp_all⟩
    case neg => exact .inr ⟨by simpa using hc, if_pos <| .inl hc⟩

end Cursor
end LoxTokens.Scan
