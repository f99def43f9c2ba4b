import LoxTokens.Proofs.Piece.Read

/-!
The cut of a source by longest match. At each place the longest text that fits any kind is taken,
or a single character where none does. There is exactly one such cut, and it is the one that
reading yields.
-/

namespace LoxTokens.Piece

open PieceKind TokenType

-- The piece can stand in front of the rest of a source. An open string leaves none.
structure Fits (p : Piece) (rest : List Char) : Prop where
  allows : p.kind.Allows p.text
  whole  : p.kind = .openString → rest = []

inductive Longest : Piece → List Char → Prop
  | longest : Fits p rest →
      (∀ q after, q.text ++ after = p.text ++ rest → Fits q after → q.text.length ≤ p.text.length) →
      Longest p rest
  | stray : (∀ q after, q.text ++ after = c :: rest → ¬Fits q after) → Longest ⟨.stray c, [c]⟩ rest

inductive LongestCut : List Char → List Piece → Prop
  | nil  : LongestCut [] []
  | cons : Longest p rest → LongestCut rest ps → LongestCut (p.text ++ rest) (p :: ps)

variable {c : Char} {cs rest : List Char} {p : Piece} {ps : List Piece}

theorem length_le_takeWhile_append {q : Char → Bool} (h : ∀ c ∈ cs, q c) :
    cs.length ≤ ((cs ++ rest).takeWhile q).length := by
  simp [List.takeWhile_append_of_pos h]

theorem number_length_le :
    (cs.takeWhile Char.isDigit).length + 1 ≤ (number c cs).1.text.length := by
  unfold number
  repeat' split
  all_goals simp

-- No other piece that fits is longer than the one that is read.
theorem Fits.length_le_read (h : p.Fits rest) (he : p.text ++ rest = c :: cs) :
    p.text.length ≤ (read c cs).1.text.length := by
  obtain ⟨kind, text⟩ := p
  obtain ⟨h, ho⟩ := h
  dsimp only at h ho he ⊢
  have single (ht : text.length = 1) : text.length ≤ (read c cs).1.text.length :=
    ht ▸ List.length_pos_iff.mpr (read_text_ne_nil c cs)
  -- What stops before the rest is itself the piece that is read.
  have same (hs : Stops ⟨kind, text⟩ rest) : text.length ≤ (read c cs).1.text.length := by
    simp [read_of_allows h hs he]
  cases h
  case symbol type h =>
    have : ∀ e ∈ symbols, e.1.length = 1 ∨
        e.2 ∈ [bangEqual, equalEqual, lessEqual, greaterEqual] ∧ ¬IsWord e.1 := by
      decide
    cases this _ h
    case inl h => exact single h
    case inr h =>
      obtain ⟨ht, hw⟩ := h
      simp only [List.mem_cons, List.not_mem_nil, or_false] at ht
      rcases ht with rfl | rfl | rfl | rfl <;> exact same fun h => absurd h hw
  case comment ds h =>
    cases he
    have hd := decide_ne_of_not_mem h
    simpa [read, punctuator?, operator?, slash] using length_le_takeWhile_append hd
  case blank | lineFeed => exact single rfl
  case string           => exact same <| by simp [Stops, IsWord]
  case openString       => exact same <| ho rfl
  case whole h =>
    obtain ⟨d, ds, rfl⟩ := List.exists_cons_of_ne_nil h.1
    obtain ⟨hd, hds⟩ := List.forall_mem_cons.mp h.2
    cases he
    rw [read_digit hd]
    exact Nat.le_trans (Nat.succ_le_succ <| length_le_takeWhile_append hds) number_length_le
  case fraction h hf =>
    obtain ⟨d, ds, rfl⟩ := List.exists_cons_of_ne_nil h.1
    obtain ⟨f, fs, rfl⟩ := List.exists_cons_of_ne_nil hf.1
    obtain ⟨hd, hds⟩ := List.forall_mem_cons.mp h.2
    obtain ⟨hf, hfs⟩ := List.forall_mem_cons.mp hf.2
    simp at he
    obtain ⟨rfl, rfl⟩ := he
    rw [read_digit hd, number_append_fraction hds hf]
    simpa using length_le_takeWhile_append hfs
  case word h ht =>
    obtain ⟨d, ds, rfl⟩ := List.exists_cons_of_ne_nil <| show text ≠ [] by rintro rfl; exact h
    cases he
    rw [read_wordStart <| isWordStart_iff.mpr h.1]
    simpa [word] using length_le_takeWhile_append (q := isWordRest) (isWordRest_iff.mpr <| h.2 · ·)

theorem Leads.fits (h : p.Leads rest) (hk : p.kind.Allows p.text) : p.Fits rest where
  allows := hk
  whole  := by
    intro ho
    have := h.stops
    rwa [Stops, ho] at this

theorem Leads.longest (h : p.Leads rest) : Longest p rest := by
  cases h.shape
  case allowed hk =>
    refine .longest (h.fits hk) fun q after he hq => ?_
    obtain ⟨c, cs, hc⟩ := List.exists_cons_of_ne_nil <| show p.text ++ rest ≠ [] by
      simp [h.shape.text_ne_nil]
    have := hq.length_le_read (he.trans hc)
    rwa [h.read_eq hc] at this
  case stray hs =>
    refine .stray fun q after he hq => ?_
    obtain ⟨d, ds, hd⟩ := List.exists_cons_of_ne_nil <| ne_nil_of_allows hq.allows
    rw [hd] at he
    cases he
    exact hs _ _ <| hd ▸ hq.allows

-- A kind is determined by its text.
theorem eq_of_allows {kind₁ kind₂ : PieceKind} {text : List Char}
    (h₁ : kind₁.Allows text) (h₂ : kind₂.Allows text) : kind₁ = kind₂ := by
  obtain ⟨c, cs, rfl⟩ := List.exists_cons_of_ne_nil <| ne_nil_of_allows h₁
  have h₁ := read_of_allows h₁ (stops_nil _) (List.append_nil _)
  have h₂ := read_of_allows h₂ (stops_nil _) (List.append_nil _)
  simpa using h₁.symm.trans h₂

theorem Longest.unique {p₁ p₂ : Piece} {rest₁ rest₂ : List Char} (h₁ : Longest p₁ rest₁)
    (h₂ : Longest p₂ rest₂) (h : p₁.text ++ rest₁ = p₂.text ++ rest₂) :
    p₁ = p₂ ∧ rest₁ = rest₂ := by
  cases h₁ <;> cases h₂
  case longest.longest hf₁ hm₁ hf₂ hm₂ =>
    have hl := Nat.le_antisymm (hm₂ _ _ h hf₁) (hm₁ _ _ h.symm hf₂)
    have ⟨ht, hr⟩ := List.append_inj h hl
    have hk := eq_of_allows hf₁.allows (ht ▸ hf₂.allows)
    cases p₁
    cases p₂
    simp_all
  case longest.stray hf _ _ hs => exact absurd hf <| hs _ _ h
  case stray.longest hs hf _   => exact absurd hf <| hs _ _ h.symm
  case stray.stray             => simp_all

theorem Longest.text_ne_nil (h : Longest p rest) : p.text ≠ [] := by
  cases h
  case longest h _ => exact ne_nil_of_allows h.allows
  case stray       => simp

theorem Longest.leads (h : Longest p rest) : p.Leads rest := by
  have ⟨c, cs, hc⟩ := List.exists_cons_of_ne_nil <| show p.text ++ rest ≠ [] by
    simp [h.text_ne_nil]
  have hl := read_leads c cs
  have ⟨hp, hr⟩ := h.unique hl.longest <| hc.trans (read_append c cs).symm
  exact hp ▸ hr ▸ hl

theorem longestCut_cut (cs : List Char) : LongestCut cs (cut cs) := by
  induction cs using cut_induction
  case nil => rw [cut]; exact .nil
  case cons h hi => rw [cut_append h]; exact .cons h.longest hi

theorem LongestCut.eq_cut (h : LongestCut cs ps) : ps = cut cs := by
  induction h
  case nil => rw [cut]
  case cons h _ hi => rw [cut_append h.leads, hi]

theorem LongestCut.flatMap_text (h : LongestCut cs ps) : ps.flatMap text = cs :=
  h.eq_cut ▸ flatMap_text_cut cs

theorem LongestCut.text_ne_nil (h : LongestCut cs ps) : ∀ p ∈ ps, p.text ≠ [] := by
  induction h
  case nil         => simp
  case cons h _ hi => exact List.forall_mem_cons.mpr ⟨h.text_ne_nil, hi⟩

end LoxTokens.Piece
