import LoxTokens.Proofs.Scan.Cursor.Steps

/-!
The cursors that a scan reaches. What holds of the first one and is kept by each step holds of all, so
both of their places agree and no step fails. Each piece takes a character, so the scan comes to an end,
and by then it has made all of its tokens and reports.
-/

namespace LoxTokens

universe u

namespace Scan.Cursor

variable {source : String} {s t : Cursor}

namespace Next

theorem eq_of_done (h : Next source s t) (hd : s.stage = .done) : t = s := by
  simpa [Next, step, loops, proceed, hd, eq_comm] using h

theorem rightUnique (source : String) : Relator.RightUnique (Next source) :=
  fun _ _ _ h₁ h₂ => Except.ok.inj <| h₁.symm.trans h₂

theorem exists_rest_of_begun (h : Next source s t) (hb : s.stage = .begun) (hr : s.rest ≠ []) :
    ∃ c, s.rest = c :: t.rest := by
  obtain ⟨c, cs, hr⟩ := List.exists_cons_of_ne_nil hr
  refine ⟨c, ?_⟩
  simp only [Next, step, loops, proceed, hb, advance_eq hr] at h
  cases h
  exact hr

end Next

theorem Steps.eq_of_done (h : Steps source s t) (hd : s.stage = .done) : t = s := by
  induction h
  case refl        => rfl
  case tail hn hi => exact hi ▸ hn.eq_of_done (hi ▸ hd)

namespace Follows

theorem exists_stands (h : Follows source s) : ∃ before taken, Stands source before taken s := by
  cases h
  case between hs _ _ => exact ⟨_, _, hs⟩
  case within h       => exact ⟨_, _, h.stands⟩
  case done hs _ _ _  => exact ⟨_, _, hs⟩

theorem rest_ne_nil (h : Follows source s) (hb : s.stage = .begun) : s.rest ≠ [] := by
  cases h
  case between hs _ => cases hs.symm.trans hb
  case done hs _ _  => cases hs.symm.trans hb
  case within h     =>
    have hh := h.holds
    rw [hb] at hh
    cases hh
    assumption

theorem next (h : Follows source s) (hn : Next source s t) : Follows source t ∧ t.rest <:+ s.rest := by
  by_cases hd : s.stage = .done
  case pos =>
    obtain rfl := hn.eq_of_done hd
    exact ⟨h, List.suffix_rfl⟩
  case neg =>
    obtain ⟨u, hu, hf, ho⟩ := h.step hd
    cases hu.symm.trans hn
    exact ⟨hf, ho.rest⟩

theorem steps (h : Follows source s) (hs : Steps source s t) :
    Follows source t ∧ t.rest <:+ s.rest := by
  induction hs
  case refl       => exact ⟨h, List.suffix_rfl⟩
  case tail hn hi => exact (hi.left.next hn).imp_right (·.trans hi.right)

-- Each step leaves fewer of them to do, so the scan ends, and so does each of its pieces.

theorem exists_done {s : Cursor} (h : Follows source s) :
    ∃ t, Steps source s t ∧ t.stage = .done := by
  by_cases hd : s.stage = .done
  case pos => exact ⟨s, .refl, hd⟩
  case neg =>
    have ⟨t, hn, hf, ho⟩ := h.step hd
    have ⟨last, hs, hd⟩ := hf.exists_done
    exact ⟨last, .head hn hs, hd⟩
termination_by s.bound
decreasing_by exact ho.bound

theorem exists_between {s : Cursor} (h : Follows source s) (hd : s.stage ≠ .done) :
    ∃ t, Steps source s t ∧ t.stage = .between := by
  by_cases hb : s.stage = .between
  case pos => exact ⟨s, .refl, hb⟩
  case neg =>
    have ⟨t, hn, hf, ho⟩ := h.step hd
    have ⟨last, hs, hl⟩ := hf.exists_between fun ht => hb <| ho.done ht
    exact ⟨last, .head hn hs, hl⟩
termination_by s.bound
decreasing_by exact ho.bound

theorem exists_rest_of_piece (h : Follows source s) (hb : s.stage = .begun)
    (hs : Steps source s t) (ht : t.stage = .between) : ∃ c cs, s.rest = c :: cs ++ t.rest := by
  obtain rfl | ⟨u, hn, hs⟩ := hs.cases_head
  case inl => cases hb.symm.trans ht
  case inr =>
    have ⟨c, hc⟩ := hn.exists_rest_of_begun hb <| h.rest_ne_nil hb
    have ⟨cs, hu⟩ := ((h.next hn).left.steps hs).right
    exact ⟨c, cs, by rw [hc, ← hu]; rfl⟩

theorem of_done (h : Follows source s) (hd : s.stage = .done) :
    s.rest = [] ∧ s.events = eventsOf source ∧ s.line = lineAfter 1 source.toList := by
  cases h
  case between hs _  => cases hs.symm.trans hd
  case within h      => exact absurd hd h.holds.ne.right
  case done _ hr ha  =>
    rw [hr] at ha
    have he : s.events ++ Scan.events s.line [] = eventsOf source := by simpa [Piece.cut] using ha.events
    exact ⟨hr, (List.append_nil _).symm.trans he, (lineAfter_nil _).symm.trans ha.line⟩

end Follows

theorem Reached.follows (h : Reached source s) : Follows source s :=
  ((initial_follows source).steps h).left

-- However far a scan has come, it comes to the one end.
theorem exists_end (source : String) :
    ∃ last, last.stage = .done ∧ Reached source last ∧
      ∀ s, Reached source s → Steps source s last := by
  have ⟨last, hl, hd⟩ := (initial_follows source).exists_done
  refine ⟨last, hd, hl, fun s hs => ?_⟩
  cases hs.total_of_right_unique (Next.rightUnique source) hl
  case inl h => exact h
  case inr h => exact Steps.eq_of_done h hd ▸ .refl

end Scan.Cursor

open Scan Cursor

theorem scan_by_cursor (source : String) :
    -- both places of the cursor agree, and what stands for the end was never taken
    (∀ s, Reached source s → s.Agrees source) ∧
    -- no slice fails, and fewer steps are left after each step
    (∀ s, Reached source s → s.stage ≠ .done → ∃ t, s.step source = .ok t ∧ t.bound < s.bound) ∧
    -- a loop goes on as long as the next character is one that it takes, and U+0000 is taken by each
    -- loop that does not ask for digits or for the rest of a word
    (∀ s, Reached source s → (s.loops source ↔ ∃ c ∈ s.rest.head?, s.stage.takes c)) ∧
    (∀ stage ∈ [Stage.between, .comment, .quoted], stage.takes '\x00') ∧
    -- a piece that is begun comes to its end, and takes a character at least
    (∀ s, Reached source s → s.stage = .begun →
      (∃ t, Steps source s t ∧ t.stage = .between) ∧
      ∀ t, Steps source s t → t.stage = .between → ∃ c cs, s.rest = c :: cs ++ t.rest) ∧
    -- the scan comes to its end, where all is taken and what it yields is made
    ∃ last, last.stage = .done ∧ last.rest = [] ∧ Reached source last ∧
      (∀ s, Reached source s → Steps source s last) ∧
      ∀ (σ : Type u) (report : σ → Diagnostic → σ) sink, into report sink source = (
        last.events.filterMap ScanEvent.token? ++ [.eof last.line],
        (last.events.filterMap ScanEvent.error?).foldl (report · <| LexicalError.diagnostic ·) sink) := by
  refine ⟨fun s hs => ?agrees, fun s hs hd => ?step, fun s hs => ?loops, ?takes,
    fun s hs hb => ?piece, ?ends⟩
  case agrees =>
    have ⟨_, _, h⟩ := hs.follows.exists_stands
    exact h.agrees
  case step =>
    have ⟨t, ht, _, ho⟩ := hs.follows.step hd
    exact ⟨t, ht, ho.bound⟩
  case loops =>
    have ⟨_, _, h⟩ := hs.follows.exists_stands
    exact h.loops_iff
  case takes => decide
  case piece =>
    have hd : s.stage ≠ .done := by simp [hb]
    exact ⟨hs.follows.exists_between hd, fun _ => hs.follows.exists_rest_of_piece hb⟩
  case ends =>
    have ⟨last, hd, hl, hs⟩ := exists_end source
    have ⟨hr, he, hn⟩ := hl.follows.of_done hd
    refine ⟨last, hd, hr, hl, hs, fun σ report sink => ?_⟩
    rw [into_eq, he, hn]
    rfl

-- A character of two bytes and U+0000 are pieces by themselves, each after three steps.
example :
    (List.replicate 6 "é\x00").foldlM (fun s source => step source s) (initial "é\x00") = .ok {
      stage     := .between
      rest      := []
      start     := ⟨2⟩
      current   := ⟨3⟩
      startLine := 1
      line      := 1
      events    := [.error (.unexpectedCharacter 1 'é'), .error (.unexpectedCharacter 1 '\x00')]
      ranOut    := false } := by
  cbv

end LoxTokens
