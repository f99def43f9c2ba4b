import LoxTokens.Proofs.Scan.Cursor.Within

/-!
The steps of a cursor, with a lemma for each stage. Each step goes well: it does not fail, the cursor goes
on as the scan does, and it has less to do.
-/

namespace LoxTokens

open Piece PieceKind

namespace Scan.Cursor

variable {source : String} {before taken cs ds fs : List Char} {c : Char} {type : TokenType}
  {stage : Stage} {kind : PieceKind} {s : Cursor}

namespace Within

theorem proceed_lexeme (h : Within source before taken s) (hs : s.stage = .lexeme type)
    (hl : Leads ⟨.lexeme type, taken⟩ s.rest) (hn : literal? ⟨.lexeme type, taken⟩ = none) :
    Goes source s (s.proceed source) := by
  have ht := h.finish_addToken hl (by rw [hs]; rfl)
  rw [hn] at ht
  rwa [proceed, hs]

theorem proceed_comment (h : Within source before ('/' :: '/' :: cs) s) (hs : s.stage = .comment)
    (hc : '\n' ∉ cs) (hn : ∀ c ∈ s.rest.head?, ¬s.stage.takes c) :
    Goes source s (s.proceed source) := by
  rw [hs] at hn
  have hl : Leads ⟨.comment, _⟩ s.rest :=
    ⟨.allowed <| .comment hc, by simpa [Stops, Stage.takes] using hn⟩
  have hf := h.finish_counted hl (by rw [hs]; rfl)
  rw [proceed, hs]
  simpa [Cursor.enter, event?] using hf

theorem proceed_quoted (h : Within source before ('"' :: cs) s) (hs : s.stage = .quoted)
    (hc : '"' ∉ cs) (hn : ∀ c ∈ s.rest.head?, ¬s.stage.takes c) :
    Goes source s (s.proceed source) := by
  have he := h.stands.isAtEnd_iff
  have hw := h.line
  rw [hs] at hn hw
  rw [proceed, hs]
  cases hr : s.rest
  case nil =>
    have hl : Leads ⟨.openString, _⟩ s.rest := ⟨.allowed <| .openString hc, hr⟩
    have hf := h.finish_counted hl (by rw [hs]; rfl)
    rw [if_pos <| he.mpr hr]
    rw [hw]
    exact hf
  case cons c rest =>
    have hq : c = '"' := by simpa [hr, Stage.takes] using hn
    rw [if_neg <| he.not.mpr <| by simp [hr], advance_eq hr]
    subst hq
    exact h.take hr (.closed hc) <| h.line_append (by rw [hs]; rfl) (by decide)

theorem proceed_closed (h : Within source before ('"' :: cs ++ ['"']) s) (hs : s.stage = .closed)
    (hc : '"' ∉ cs) : Goes source s (s.proceed source) := by
  have hl : Leads ⟨.lexeme .string, _⟩ s.rest :=
    ⟨.allowed <| .string hc, by simp [Stops, IsWord]⟩
  have ht := h.finish_addToken hl (by rw [hs]; rfl)
  rw [proceed, hs]
  dsimp only
  rw [h.stands.slice_content]
  simpa [literal?, bind, Except.bind] using ht

theorem proceed_whole (h : Within source before taken s) (hs : s.stage = .whole)
    (hd : IsDigits taken) (hn : ∀ c ∈ s.rest.head?, ¬s.stage.takes c) :
    Goes source s (s.proceed source) := by
  have hc : s.stage.counted taken = taken := by rw [hs]; rfl
  have hw := h.line
  rw [hs] at hn
  rw [hc] at hw
  have number (hp : s.rest.head? = some '.' → ∀ d ∈ s.rest.tail.head?, ¬d.isDigit) :
      Goes source s (.ok <| s.enter .number) :=
    h.enter (.number ⟨.allowed <| .whole hd, hn, fun _ => hp⟩) hw (by simp [hs, Stage.rank])
  have hf := headD_iff (Char.isDigit ·) (by decide) s.rest.tail
  rw [proceed, hs]
  dsimp only
  split
  case isFalse hp =>
    refine number fun he => absurd ?_ hp
    exact headD_iff (· = '.') (by decide) s.rest |>.mpr ⟨_, he, rfl⟩
  case isTrue hp =>
    obtain ⟨_, hp, rfl⟩ := headD_iff (· = '.') (by decide) s.rest |>.mp hp
    obtain ⟨rest, hr⟩ := List.head?_eq_some_iff.mp hp
    rw [h.stands.peekNext_eq]
    change Goes source s (.ok <| if _ then _ else _)
    split
    case isFalse hp => exact number fun _ d he hd => hp <| hf.mpr ⟨d, he, hd⟩
    case isTrue hp  =>
      have hf := hf.mp hp
      rw [hr] at hf
      rw [advance_eq hr]
      exact h.take hr (.fraction hd (by simp) fun _ => hf) <| h.line_append hc (by decide)

theorem proceed_fraction (h : Within source before (ds ++ '.' :: fs) s) (hs : s.stage = .fraction)
    (hd : IsDigits ds) (hf : ∀ c ∈ fs, c.isDigit) (he : fs = [] → ∃ c ∈ s.rest.head?, c.isDigit)
    (hn : ∀ c ∈ s.rest.head?, ¬s.stage.takes c) : Goes source s (s.proceed source) := by
  have hw := h.line
  rw [hs] at hn hw
  have hf : IsDigits fs := by
    refine ⟨fun hf => ?_, hf⟩
    obtain ⟨c, hc, hd⟩ := he hf
    exact hn c hc hd
  have hl : Leads ⟨.lexeme .number, ds ++ '.' :: fs⟩ s.rest :=
    ⟨.allowed <| .fraction hd hf, hn, fun hp => absurd (by simp) hp⟩
  rw [proceed, hs]
  exact h.enter (.number hl) hw (by simp [hs, Stage.rank])

theorem proceed_number (h : Within source before taken s) (hs : s.stage = .number)
    (hl : Leads ⟨.lexeme .number, taken⟩ s.rest) : Goes source s (s.proceed source) := by
  have ht := h.finish_addToken hl (by rw [hs]; rfl)
  rw [proceed, hs]
  dsimp only
  rw [h.stands.slice_taken]
  simpa [literal?, bind, Except.bind] using ht

theorem proceed_word (h : Within source before taken s) (hs : s.stage = .word) (ht : IsWord taken)
    (hn : ∀ c ∈ s.rest.head?, ¬s.stage.takes c) : Goes source s (s.proceed source) := by
  rw [hs] at hn
  have ho : TokenType.OfWord taken _ := TokenType.ofWord_iff.mpr rfl
  have hl : Leads ⟨.lexeme _, taken⟩ s.rest :=
    ⟨.allowed <| .word ht ho, stops_word_iff ho |>.mpr fun _ => hn⟩
  have ht := h.finish_addToken hl (by rw [hs]; rfl)
  rw [literal?_word ho] at ht
  rw [proceed, hs]
  dsimp only
  rw [h.stands.slice_taken]
  exact ht

theorem proceed_begun (h : Within source before [] s) (hs : s.stage = .begun) (hr : s.rest ≠ []) :
    Goes source s (s.proceed source) := by
  obtain ⟨c, cs, hr⟩ := List.exists_cons_of_ne_nil hr
  have hw := h.line
  rw [hs] at hw
  rw [proceed, hs]
  dsimp only
  rw [advance_eq hr]
  exact h.take hr .first hw

-- Only when it is known what a first character starts, it may count for the lines.

theorem line_of_first (h : Within source before [c] s) (hs : s.stage = .first c) :
    s.line = s.startLine := by
  have hw := h.line
  rw [hs] at hw
  exact hw.trans <| lineAfter_nil _

theorem enter_of_first (h : Within source before [c] s) (hs : s.stage = .first c) (hc : c ≠ '\n')
    (hh : stage.Holds [c] s.rest) (hr : stage.rank < 5) : Goes source s (.ok <| s.enter stage) := by
  have hn : '\n' ∉ stage.counted [c] := by
    cases stage <;> simp [Stage.counted, hc.symm]
  exact h.enter hh (h.line_of_first hs ▸ (lineAfter_of_not_mem _ hn).symm) <| by rwa [hs]

theorem take_of_first {d : Char} (h : Within source before [c] s) (hs : s.stage = .first c)
    (hc : c ≠ '\n') (hd : d ≠ '\n') (hr : s.rest = d :: cs) (hh : stage.Holds [c, d] cs) :
    Goes source s (.ok <| s.advance.2.enter stage) := by
  have hn : '\n' ∉ stage.counted [c, d] := by
    cases stage <;> simp [Stage.counted, hc.symm, hd.symm]
  rw [advance_eq hr]
  exact h.take hr hh <| h.line_of_first hs ▸ (lineAfter_of_not_mem _ hn).symm

theorem finish_of_first (h : Within source before [c] s) (hs : s.stage = .first c) (hc : c ≠ '\n')
    (hl : Leads ⟨kind, [c]⟩ s.rest) :
    Goes source s (.ok { s with
      stage  := .between
      events := s.events ++ (event? ⟨kind, [c]⟩ s.line).toList }) := by
  have hn : '\n' ∉ [c] := by simpa using hc.symm
  have hf := h.finish hl
  have hw := h.line_of_first hs
  rw [lineAfter_of_not_mem _ hn] at hf
  rwa [hw]

theorem proceed_operator {types : TokenType × TokenType} (h : Within source before [c] s)
    (hs : s.stage = .first c) (ho : operator? c = some types) :
    let m := s.matchChar source '='
    Goes source s (.ok <| m.2.enter <| .lexeme <| if m.1 then types.2 else types.1) := by
  have hc : c ≠ '\n' := by rintro rfl; cases ho
  have hn := literal?_operator ho
  obtain ⟨cs, hr, hm⟩ | ⟨hr, hm⟩ := h.stands.matchChar_eq '='
  all_goals rw [hm]
  case inl =>
    have hl := @operator_leads c ('=' :: cs) types.1 types.2 ho
    exact h.take_of_first hs hc (by decide) hr <| .lexeme hl (hn _).right
  case inr =>
    have hl := @operator_leads c s.rest types.1 types.2 ho
    rw [operator_eq hr] at hl
    exact h.enter_of_first hs hc (.lexeme hl (hn _).left) <| by simp [Stage.rank]

theorem proceed_slash (h : Within source before ['/'] s) (hs : s.stage = .first '/') :
    let m := s.matchChar source '/'
    Goes source s (.ok <| m.2.enter <| if m.1 then .comment else .lexeme .slash) := by
  have hc : '/' ≠ '\n' := by decide
  obtain ⟨cs, hr, hm⟩ | ⟨hr, hm⟩ := h.stands.matchChar_eq '/'
  all_goals rw [hm]
  case inl => exact h.take_of_first hs hc hc hr <| .comment List.not_mem_nil
  case inr =>
    have hl := slash_leads s.rest
    rw [slash_eq hr] at hl
    exact h.enter_of_first hs hc (.lexeme hl rfl) <| by simp [Stage.rank]

theorem proceed_lineFeed (h : Within source before ['\n'] s) (hs : s.stage = .first '\n') :
    Goes source s (.ok <| { s with line := s.line + 1 }.enter .between) := by
  have hl : Leads ⟨.lineFeed, ['\n']⟩ s.rest := ⟨.allowed .lineFeed, trivial⟩
  have hf := h.finish hl
  rw [lineAfter_lineFeed] at hf
  rw [h.line_of_first hs]
  simpa [Cursor.enter, event?] using hf

theorem proceed_blank (h : Within source before [c] s) (hs : s.stage = .first c) (hb : isBlank c) :
    Goes source s (.ok <| s.enter .between) := by
  have hl : Leads ⟨.blank, [c]⟩ s.rest :=
    ⟨.allowed <| .blank <| by simpa [isBlank, or_assoc] using hb, trivial⟩
  have hf := h.finish_of_first hs (by rintro rfl; cases hb) hl
  simpa [Cursor.enter, event?] using hf

theorem proceed_first (h : Within source before [c] s) (hs : s.stage = .first c) :
    Goes source s (s.proceed source) := by
  rw [proceed, hs]
  dsimp only
  unfold dispatch
  split
  case h_1 type hp =>
    have hl := literal?_punctuator hp [c]
    refine h.enter_of_first hs ?_ (.lexeme (punctuator_leads hp) hl) <| by simp [Stage.rank]
    rintro rfl
    cases hp
  split
  case h_1 ho => exact h.proceed_operator hs ho
  split
  case isTrue hc => subst hc; exact h.proceed_slash hs
  split
  case isTrue hb => exact h.proceed_blank hs hb
  split
  case isTrue hc => subst hc; exact h.proceed_lineFeed hs
  have hc : c ≠ '\n' := by assumption
  split
  case isTrue hq =>
    subst hq
    exact h.enter_of_first hs hc (.quoted List.not_mem_nil) <| by simp [Stage.rank]
  split
  case isTrue hd =>
    have hd : IsDigits [c] := ⟨by simp, List.forall_mem_singleton.mpr hd⟩
    exact h.enter_of_first hs hc (.whole hd) <| by simp [Stage.rank]
  split
  case isTrue hw =>
    have hw : IsWord [c] := ⟨isWordStart_iff.mp hw, by simp⟩
    exact h.enter_of_first hs hc (.word hw) <| by simp [Stage.rank]
  have hl : Leads ⟨.stray c, [c]⟩ s.rest := by
    refine ⟨.stray fun _ _ ha => ?_, trivial⟩
    have := start_of_allows ha
    simp_all
  exact h.finish_of_first hs hc hl

-- Inside a piece the cursor can always go on.
theorem proceed (h : Within source before taken s) (hl : ¬s.loops source) :
    Goes source s (s.proceed source) := by
  have hn : ∀ c ∈ s.rest.head?, ¬s.stage.takes c := fun c hc ht =>
    hl <| h.stands.loops_iff.mpr ⟨c, hc, ht⟩
  have hh := h.holds
  generalize hs : s.stage = stage at hh
  cases hh
  case begun hr          => exact h.proceed_begun hs hr
  case first             => exact h.proceed_first hs
  case lexeme hv hl      => exact h.proceed_lexeme hs hl hv
  case comment hc        => exact h.proceed_comment hs hc hn
  case quoted hc         => exact h.proceed_quoted hs hc hn
  case closed hc         => exact h.proceed_closed hs hc
  case whole hd          => exact h.proceed_whole hs hd hn
  case fraction hd hf he => exact h.proceed_fraction hs hd hf he hn
  case number hl         => exact h.proceed_number hs hl
  case word hw           => exact h.proceed_word hs hw hn

end Within

-- The body of a loop inside a piece. In a string, line feeds are counted before they are taken.
theorem body_eq (hr : s.rest = c :: cs) (ht : s.stage.takes c) (hb : s.stage ≠ .between) :
    s.body = { s with rest := cs, current := s.current + c, line := lineAfter s.line [c] } := by
  unfold body
  split
  case h_1 hs => exact absurd hs hb
  case h_2 hs =>
    have hp : s.peek = c := by rw [peek, hr]; rfl
    split
    case isTrue hc =>
      obtain rfl := hp.symm.trans hc
      rw [advance_eq (s := { s with line := s.line + 1 }) hr]
      rfl
    case isFalse hc =>
      have hn : '\n' ∉ [c] := by simpa [hp, eq_comm] using hc
      rw [advance_eq hr, lineAfter_of_not_mem _ hn]
  case h_3 hq =>
    have hn : '\n' ∉ [c] := by simpa [eq_comm] using Stage.ne_lineFeed_of_takes ht hb hq
    rw [advance_eq hr, lineAfter_of_not_mem _ hn]

theorem Within.body (h : Within source before taken s) (hl : s.loops source) :
    Goes source s (.ok s.body) := by
  obtain ⟨c, hc, ht⟩ := h.stands.loops_iff.mp hl
  obtain ⟨cs, hr⟩ := List.head?_eq_some_iff.mp hc
  have hh := h.holds
  rw [hr] at hh
  rw [body_eq hr ht h.holds.ne.left]
  refine h.take hr (hh.append ht) ?_
  rw [h.line, Stage.counted_of_takes ht, Stage.counted_of_takes ht, lineAfter_append]

-- Between pieces the cursor sets out for the next one, unless it is at the end.
theorem Stands.step_between (h : Stands source before taken s) (hs : s.stage = .between)
    (ha : Awaits source s.events s.line s.rest) : Goes source s (s.step source) := by
  have hl := h.loops_iff
  unfold step
  cases hr : s.rest
  case nil =>
    rw [if_neg <| hl.not.mpr <| by simp [hr], proceed, hs]
    have hb : (s.enter .done).bound < s.bound := by simp [bound, hs, Cursor.enter, Stage.rank]
    exact ⟨_, rfl, .done (h.congr rfl rfl rfl rfl) rfl hr ha, hb, List.suffix_rfl, fun _ => hs⟩
  case cons c cs =>
    rw [if_pos <| hl.mpr ⟨c, by simp [hr], by rw [hs]; rfl⟩, body, hs]
    have ht : Within source (before ++ taken) []
        { s with start := s.current, startLine := s.line, stage := .begun } :=
      ⟨h.restart rfl rfl rfl rfl, .begun <| by simp [hr], (lineAfter_nil _).symm, ha⟩
    exact ⟨_, rfl, .within ht, .of_rank rfl (by simp [hs, Stage.rank]) (by simp)⟩

theorem Follows.step (h : Follows source s) (hd : s.stage ≠ .done) :
    Goes source s (s.step source) := by
  cases h
  case between hs hb ha => exact hs.step_between hb ha
  case done hb _ _      => exact absurd hb hd
  case within h         =>
    unfold Cursor.step
    split
    case isTrue hl  => exact h.body hl
    case isFalse hl => exact h.proceed hl

theorem initial_follows (source : String) : Follows source (initial source) :=
  .between (initial_stands source) rfl ⟨rfl, rfl⟩

end Scan.Cursor
end LoxTokens
