import LoxTokens.Proofs.Piece.Read
import LoxTokens.Scan

/-!
The events of a scan. They come from the pieces of the source, one by one, and depend on nothing
but the line that the scan starts on. What a scan yields is made of its events.
-/

namespace LoxTokens

namespace ScanEvent

def line : ScanEvent → UInt32
  | token t => t.line
  | error e => e.line

@[simp]
def token? : ScanEvent → Option Token
  | token t => some t
  | error _ => none

@[simp]
def error? : ScanEvent → Option LexicalError
  | token _ => none
  | error e => some e

end ScanEvent

namespace Scan

-- The line on which a text ends that starts on the given line.
def lineAfter (line : UInt32) (text : List Char) : UInt32 :=
  line + UInt32.ofNat (text.count '\n')

@[simp]
theorem lineAfter_nil (line : UInt32) : lineAfter line [] = line := by
  simp [lineAfter]

theorem lineAfter_append (line : UInt32) (cs ds : List Char) :
    lineAfter line (cs ++ ds) = lineAfter (lineAfter line cs) ds := by
  simp [lineAfter, UInt32.ofNat_add, UInt32.add_assoc]

theorem lineAfter_lineFeed (line : UInt32) : lineAfter line ['\n'] = line + 1 :=
  rfl

theorem lineAfter_of_not_mem {text : List Char} (line : UInt32) (h : '\n' ∉ text) :
    lineAfter line text = line := by
  simp [lineAfter, List.count_eq_zero_of_not_mem h]

theorem toNat_lineAfter {line : UInt32} {text : List Char}
    (h : line.toNat + text.count '\n' < UInt32.size) :
    (lineAfter line text).toNat = line.toNat + text.count '\n' := by
  rw [UInt32.size] at h
  rw [lineAfter, UInt32.toNat_add, UInt32.toNat_ofNat']
  omega

-- The events of pieces of which the first starts on the given line.
def events (line : UInt32) : List Piece → List ScanEvent
  | []      => []
  | p :: ps => (p.event? line).toList ++ events (lineAfter line p.text) ps

theorem events_append (line : UInt32) (ps qs : List Piece) :
    events line (ps ++ qs) =
      events line ps ++ events (lineAfter line <| ps.flatMap Piece.text) qs := by
  induction ps generalizing line
  case nil     => simp [events]
  case cons hi => simp [events, hi, lineAfter_append]

theorem exists_events_of_mem {p : Piece} {ps : List Piece} (line : UInt32) (h : p ∈ ps) :
    ∃ line', ∀ e ∈ p.event? line', e ∈ events line ps := by
  induction ps generalizing line
  case nil => cases h
  case cons q qs hi =>
    cases h
    case head   => exact ⟨line, fun e he => List.mem_append_left _ <| Option.mem_toList.mpr he⟩
    case tail h =>
      have ⟨line', h'⟩ := hi (lineAfter line q.text) h
      exact ⟨line', fun e he => List.mem_append_right _ <| h' e he⟩

theorem exists_piece_of_mem_events {line : UInt32} {ps : List Piece} {e : ScanEvent}
    (h : e ∈ events line ps) : ∃ p ∈ ps, ∃ line', e ∈ p.event? line' := by
  induction ps generalizing line
  case nil => cases h
  case cons p ps hi =>
    cases List.mem_append.mp h
    case inl h => exact ⟨p, List.mem_cons_self, line, Option.mem_toList.mp h⟩
    case inr h =>
      have ⟨q, hq, h⟩ := hi h
      exact ⟨q, List.mem_cons_of_mem p hq, h⟩

theorem line_eq_of_mem_event? {p : Piece} {line : UInt32} {e : ScanEvent} (h : e ∈ p.event? line) :
    e.line = line ∨ e.line = lineAfter line p.text := by
  unfold Piece.event? at h
  split at h <;> cases h
  case h_2 => exact .inr rfl
  all_goals exact .inl rfl

-- The lines of events lie within the source.
theorem line_le_of_mem_events {line : UInt32} {ps : List Piece} {e : ScanEvent}
    (h : line.toNat + (ps.flatMap Piece.text).count '\n' < UInt32.size) (he : e ∈ events line ps) :
    e.line.toNat ≤ line.toNat + (ps.flatMap Piece.text).count '\n' := by
  induction ps generalizing line
  case nil => cases he
  case cons p ps hi =>
    simp only [List.flatMap_cons, List.count_append] at h ⊢
    have hl : (lineAfter line p.text).toNat = _ := toNat_lineAfter (by omega)
    cases List.mem_append.mp he
    case inl he =>
      cases line_eq_of_mem_event? <| Option.mem_toList.mp he
      all_goals rw [‹e.line = _›]; omega
    case inr he =>
      have := hi (by omega) he
      omega

namespace State

variable {σ : Type u} {filter : Log.Filter} {report : σ → Diagnostic → σ}

theorem step_line (s : State σ) (p : Piece) :
    (s.step filter report p).line = lineAfter s.line p.text := by
  unfold step
  cases p.event? s.line
  case none   => rfl
  case some e => cases e <;> rfl

theorem step_tokens (s : State σ) (p : Piece) :
    (s.step filter report p).tokens.toList =
      s.tokens.toList ++ (p.event? s.line).toList.filterMap ScanEvent.token? := by
  unfold step
  cases p.event? s.line
  case none   => simp
  case some e => cases e <;> simp [record, emit]

theorem step_sink (s : State σ) (p : Piece) :
    (s.step filter report p).sink =
      ((p.event? s.line).toList.filterMap ScanEvent.error?).foldl
        (report · <| LexicalError.diagnostic ·) s.sink := by
  unfold step
  cases p.event? s.line
  case none   => rfl
  case some e => cases e <;> rfl

theorem foldl_step_line (s : State σ) (ps : List Piece) :
    (ps.foldl (step filter report) s).line = lineAfter s.line (ps.flatMap Piece.text) := by
  induction ps generalizing s
  case nil     => simp
  case cons hi => simp [hi, step_line, lineAfter_append]

theorem foldl_step_tokens (s : State σ) (ps : List Piece) :
    (ps.foldl (step filter report) s).tokens.toList =
      s.tokens.toList ++ (events s.line ps).filterMap ScanEvent.token? := by
  induction ps generalizing s
  case nil     => simp [events]
  case cons hi => simp [hi, events, step_line, step_tokens]

theorem foldl_step_sink (s : State σ) (ps : List Piece) :
    (ps.foldl (step filter report) s).sink =
      ((events s.line ps).filterMap ScanEvent.error?).foldl
        (report · <| LexicalError.diagnostic ·) s.sink := by
  induction ps generalizing s
  case nil     => simp [events]
  case cons hi => simp [hi, events, step_line, step_sink]

end State

-- The events of a source, the tokens among them and the errors.

def eventsOf (source : String) : List ScanEvent :=
  events 1 <| Piece.cut source.toList

def tokensOf (source : String) : List Token :=
  (eventsOf source).filterMap ScanEvent.token?

def errorsOf (source : String) : List LexicalError :=
  (eventsOf source).filterMap ScanEvent.error?

section

variable {σ : Type u} (filter : Log.Filter) (report : σ → Diagnostic → σ) (sink : σ) (log : Log)
  (source : String)

-- The tokens do not depend on the sink, which is only added to.

theorem toList_run_tokens :
    (run filter report sink log source).tokens.toList =
      tokensOf source ++ [.eof <| lineAfter 1 source.toList] := by
  simp only [run, Piece.foldSource_eq_foldl, State.close, Array.toList_push]
  rw [State.foldl_step_tokens, State.foldl_step_line]
  simp [State.start, Piece.flatMap_text_cut, tokensOf, eventsOf]

theorem run_sink :
    (run filter report sink log source).sink =
      (errorsOf source).foldl (report · <| LexicalError.diagnostic ·) sink := by
  simp only [run, Piece.foldSource_eq_foldl, State.close]
  rw [State.foldl_step_sink]
  rfl

theorem into_eq :
    into report sink source = (
      tokensOf source ++ [.eof <| lineAfter 1 source.toList],
      (errorsOf source).foldl (report · <| LexicalError.diagnostic ·) sink) := by
  simp [into, toList_run_tokens, run_sink]

end

end Scan

theorem scan_tokens (source : String) :
    (scan source).tokens = Scan.tokensOf source ++ [.eof <| Scan.lineAfter 1 source.toList] := by
  simp [scan, Scan.into_eq]

theorem toList_foldl_report (ds : Diagnostics) (es : List LexicalError) :
    (es.foldl (fun ds e => ds.report e.diagnostic) ds).toList =
      ds.toList ++ es.map LexicalError.diagnostic := by
  induction es generalizing ds
  case nil     => simp
  case cons hi => simp [hi]

theorem toList_scan_diagnostics (source : String) :
    (scan source).diagnostics.toList = (Scan.errorsOf source).map LexicalError.diagnostic := by
  simp [scan, Scan.into_eq, toList_foldl_report]

theorem line_le_of_mem_scan_tokens {source : String} {t : Token}
    (h : source.toList.count '\n' < UInt32.size - 1) (ht : t ∈ (scan source).tokens) :
    t.line.toNat ≤ 1 + source.toList.count '\n' := by
  have hc := Piece.flatMap_text_cut source.toList
  have h₁ : (1 : UInt32).toNat = 1 := rfl
  rw [scan_tokens] at ht
  cases List.mem_append.mp ht
  case inl ht =>
    have ⟨e, he, het⟩ := List.mem_filterMap.mp ht
    have := Scan.line_le_of_mem_events (by rw [hc]; omega) he
    cases e <;> cases het
    rwa [hc, h₁] at this
  case inr ht =>
    cases List.mem_singleton.mp ht
    exact Nat.le_of_eq <| Scan.toNat_lineAfter <| by omega

theorem line_le_of_mem_scan_diagnostics {source : String} {d : Diagnostic}
    (h : source.toList.count '\n' < UInt32.size - 1) (hd : d ∈ (scan source).diagnostics.toList) :
    d.line.toNat ≤ 1 + source.toList.count '\n' := by
  have hc := Piece.flatMap_text_cut source.toList
  have h₁ : (1 : UInt32).toNat = 1 := rfl
  rw [toList_scan_diagnostics] at hd
  obtain ⟨e, he, rfl⟩ := List.mem_map.mp hd
  have ⟨e', he', hee⟩ := List.mem_filterMap.mp he
  have := Scan.line_le_of_mem_events (by rw [hc]; omega) he'
  cases e' <;> cases hee
  rwa [hc, h₁] at this

end LoxTokens
