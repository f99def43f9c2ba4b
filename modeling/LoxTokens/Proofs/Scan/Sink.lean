import LoxTokens.Proofs.Scan.Events

/-!
The sinks of a scan. A scan never reads its sink, so a map between sinks that fits with each report
fits with the whole scan, of which all else is the same. A scan into any sink is therefore the scan
into a collector whose reports are handed on afterwards.
-/

namespace LoxTokens

universe u v

namespace Scan

-- The same state of a scan into another sink.
def State.map {σ : Type u} {τ : Type v} (f : σ → τ) (s : State σ) : State τ where
  sink   := f s.sink
  tokens := s.tokens
  log    := s.log
  line   := s.line

section

variable {σ : Type u} {τ : Type v} {report₁ : σ → Diagnostic → σ} {report₂ : τ → Diagnostic → τ}
  {f : σ → τ} (h : ∀ s d, f (report₁ s d) = report₂ (f s) d) (filter : Log.Filter)

include h

theorem State.map_step (s : State σ) (p : Piece) :
    (s.step filter report₁ p).map f = (s.map f).step filter report₂ p := by
  unfold step
  cases he : p.event? s.line
  case none   => simp [State.map, he]
  case some e => cases e <;> simp [State.map, record, emit, h, he]

theorem State.map_foldl_step (s : State σ) (ps : List Piece) :
    (ps.foldl (step filter report₁) s).map f = ps.foldl (step filter report₂) (s.map f) := by
  induction ps generalizing s
  case nil          => rfl
  case cons p ps hi => rw [List.foldl_cons, List.foldl_cons, hi, map_step h]

theorem map_run (sink : σ) (log : Log) (source : String) :
    (run filter report₁ sink log source).map f = run filter report₂ (f sink) log source := by
  have hs (log : Log) : State.start (f sink) log = (State.start sink log).map f := rfl
  simp only [run, Piece.foldSource_eq_foldl, hs, ← State.map_foldl_step h]
  rfl

end

end Scan

theorem scan_into_sink {σ : Type u} (report : σ → Diagnostic → σ) (sink : σ) (source : String) :
    let replay := fun ds : Diagnostics => ds.toList.foldl report sink
    Scan.into report sink source = ((scan source).tokens, replay (scan source).diagnostics) ∧
    ∀ filter log, Scan.run filter report sink log source =
      (Scan.run filter Diagnostics.report .empty log source).map replay := by
  intro replay
  have h (filter : Log.Filter) (log : Log) : Scan.run filter report sink log source =
      (Scan.run filter Diagnostics.report .empty log source).map replay := by
    have hr (ds : Diagnostics) (d : Diagnostic) : replay (ds.report d) = report (replay ds) d := by
      simp [replay]
    exact Scan.map_run hr filter .empty log source |>.symm
  refine ⟨?_, h⟩
  rw [Scan.into, h]
  rfl

-- A sink that keeps nothing but lines.
example : (Scan.into (fun lines d => lines ++ [d.line]) [] "#\n\n$ ok\n\"open").2 = [1, 3, 4] := by
  decide +kernel

end LoxTokens
