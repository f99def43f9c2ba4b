import LoxTokens.Proofs.Scan.Events

/-!
The records of a scan. They are made of its events, between a record that opens the scan and one
that closes it, and the filter only chooses among them.
-/

namespace LoxTokens

namespace Log

def Filter.keep (filter : Filter) (rs : List Record) : List Record :=
  rs.filter (filter.allows ·.level)

theorem Filter.keep_append (filter : Filter) (rs rs' : List Record) :
    filter.keep (rs ++ rs') = filter.keep rs ++ filter.keep rs' :=
  List.filter_append ..

theorem toList_add (log : Log) (filter : Filter) (level : Level) (target : String)
    (message : Unit → String) :
    (log.add filter level target message).toList =
      log.toList ++ filter.keep [⟨level, target, message ()⟩] := by
  unfold add
  split <;> simp_all [Filter.keep]

end Log

def ScanEvent.record : ScanEvent → Log.Record
  | token t => ⟨.trace, Scan.target, t.inspect⟩
  | error e => ⟨.debug, Scan.target, e.inspect⟩

namespace Scan

namespace State

variable {σ : Type u} {filter : Log.Filter} {report : σ → Diagnostic → σ}

theorem step_log (s : State σ) (p : Piece) :
    (s.step filter report p).log.toList =
      s.log.toList ++ filter.keep ((p.event? s.line).toList.map ScanEvent.record) := by
  unfold step
  cases p.event? s.line
  case none   => simp [Log.Filter.keep]
  case some e => cases e <;> exact Log.toList_add ..

theorem foldl_step_log (s : State σ) (ps : List Piece) :
    (ps.foldl (step filter report) s).log.toList =
      s.log.toList ++ filter.keep ((events s.line ps).map ScanEvent.record) := by
  induction ps generalizing s
  case nil     => simp [events, Log.Filter.keep]
  case cons hi => simp [hi, events, step_line, step_log, Log.Filter.keep_append]

end State

-- The records of a source, from which a filter chooses.
def recordsOf (source : String) : List Log.Record :=
  let bytes := toString source.utf8ByteSize
  let count := toString (scan source).tokens.length
  [⟨.debug, target, "==== Scan " ++ bytes ++ " bytes ===="⟩] ++
  (eventsOf source).map ScanEvent.record ++
  [⟨.debug, target, "==== Scanned " ++ count ++ " tokens ===="⟩]

theorem level_ne_error_of_mem_recordsOf {source : String} {r : Log.Record}
    (h : r ∈ recordsOf source) : r.level ≠ .error := by
  simp only [recordsOf, List.mem_append, List.mem_singleton, List.mem_map] at h
  obtain (rfl | ⟨e, _, rfl⟩) | rfl := h
  case inl.inr => cases e <;> nofun
  all_goals nofun

theorem toList_run_log {σ : Type u} (filter : Log.Filter) (report : σ → Diagnostic → σ) (sink : σ)
    (log : Log) (source : String) :
    (run filter report sink log source).log.toList = log.toList ++ filter.keep (recordsOf source) := by
  have hn : (run filter report sink log source).tokens.size = (scan source).tokens.length := by
    rw [← Array.length_toList, toList_run_tokens, scan_tokens]
  simp only [run, Piece.foldSource_eq_foldl, Log.toList_add] at hn ⊢
  rw [hn, State.close]
  simp only [State.foldl_step_log, State.start, Log.toList_add]
  simp only [recordsOf, eventsOf, Log.Filter.keep_append, List.append_assoc]

end Scan

theorem scanLog_eq (filter : Log.Filter) (source : String) :
    scanLog filter source = filter.keep (Scan.recordsOf source) := by
  simp [scanLog, Scan.toList_run_log]

end LoxTokens
