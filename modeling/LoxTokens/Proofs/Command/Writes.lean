import LoxTokens.Command.Run
import LoxTokens.Proofs.Scan.Log

/-!
What the command writes for a text: the records of the scan, then the listing of the tokens, then
the reports. With an empty collector nothing else is written, whatever was written before.
-/

namespace LoxTokens

open Command

-- A log and a collector of its own make no difference to a scan.

theorem toList_run_tokens_eq_scan (filter : Log.Filter) (ds : Diagnostics) (log : Log)
    (source : String) :
    (Scan.run filter Diagnostics.report ds log source).tokens.toList = (scan source).tokens := by
  rw [Scan.toList_run_tokens, scan_tokens]

theorem run_sink_eq_scan (filter : Log.Filter) (log : Log) (source : String) :
    (Scan.run filter Diagnostics.report .empty log source).sink = (scan source).diagnostics := by
  simp [Scan.run_sink, scan, Scan.into_eq]

namespace Command

def Options.listing (options : Options) (source : String) : List String :=
  if options.quiet then [] else (scan source).tokens.map Token.text

def reports (filter : Log.Filter) (ds : List Diagnostic) : List Log.Record :=
  filter.keep <| ds.map fun d => ⟨.error, target, d.text⟩

def writesOf (options : Options) (filter : Log.Filter) (source : String) : List Write :=
  (scanLog filter source).map .log ++
  (options.listing source).map .print ++
  (reports filter (scan source).diagnostics.toList).map .log

theorem toList_writes_add (out : Output) (filter : Log.Filter) (level : Log.Level)
    (message : String) :
    (out.add filter level message).writes.toList =
      out.writes.toList ++ (filter.keep [⟨level, target, message⟩]).map .log := by
  simp [Output.add, Output.append, Log.toList_add]

theorem toList_writes_foldl_add (out : Output) (filter : Log.Filter) (ds : List Diagnostic) :
    (ds.foldl (fun out d => out.add filter .error d.text) out).writes.toList =
      out.writes.toList ++ (reports filter ds).map .log := by
  induction ds generalizing out
  case nil => simp [reports, Log.Filter.keep]
  case cons d ds hi =>
    have : reports filter (d :: ds) = filter.keep [⟨.error, target, d.text⟩] ++ reports filter ds :=
      filter.keep_append [_] _
    simp [hi, toList_writes_add, this]

variable (options : Options) (filter : Log.Filter) (out : Output) (source : String)

theorem toList_writes_scanText :
    (scanText options filter .empty out source).2.writes.toList =
      out.writes.toList ++ writesOf options filter source := by
  have hp : (if options.quiet then #[] else
      (Scan.run filter Diagnostics.report .empty #[] source).tokens.map fun t =>
        Write.print t.text).toList = (options.listing source).map .print := by
    unfold Options.listing
    split
    case isTrue  => rfl
    case isFalse => simp [toList_run_tokens_eq_scan]
  simp only [scanText, run_sink_eq_scan, ← Array.foldl_toList]
  rw [toList_writes_foldl_add]
  simp [Output.append, hp, writesOf, scanLog, Diagnostics.toList]

theorem filterMap_printed?_map_log (rs : List Log.Record) :
    (rs.map Write.log).filterMap Write.printed? = [] := by
  simp [List.filterMap_eq_nil_iff]

theorem filterMap_logged?_map_print (ts : List String) :
    (ts.map Write.print).filterMap Write.logged? = [] := by
  simp [List.filterMap_eq_nil_iff]

theorem filterMap_printed?_writesOf :
    (writesOf options filter source).filterMap Write.printed? = options.listing source := by
  simp only [writesOf, List.filterMap_append, filterMap_printed?_map_log]
  simp [List.filterMap_map, Function.comp_def]

theorem filterMap_logged?_writesOf :
    (writesOf options filter source).filterMap Write.logged? =
      scanLog filter source ++ reports filter (scan source).diagnostics.toList := by
  simp only [writesOf, List.filterMap_append, filterMap_logged?_map_print]
  simp [List.filterMap_map, Function.comp_def]

-- The scan itself logs no errors, so these are the reports.
theorem filter_error_logged?_writesOf :
    ((writesOf options filter source).filterMap Write.logged?).filter (·.level = .error) =
      reports filter (scan source).diagnostics.toList := by
  have hs : (scanLog filter source).filter (·.level = .error) = [] := by
    rw [scanLog_eq, List.filter_eq_nil_iff]
    intro r hr
    simpa using Scan.level_ne_error_of_mem_recordsOf <| List.mem_filter.mp hr |>.left
  have hr : (reports filter (scan source).diagnostics.toList).filter (·.level = .error) =
      reports filter (scan source).diagnostics.toList := by
    rw [List.filter_eq_self]
    intro r hr
    obtain ⟨_, _, rfl⟩ := List.mem_map.mp <| List.mem_filter.mp hr |>.left
    rfl
  rw [filterMap_logged?_writesOf, List.filter_append, hs, hr, List.nil_append]

-- The reports in the log, which are all that is logged as an error unless reading fails.
def Output.errors (out : Output) : List Log.Record :=
  out.log.toList.filter (·.level = .error)

end Command
end LoxTokens
