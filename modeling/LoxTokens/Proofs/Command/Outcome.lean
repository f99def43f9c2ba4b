import LoxTokens.Proofs.Command.Options
import LoxTokens.Proofs.Command.Script

/-!
How the command ends. The words are looked at first, then the file, then what the scan has
reported. The flag that makes the command quiet has no part in that.
-/

namespace LoxTokens

namespace Command

variable {options : Options} {filter : Log.Filter}

theorem eq_toUTF8_of_decode_eq_ok {bytes : ByteArray} {source : String}
    (h : decode bytes = .ok source) : bytes = source.toUTF8 := by
  unfold decode String.fromUTF8? at h
  by_cases hv : bytes.IsValidUTF8
  case pos =>
    rw [dif_pos hv] at h
    cases h
    rfl
  case neg =>
    rw [dif_neg hv] at h
    cases h

theorem content_cases (content : Except ReadError ByteArray) :
    (∃ source : String, content = .ok source.toUTF8) ∨ ∃ e, (content >>= decode) = .error e := by
  cases content
  case error e => exact .inr ⟨e, rfl⟩
  case ok bytes =>
    cases h : decode bytes
    case error e   => exact .inr ⟨e, h⟩
    case ok source => exact .inl ⟨source, congrArg _ <| eq_toUTF8_of_decode_eq_ok h⟩

theorem lines_cases (lines : List (Except ReadError String)) :
    ∃ good : List String, lines = good.map .ok ∨ ∃ e rest, lines = good.map .ok ++ .error e :: rest := by
  induction lines
  case nil => exact ⟨[], .inl rfl⟩
  case cons line lines hi =>
    cases line
    case error e => exact ⟨[], .inr ⟨e, lines, rfl⟩⟩
    case ok line =>
      obtain ⟨good, rfl | ⟨e, rest, rfl⟩⟩ := hi
      case inl => exact ⟨line :: good, .inl rfl⟩
      case inr => exact ⟨line :: good, .inr ⟨e, rest, rfl⟩⟩

namespace Output

variable (out : Output) (filter : Log.Filter) (level : Log.Level) (message : String)

theorem printed_add : (out.add filter level message).printed = out.printed := by
  rw [printed, toList_writes_add, List.filterMap_append, filterMap_printed?_map_log,
    List.append_nil, printed]

theorem toList_log : out.log.toList = out.writes.toList.filterMap Write.logged? :=
  Array.toList_filterMap

theorem toList_log_add :
    (out.add filter level message).log.toList =
      out.log.toList ++ filter.keep [⟨level, target, message⟩] := by
  rw [toList_log, toList_log, toList_writes_add, List.filterMap_append]
  simp [List.filterMap_map, Function.comp_def]

end Output

-- A run that prints nothing, beside one that may print.
structure Outcome.Silences (quiet loud : Outcome) : Prop where
  printed  : quiet.output.printed = []
  log      : quiet.output.log = loud.output.log
  exitCode : quiet.exitCode = loud.exitCode

theorem Failure.silences {out out' : Output} (failure : Failure) (hp : out.printed = [])
    (hl : out.log = out'.log) :
    (failure.outcome filter out).Silences (failure.outcome filter out') where
  printed  := (Output.printed_add ..).trans hp
  exitCode := rfl
  log      := by
    refine Array.toList_inj.mp ?_
    rw [outcome, outcome, Output.toList_log_add, Output.toList_log_add, hl]

section

variable (options filter) (path source : String)

theorem exitCode_runScript :
    (runScript options filter path (.ok source.toUTF8)).exitCode =
      if (scan source).diagnostics.toList = [] then 0 else 65 := by
  have hd : (Except.ok source.toUTF8 >>= decode) = .ok source := decode_toUTF8 source
  rw [runScript, hd]
  simp only [scanText, run_sink_eq_scan, Diagnostics.hadError_iff, ite_not]

theorem toList_log_runScript :
    (runScript options filter path (.ok source.toUTF8)).output.log.toList =
      filter.keep [⟨.info, target, "Scanning file: " ++ path⟩] ++
        (scanLog filter source ++ reports filter (scan source).diagnostics.toList) := by
  rw [Output.toList_log, toList_writes_runScript, List.filterMap_append,
    filterMap_logged?_writesOf]
  simp [List.filterMap_map, Function.comp_def]

theorem runScript_error {content : Except ReadError ByteArray} {e : ReadError}
    (h : (content >>= decode) = .error e) :
    runScript options filter path content = (Failure.script path e).outcome filter .empty := by
  rw [runScript, h]

theorem toList_log_after (lines : List String) :
    (Prompt.after options filter lines).output.log.toList =
      lines.flatMap fun line =>
        scanLog filter line ++ reports filter (scan line).diagnostics.toList := by
  rw [Output.toList_log, Prompt.toList_writes_after, List.filterMap_flatMap]
  exact congrArg (List.flatMap · lines) <| funext <| filterMap_logged?_writesOf _ _

end

section

variable (loud : Options) (filter : Log.Filter)

theorem listing_of_quiet (h : options.quiet) (source : String) : options.listing source = [] :=
  if_pos h

theorem runScript_silences (h : options.quiet) (path : String)
    (content : Except ReadError ByteArray) :
    (runScript options filter path content).Silences (runScript loud filter path content) := by
  obtain ⟨source, rfl⟩ | ⟨e, he⟩ := content_cases content
  case inl =>
    refine ⟨?printed, ?log, ?exitCode⟩
    case printed  => rw [printed_runScript, listing_of_quiet h]
    case log      =>
      exact Array.toList_inj.mp <| by rw [toList_log_runScript, toList_log_runScript]
    case exitCode => rw [exitCode_runScript, exitCode_runScript]
  case inr =>
    rw [runScript_error options filter path he, runScript_error loud filter path he]
    exact Failure.silences _ rfl rfl

theorem runPrompt_silences (h : options.quiet) (lines : List (Except ReadError String)) :
    (runPrompt options filter lines).Silences (runPrompt loud filter lines) := by
  have hp (lines : List String) : (Prompt.after options filter lines).output.printed = [] := by
    simp [Prompt.printed_after, listing_of_quiet h]
  have hl (lines : List String) :
      (Prompt.after options filter lines).output.log =
        (Prompt.after loud filter lines).output.log :=
    Array.toList_inj.mp <| by rw [toList_log_after, toList_log_after]
  obtain ⟨good, rfl | ⟨e, rest, rfl⟩⟩ := lines_cases lines
  case inl =>
    rw [Prompt.runPrompt_eq, Prompt.runPrompt_eq]
    exact ⟨hp good, hl good, rfl⟩
  case inr =>
    rw [Prompt.runPrompt_append, Prompt.runPrompt_append]
    exact Failure.silences _ (hp good) (hl good)

end

section

variable {words : List String} (readFile : String → Except ReadError ByteArray) (input : ByteArray)
  (filter : Log.Filter)

theorem run_of_parse_eq_error {e : Args.ParseError} (h : Options.parse words = .error e) :
    run readFile input filter words =
      let ending := Options.definition.ending Options.programName e
      ⟨ending.exitCode, ⟨ending.printed.toArray.map .print⟩⟩ := by
  rw [run, Command.options, h]
  rfl

theorem run_of_parse_eq_ok (h : Options.parse words = .ok options) :
    run readFile input filter words =
      match options.script with
      | some path => runScript options filter path (readFile path)
      | none      => runPrompt options filter (readLines input) := by
  rw [run, Command.options, h]
  rfl

theorem exitCode_ending (e : Args.ParseError) :
    (Options.definition.ending Options.programName e).exitCode =
      if e = .helpRequested then 0 else 64 := by
  cases e <;> rfl

theorem run_silences {quiet loud : Options} {words' : List String}
    (hq : Options.parse words' = .ok quiet) (hl : Options.parse words = .ok loud)
    (hs : quiet.script = loud.script) (h : quiet.quiet) :
    (run readFile input filter words').Silences (run readFile input filter words) := by
  rw [run_of_parse_eq_ok readFile input filter hq, run_of_parse_eq_ok readFile input filter hl, hs]
  cases loud.script
  case none      => exact runPrompt_silences loud filter h _
  case some path => exact runScript_silences loud filter h path _

end

-- The bytes of a file have to encode a text. Of the words that are taken, one that makes the
-- command quiet may stand anywhere.
theorem run_outcome (readFile : String → Except ReadError ByteArray) (input : ByteArray)
    (filter : Log.Filter) (words : List String) :
    let outcome := run readFile input filter words
    (∀ e, Options.parse words = .error e →
      (∀ readFile' input' filter', run readFile' input' filter' words = outcome) ∧
      outcome.output.log = #[] ∧
      outcome.exitCode = if e = .helpRequested then 0 else 64) ∧
    (∀ options path, Options.parse words = .ok options → options.script = some path →
      ((∀ source : String, readFile path ≠ .ok source.toUTF8) →
        outcome.output.printed = [] ∧ outcome.exitCode = 66) ∧
      ∀ source : String, readFile path = .ok source.toUTF8 →
        outcome.output.printed =
          (if options.quiet then [] else (scan source).tokens.map Token.text) ∧
        outcome.output.errors = reports filter (scan source).diagnostics.toList ∧
        outcome.exitCode = if (scan source).diagnostics.toList = [] then 0 else 65) ∧
    ∀ options, Options.parse words = .ok options →
      (∀ form ∈ ["-q", "--quiet"], form ∉ words) →
      ∀ before after, before ++ after = words → ∀ form ∈ ["-q", "--quiet"],
        (run readFile input filter (before ++ form :: after)).Silences outcome := by
  intro outcome
  refine ⟨fun e h => ?unusable, fun options path h hs => ?script,
    fun options h hn before after hw form hf => ?quiet⟩
  case unusable =>
    have ho : outcome = _ := run_of_parse_eq_error readFile input filter h
    refine ⟨fun _ _ _ => ho ▸ run_of_parse_eq_error _ _ _ h, ?log, ho ▸ exitCode_ending e⟩
    refine Array.toList_inj.mp ?_
    rw [ho, Output.toList_log, Array.toList_map]
    exact filterMap_logged?_map_print _
  case script =>
    have ho : outcome = runScript options filter path (readFile path) :=
      (run_of_parse_eq_ok readFile input filter h).trans <| by rw [hs]
    rw [ho]
    refine ⟨fun hn => ?unreadable, fun source hr => ?scanned⟩
    case unreadable =>
      have ⟨e, he⟩ := content_cases (readFile path) |>.resolve_left fun ⟨s, h⟩ => hn s h
      rw [runScript_error options filter path he]
      exact ⟨Output.printed_add .., rfl⟩
    case scanned =>
      rw [hr]
      exact ⟨printed_runScript .., errors_runScript .., exitCode_runScript ..⟩
  case quiet =>
    subst hw
    exact run_silences _ _ _ (Options.parse_insert h hf hn) h rfl rfl

-- A script in which a character is reported, a file that breaks off in a character, and folders.
def someFiles : String → Except ReadError ByteArray
  | "a.lox" => .ok "print # a".toUTF8
  | "b.lox" => .ok ⟨#[0x61, 0xC3]⟩
  | _       => .error .isDirectory

theorem run_outcome_someFiles :
    let run := run someFiles .empty (.upTo .error)
    (run ["--verbose"]).exitCode = 64 ∧ (run ["a.lox", "-h"]).exitCode = 0 ∧
    (run ["b.lox"]).exitCode = 66 ∧ (run ["src"]).exitCode = 66 ∧
    (run ["a.lox"]).output.printed = ["PRINT print null", "IDENTIFIER a null", "EOF  null"] ∧
    (run ["a.lox"]).output.errors.map Log.Record.message =
      ["[line 1] Error at '#': Unexpected character."] ∧
    (run ["a.lox"]).exitCode = 65 ∧
    (run ["a.lox", "-q"]).output.printed = [] ∧ (run ["a.lox", "-q"]).exitCode = 65 := by
  intro run
  have outcome := run_outcome someFiles .empty (.upTo .error)
  have hi : Options.parse ["--verbose"] = .error (.invalidOption "--verbose") := by
    decide +kernel
  have hh : Options.parse ["a.lox", "-h"] = .error .helpRequested := by
    decide +kernel
  have ha : Options.parse ["a.lox"] = .ok ⟨some "a.lox", false⟩ := by
    decide +kernel
  have hb : Options.parse ["b.lox"] = .ok ⟨some "b.lox", false⟩ := by
    decide +kernel
  have hs : Options.parse ["src"] = .ok ⟨some "src", false⟩ := by
    decide +kernel
  have hn (source : String) : someFiles "b.lox" ≠ .ok source.toUTF8 := by
    intro h
    have hv : (someFiles "b.lox" >>= decode) = .ok source := h ▸ decode_toUTF8 source
    have he : (someFiles "b.lox" >>= decode) = .error .malformedText := by decide +kernel
    exact absurd (hv.symm.trans he) nofun
  have ⟨hp, he, hx⟩ := outcome ["a.lox"] |>.right.left _ _ ha rfl |>.right "print # a" rfl
  have hq := outcome ["a.lox"] |>.right.right _ ha (by decide) ["a.lox"] [] rfl "-q" (by decide)
  have hx' := hx.trans <| show _ = 65 by decide +kernel
  refine ⟨outcome _ |>.left _ hi |>.right.right, outcome _ |>.left _ hh |>.right.right,
    outcome _ |>.right.left _ _ hb rfl |>.left hn |>.right,
    outcome _ |>.right.left _ _ hs rfl |>.left nofun |>.right,
    hp.trans ?_, (congrArg _ he).trans ?_, hx', hq.printed, hq.exitCode.trans hx'⟩
  all_goals decide +kernel

end Command
end LoxTokens
