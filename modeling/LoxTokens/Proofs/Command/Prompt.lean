import LoxTokens.Proofs.Command.Writes

/-!
The prompt treats each line alone. Whatever was read before, the collector is empty when a line is
read, so that exactly what the line gives rise to is written for it.
-/

namespace LoxTokens.Command

variable {options : Options} {filter : Log.Filter} {p : Prompt}

namespace Prompt

theorem diagnostics_answer (line : String) : (p.answer options filter line).diagnostics = .empty :=
  rfl

theorem toList_writes_answer (h : p.diagnostics = .empty) (line : String) :
    (p.answer options filter line).output.writes.toList =
      p.output.writes.toList ++ writesOf options filter line := by
  rw [answer, h]
  exact toList_writes_scanText ..

-- The prompt in front of the lines that are still to be read.
theorem run_append (lines : List String) (rest : List (Except ReadError String)) :
    p.run options filter (lines.map .ok ++ rest) =
      (lines.foldl (answer options filter) p).run options filter rest := by
  induction lines generalizing p
  case nil     => rfl
  case cons hi => exact hi

theorem diagnostics_foldl_answer (h : p.diagnostics = .empty) (lines : List String) :
    (lines.foldl (answer options filter) p).diagnostics = .empty := by
  induction lines generalizing p
  case nil     => exact h
  case cons hi => exact hi <| diagnostics_answer _

theorem toList_writes_foldl_answer (h : p.diagnostics = .empty) (lines : List String) :
    (lines.foldl (answer options filter) p).output.writes.toList =
      p.output.writes.toList ++ lines.flatMap (writesOf options filter) := by
  induction lines generalizing p
  case nil => simp
  case cons line lines hi =>
    rw [List.foldl_cons, hi <| diagnostics_answer _, toList_writes_answer h, List.flatMap_cons,
      List.append_assoc]

-- The prompt after it has answered lines.
def after (options : Options) (filter : Log.Filter) (lines : List String) : Prompt :=
  lines.foldl (answer options filter) .start

variable (options filter) (lines : List String)

theorem diagnostics_after : (after options filter lines).diagnostics = .empty :=
  diagnostics_foldl_answer rfl lines

theorem toList_writes_after :
    (after options filter lines).output.writes.toList =
      lines.flatMap (writesOf options filter) :=
  toList_writes_foldl_answer rfl lines

theorem printed_after :
    (after options filter lines).output.printed = lines.flatMap options.listing := by
  rw [Output.printed, toList_writes_after, List.filterMap_flatMap]
  exact congrArg (List.flatMap · lines) <| funext <| filterMap_printed?_writesOf _ _

theorem errors_after :
    (after options filter lines).output.errors =
      lines.flatMap fun line => reports filter (scan line).diagnostics.toList := by
  rw [Output.errors, Output.log, Array.toList_filterMap, toList_writes_after,
    List.filterMap_flatMap, List.filter_flatMap]
  exact congrArg (List.flatMap · lines) <| funext <| filter_error_logged?_writesOf _ _

theorem runPrompt_append (rest : List (Except ReadError String)) :
    runPrompt options filter (lines.map .ok ++ rest) =
      (after options filter lines).run options filter rest :=
  run_append lines rest

theorem runPrompt_eq :
    runPrompt options filter (lines.map .ok) = ⟨0, (after options filter lines).output⟩ := by
  have := runPrompt_append options filter lines []
  rwa [List.append_nil] at this

end Prompt

open Prompt

-- Before each of the lines, and where they end, the collector is empty.
theorem runPrompt_writes_line_by_line (options : Options) (filter : Log.Filter)
    (lines : List String) :
    (∀ rest, runPrompt options filter (lines.map .ok ++ rest) =
      (after options filter lines).run options filter rest) ∧
    (after options filter lines).diagnostics = .empty ∧
    let outcome := runPrompt options filter (lines.map .ok)
    outcome.exitCode = 0 ∧
    outcome.output.writes.toList = lines.flatMap (writesOf options filter) ∧
    outcome.output.printed = lines.flatMap options.listing ∧
    outcome.output.errors =
      lines.flatMap fun line => reports filter (scan line).diagnostics.toList := by
  rw [runPrompt_eq]
  refine ⟨runPrompt_append _ _ _, diagnostics_after .., rfl, ?writes, ?printed, ?errors⟩
  case writes  => exact toList_writes_after ..
  case printed => exact printed_after ..
  case errors  => exact errors_after ..

end LoxTokens.Command
