import LoxTokens.Proofs.Command.Prompt
import LoxTokens.Proofs.Scan.JoinedLines
import LoxTokens.Proofs.Scan.Spelling

/-!
A script and the prompt. For the lines of a script the same is printed and reported as for these
lines at the prompt, where each of them is the first and the last one of its text.
-/

namespace LoxTokens

open PieceKind TokenType

theorem Token.text_eof (line : UInt32) : (Token.eof line).text = "EOF  null" :=
  rfl

theorem text_ne_of_mem_tokensOf {source : String} {t : Token} (h : t ∈ Scan.tokensOf source) :
    t.text ≠ "EOF  null" := by
  have hn : ∀ type, type ≠ eof → ¬type.name.toList ++ [' '] <+: "EOF  null".toList := by
    intro type
    cases type <;> decide
  refine fun ht => hn t.type (Scan.type_ne_eof_of_mem_tokensOf h) ?_
  rw [← ht, Token.text]
  simp

namespace Command

variable {options : Options} {filter : Log.Filter}

theorem decode_toUTF8 (source : String) : decode source.toUTF8 = .ok source := by
  have : String.fromUTF8? source.toUTF8 = some source := dif_pos source.isValidUTF8
  rw [decode, this]

section

variable (options filter) (path source : String)

theorem toList_writes_runScript :
    (runScript options filter path (.ok source.toUTF8)).output.writes.toList =
      (filter.keep [⟨.info, target, "Scanning file: " ++ path⟩]).map .log ++
        writesOf options filter source := by
  have hd : (Except.ok source.toUTF8 >>= decode) = .ok source := decode_toUTF8 source
  rw [runScript, hd]
  refine toList_writes_scanText .. |>.trans ?_
  rw [toList_writes_add]
  rfl

theorem printed_runScript :
    (runScript options filter path (.ok source.toUTF8)).output.printed =
      options.listing source := by
  rw [Output.printed, toList_writes_runScript, List.filterMap_append, filterMap_printed?_map_log,
    filterMap_printed?_writesOf, List.nil_append]

theorem errors_runScript :
    (runScript options filter path (.ok source.toUTF8)).output.errors =
      reports filter (scan source).diagnostics.toList := by
  have hi : (filter.keep [⟨.info, target, "Scanning file: " ++ path⟩]).filter (·.level = .error) =
      [] := by
    simp [Log.Filter.keep, List.filter_cons]
  rw [Output.errors, Output.log, Array.toList_filterMap, toList_writes_runScript,
    List.filterMap_append, List.filter_append, filter_error_logged?_writesOf]
  simpa [List.filterMap_map, Function.comp_def] using hi

end

theorem listing_eq (source : String) (h : ¬options.quiet) :
    options.listing source = (Scan.tokensOf source).map Token.text ++ ["EOF  null"] := by
  simp [Options.listing, h, scan_tokens, Token.text_eof]

variable {lines : List String}

theorem listing_intercalate (h : lines ≠ []) (ho : NoneOpen lines) :
    options.listing ("\n".intercalate lines) =
      lines.dropLast.flatMap (fun line => (options.listing line).dropLast) ++
        options.listing (lines.getLast h) := by
  by_cases hq : options.quiet
  case pos => simp [Options.listing, hq]
  case neg =>
    have hd : ∀ line, (options.listing line).dropLast = (Scan.tokensOf line).map Token.text := by
      simp [listing_eq _ hq]
    simp only [hd]
    simp only [Options.listing, hq, map_text_scan_intercalate h ho]
    rfl

theorem reports_flatMap (ds : α → List Diagnostic) (l : List α) :
    reports filter (l.flatMap ds) = l.flatMap fun x => reports filter (ds x) := by
  simp [reports, Log.Filter.keep, List.map_flatMap, List.filter_flatMap]

-- The `k`-th line is reported on as line `k` of the script, and as line 1 at the prompt.
theorem runScript_intercalate_of_noneOpen (options : Options) (filter : Log.Filter) (path : String)
    {lines : List String} (hne : lines ≠ []) (hn : lines.length < UInt32.size - 1)
    (hl : ∀ line ∈ lines, '\n' ∉ line.toList) (ho : NoneOpen lines) :
    let script := runScript options filter path <| .ok ("\n".intercalate lines).toUTF8
    let prompt := runPrompt options filter <| lines.map .ok
    prompt.output.printed = lines.flatMap options.listing ∧
    script.output.printed =
      lines.dropLast.flatMap (fun line => (options.listing line).dropLast) ++
        options.listing (lines.getLast hne) ∧
    (¬options.quiet → ∀ line,
      ∃ ts, options.listing line = ts ++ ["EOF  null"] ∧ "EOF  null" ∉ ts) ∧
    prompt.output.errors = reports filter (lines.flatMap (reportsOn 1)) ∧
    script.output.errors = reports filter ((lines.zipIdx 1).flatMap fun x => reportsOn x.2 x.1) ∧
    ∀ k ≤ lines.length, ∀ d, (Diagnostic.onLine k d).line.toNat = k := by
  intro script prompt
  have hp : prompt = ⟨0, _⟩ := Prompt.runPrompt_eq options filter lines
  refine ⟨?printed_prompt, ?printed_script, fun hq line => ?eof, ?errors_prompt, ?errors_script,
    fun k hk d => ?line⟩
  case printed_prompt => rw [hp, Prompt.printed_after]
  case printed_script => rw [printed_runScript, listing_intercalate hne ho]
  case eof =>
    refine ⟨_, listing_eq line hq, fun h => ?_⟩
    obtain ⟨t, ht, he⟩ := List.mem_map.mp h
    exact text_ne_of_mem_tokensOf ht he
  case errors_prompt =>
    have : lines.map (reportsOn 1) = lines.map fun line => (scan line).diagnostics.toList :=
      List.map_congr_left fun line h => reportsOn_one (hl line h)
    rw [hp, Prompt.errors_after, ← reports_flatMap, List.flatMap_def, ← this]
    rfl
  case errors_script => rw [errors_runScript, scan_diagnostics_intercalate hl ho]
  case line =>
    rw [UInt32.size] at hn
    rw [Diagnostic.onLine, UInt32.toNat_ofNat']
    omega

-- Neither a comment nor an operator goes on behind the end of its line.
theorem runScript_intercalate_of_noneOpen_operator :
    let lines := ["a @ // c", "!", "= #"]
    let options : Options := ⟨none, false⟩
    let script := runScript options (.upTo .error) "a.lox" <| .ok ("\n".intercalate lines).toUTF8
    let prompt := runPrompt options (.upTo .error) <| lines.map .ok
    script.output.printed =
      ["IDENTIFIER a null", "BANG ! null", "EQUAL = null", "EOF  null"] ∧
    prompt.output.printed =
      ["IDENTIFIER a null", "EOF  null", "BANG ! null", "EOF  null", "EQUAL = null", "EOF  null"] ∧
    script.output.errors.map Log.Record.message =
      ["[line 1] Error at '@': Unexpected character.",
       "[line 3] Error at '#': Unexpected character."] ∧
    prompt.output.errors.map Log.Record.message =
      ["[line 1] Error at '@': Unexpected character.",
       "[line 1] Error at '#': Unexpected character."] := by
  intro lines options
  have hl : ∀ line ∈ lines, '\n' ∉ line.toList := by decide +kernel
  have ho : NoneOpen lines := by
    unfold NoneOpen
    decide +kernel
  have ⟨hp, hs, _, he, hf, _⟩ := runScript_intercalate_of_noneOpen options (.upTo .error) "a.lox"
    (by decide) (by decide) hl ho
  refine ⟨hs.trans ?_, hp.trans ?_, hf ▸ ?_, he ▸ ?_⟩
  all_goals decide +kernel

end Command
end LoxTokens
