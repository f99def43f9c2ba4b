import LoxTokens.Proofs.Command.Script
import LoxTokens.Proofs.Decimal.Numeral
import LoxTokens.Proofs.Scan.LongestMatch

/-!
The listing of tokens can be read back. Each line tells the type of its token, the type tells how
the lexeme ends, and the lexeme tells the literal. So the line of a token ends where it does no
matter what follows, even if a string spells further lines.
-/

namespace LoxTokens

open PieceKind Piece TokenType

namespace TokenType

theorem space_not_mem_name (type : TokenType) : ' ' ∉ type.name.toList := by
  cases type <;> decide

theorem find?_name (type : TokenType) : all.find? (·.name = type.name) = some type := by
  cases type <;> decide

theorem name_inj {type₁ type₂ : TokenType} (h : type₁.name = type₂.name) : type₁ = type₂ :=
  eq_of_find? find?_name h

end TokenType

theorem space_not_mem_of_allows {type : TokenType} {text : List Char}
    (h : Allows (.lexeme type) text) (hs : type ≠ .string) : ' ' ∉ text := by
  generalize hk : PieceKind.lexeme type = kind at h
  cases h
  case symbol h =>
    have : ∀ e ∈ symbols, ' ' ∉ e.1 := by decide
    exact this _ h
  case whole h       => exact IsNumeral.whole h |>.not_mem (by decide) (by decide)
  case fraction h h' => exact IsNumeral.fraction h h' |>.not_mem (by decide) (by decide)
  case word h _      =>
    intro hc
    cases text
    case nil       => cases hc
    case cons c cs =>
      cases hc
      case head   => exact absurd h.left <| by decide
      case tail m => exact absurd (h.right _ m) <| by decide
  case string        => cases hk; exact absurd rfl hs
  all_goals cases hk

namespace Token

-- The lexeme ends where one of its type has to, and the literal is the one of the lexeme.
structure Listable (t : Token) : Prop where
  string  : t.type = .string → ∃ cs, t.lexeme.toList = '"' :: cs ++ ['"'] ∧ '"' ∉ cs
  other   : t.type ≠ .string → ' ' ∉ t.lexeme.toList
  literal : t.literal = literal? ⟨.lexeme t.type, t.lexeme.toList⟩

theorem listable_of_mem_scan_tokens {source : String} {t : Token} (h : t ∈ (scan source).tokens) :
    t.Listable := by
  have hl := literal_of_mem_scan_tokens h
  rw [scan_tokens] at h
  cases List.mem_append.mp h
  case inl h =>
    have hs := Scan.stands_of_mem_tokensOf h
    exact ⟨fun ht => exists_of_allows_string <| ht ▸ hs.allows, space_not_mem_of_allows hs.allows, hl⟩
  case inr h =>
    cases List.mem_singleton.mp h
    exact ⟨nofun, fun _ => List.not_mem_nil, hl⟩

variable {t₁ t₂ : Token} {r₁ r₂ : List Char}

theorem Listable.lexeme_inj (h₁ : t₁.Listable) (h₂ : t₂.Listable) (ht : t₁.type = t₂.type)
    (h : t₁.lexeme.toList ++ ' ' :: r₁ = t₂.lexeme.toList ++ ' ' :: r₂) :
    t₁.lexeme = t₂.lexeme ∧ r₁ = r₂ := by
  by_cases hs : t₁.type = .string
  case pos =>
    have ⟨cs₁, hl₁, hn₁⟩ := h₁.string hs
    have ⟨cs₂, hl₂, hn₂⟩ := h₂.string <| ht ▸ hs
    simp [hl₁, hl₂] at h
    have ⟨hc, hr⟩ := append_cons_inj hn₁ hn₂ h
    rw [← String.toList_inj, hl₁, hl₂, hc]
    simpa using hr
  case neg =>
    rw [← String.toList_inj]
    exact append_cons_inj (h₁.other hs) (h₂.other <| ht ▸ hs) h

theorem Listable.text_inj (h₁ : t₁.Listable) (h₂ : t₂.Listable)
    (h : t₁.text.toList ++ '\n' :: r₁ = t₂.text.toList ++ '\n' :: r₂) :
    t₁.content = t₂.content ∧ r₁ = r₂ := by
  simp [text] at h
  obtain ⟨hn, h⟩ := append_cons_inj t₁.type.space_not_mem_name t₂.type.space_not_mem_name h
  have ht : t₁.type = t₂.type := TokenType.name_inj <| String.toList_inj.mp hn
  obtain ⟨hl, h⟩ := h₁.lexeme_inj h₂ ht h
  have hv : t₁.literal = t₂.literal := by rw [h₁.literal, h₂.literal, ht, hl]
  rw [hv] at h
  refine ⟨?_, by simpa using h⟩
  rw [content, content, ht, hl, hv]

-- The lines of a listing, each with the line feed at its end.
def lines (ts : List Token) : List Char :=
  ts.flatMap fun t => t.text.toList ++ ['\n']

theorem lines_inj {ts₁ ts₂ : List Token} (h₁ : ∀ t ∈ ts₁, t.Listable) (h₂ : ∀ t ∈ ts₂, t.Listable)
    (h : lines ts₁ = lines ts₂) : ts₁.map content = ts₂.map content := by
  induction ts₁ generalizing ts₂
  case nil =>
    cases ts₂
    case nil  => rfl
    case cons => simp [lines] at h
  case cons t₁ ts₁ hi =>
    cases ts₂
    case nil => simp [lines] at h
    case cons t₂ ts₂ =>
      have ⟨h₁, hs₁⟩ := List.forall_mem_cons.mp h₁
      have ⟨h₂, hs₂⟩ := List.forall_mem_cons.mp h₂
      have h : t₁.text.toList ++ '\n' :: lines ts₁ = t₂.text.toList ++ '\n' :: lines ts₂ := by
        simpa [lines] using h
      have ⟨hc, hr⟩ := h₁.text_inj h₂ h
      rw [List.map_cons, List.map_cons, hc, hi hs₁ hs₂ hr]

end Token

namespace Command

-- What is collected goes into the log, so no collector changes what is printed.
theorem printed_scanText (options : Options) (filter : Log.Filter) (ds : Diagnostics)
    (out : Output) (source : String) :
    (scanText options filter ds out source).2.printed = out.printed ++ options.listing source := by
  simp only [scanText, Output.printed, ← Array.foldl_toList]
  rw [toList_writes_foldl_add, List.filterMap_append, filterMap_printed?_map_log]
  simp only [Output.append, Array.toList_append, List.filterMap_append, Array.toList_map]
  rw [filterMap_printed?_map_log]
  unfold Options.listing
  split
  case isTrue  => simp
  case isFalse => simp [toList_run_tokens_eq_scan, List.filterMap_map, Function.comp_def]

variable {options₁ options₂ : Options} {filter₁ filter₂ : Log.Filter} {ds₁ ds₂ : Diagnostics}
  {source₁ source₂ : String}

theorem toList_text_scanText (h : ¬options₁.quiet) :
    (scanText options₁ filter₁ ds₁ .empty source₁).2.text.toList =
      Token.lines (scan source₁).tokens := by
  rw [Output.text, printed_scanText]
  simp [Output.printed, Output.empty, Options.listing, h, Token.lines, List.flatMap_map]

theorem scan_content_eq_of_text_eq (h₁ : ¬options₁.quiet) (h₂ : ¬options₂.quiet)
    (h : (scanText options₁ filter₁ ds₁ .empty source₁).2.text =
      (scanText options₂ filter₂ ds₂ .empty source₂).2.text) :
    (scan source₁).tokens.map Token.content = (scan source₂).tokens.map Token.content := by
  refine Token.lines_inj (fun _ => Token.listable_of_mem_scan_tokens)
    (fun _ => Token.listable_of_mem_scan_tokens) ?_
  rw [← toList_text_scanText h₁, ← toList_text_scanText h₂, h]

-- The string spells the line of another token and the last line of a listing.
theorem scan_content_eq_of_text_eq_forged :
    let source₁ := "\"a\nPLUS + null\nEOF  null\" // c"
    let source₂ := "\t\"a\nPLUS + null\nEOF  null\""
    let output  := fun source => (scanText ⟨none, false⟩ .off .empty .empty source).2
    (output source₁).printed =
      ["STRING \"a\nPLUS + null\nEOF  null\" a\nPLUS + null\nEOF  null", "EOF  null"] ∧
    (output source₁).text = (output source₂).text ∧
    (scan source₁).tokens.map Token.content = (scan source₂).tokens.map Token.content := by
  intro source₁ source₂ output
  have h : (output source₁).text = (output source₂).text := by decide +kernel
  exact ⟨by decide +kernel, h, scan_content_eq_of_text_eq (by decide) (by decide) h⟩

end Command

end LoxTokens
