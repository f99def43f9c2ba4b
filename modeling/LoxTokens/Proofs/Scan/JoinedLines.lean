import LoxTokens.Proofs.Scan.LineBreak
import LoxTokens.Proofs.Scan.Lines

/-!
Scanning lines that are joined by line feeds. If no string stays open on a line, the tokens and
reports are those of the lines scanned one by one, but on the lines where these stand.
-/

namespace LoxTokens

def Diagnostic.onLine (k : Nat) (d : Diagnostic) : Diagnostic :=
  { d with line := UInt32.ofNat k }

theorem Diagnostic.below_below (m n : Nat) (d : Diagnostic) :
    (d.below m).below n = d.below (m + n) := by
  simp [below, UInt32.ofNat_add, UInt32.add_assoc]

theorem Diagnostic.below_zero : below 0 = id := by
  funext d
  simp [below]

theorem Diagnostic.below_eq_onLine {d : Diagnostic} (h : d.line = 1) (n : Nat) :
    d.below n = d.onLine (n + 1) := by
  rw [below, onLine, h, UInt32.add_comm, UInt32.ofNat_add]
  rfl

theorem Token.text_below (n : Nat) (t : Token) : (t.below n).text = t.text :=
  rfl

theorem lineAt_eq_one {cs : List Char} (h : '\n' ∉ cs) (i : Nat) : lineAt cs i = 1 := by
  rw [lineAt, List.count_eq_zero.mpr <| mt List.mem_of_mem_take h]

theorem line_of_mem_scan_diagnostics {line : String} (h : '\n' ∉ line.toList) {d : Diagnostic}
    (hd : d ∈ (scan line).diagnostics.toList) : d.line = 1 := by
  have hc : line.toList.count '\n' < UInt32.size - 1 := by
    rw [List.count_eq_zero.mpr h]
    decide
  rw [toList_scan_diagnostics, Scan.errorsOf_eq_filterMap_placed] at hd
  obtain ⟨e, he, rfl⟩ := List.mem_map.mp hd
  have ⟨q, hq, he⟩ := List.mem_filterMap.mp he
  rw [← UInt32.toNat_inj]
  cases Scan.error_standsAt hc hq he
  all_goals exact ‹_ = lineAt ..›.trans <| lineAt_eq_one h _

-- What is wrong with a line that is the `k`-th one of a text.
def reportsOn (k : Nat) (line : String) : List Diagnostic :=
  (scan line).diagnostics.toList.map (Diagnostic.onLine k)

theorem map_below_scan_diagnostics {line : String} (h : '\n' ∉ line.toList) (n : Nat) :
    (scan line).diagnostics.toList.map (Diagnostic.below n) = reportsOn (n + 1) line :=
  List.map_congr_left fun _ hd => Diagnostic.below_eq_onLine (line_of_mem_scan_diagnostics h hd) n

theorem reportsOn_one {line : String} (h : '\n' ∉ line.toList) :
    reportsOn 1 line = (scan line).diagnostics.toList := by
  rw [← map_below_scan_diagnostics h 0, Diagnostic.below_zero, List.map_id]

def NoneOpen (lines : List String) : Prop :=
  ∀ line ∈ lines, ∀ d ∈ (scan line).diagnostics.toList, d.message ≠ "Unterminated string."

variable {lines : List String}

-- The first line is followed by a line break, as long as it is not the last.
theorem scan_diagnostics_intercalate_below (hl : ∀ line ∈ lines, '\n' ∉ line.toList)
    (ho : NoneOpen lines) (n : Nat) :
    (scan <| "\n".intercalate lines).diagnostics.toList.map (Diagnostic.below n) =
      (lines.zipIdx (n + 1)).flatMap fun x => reportsOn x.2 x.1 := by
  induction lines generalizing n
  case nil => simp [toList_scan_diagnostics, Scan.errorsOf, Scan.eventsOf, Scan.events, Piece.cut]
  case cons line lines hi =>
    obtain ⟨hl₁, hl₂⟩ := List.forall_mem_cons.mp hl
    obtain ⟨ho₁, ho₂⟩ := List.forall_mem_cons.mp ho
    have h₁ := map_below_scan_diagnostics hl₁ n
    cases lines
    case nil => simpa using h₁
    case cons line' lines =>
      have hn : line.toList.count '\n' = 0 := List.count_eq_zero.mpr hl₁
      rw [String.intercalate_cons_cons, scan_diagnostics_append_lineFeed _ ho₁, hn,
        List.map_append, h₁, List.zipIdx_cons, List.flatMap_cons, ← hi hl₂ ho₂]
      simp [Function.comp_def, Diagnostic.below_below, Nat.add_comm]

theorem scan_diagnostics_intercalate (hl : ∀ line ∈ lines, '\n' ∉ line.toList)
    (ho : NoneOpen lines) :
    (scan <| "\n".intercalate lines).diagnostics.toList =
      (lines.zipIdx 1).flatMap fun x => reportsOn x.2 x.1 := by
  have := scan_diagnostics_intercalate_below hl ho 0
  rwa [Diagnostic.below_zero, List.map_id] at this

theorem map_text_scan_intercalate (h : lines ≠ []) (ho : NoneOpen lines) :
    (scan <| "\n".intercalate lines).tokens.map Token.text =
      lines.dropLast.flatMap (fun line => (Scan.tokensOf line).map Token.text) ++
        (scan <| lines.getLast h).tokens.map Token.text := by
  induction lines
  case nil => contradiction
  case cons line lines hi =>
    obtain ⟨ho₁, ho₂⟩ := List.forall_mem_cons.mp ho
    cases lines
    case nil => simp
    case cons line' lines =>
      rw [String.intercalate_cons_cons, scan_tokens_append_lineFeed _ ho₁, List.map_append,
        List.map_map]
      simp [Function.comp_def, Token.text_below, hi (by simp) ho₂]

end LoxTokens
