import LoxTokens.Proofs.Scan.Events
import LoxTokens.Session
import Mathlib.Data.List.DropRight
import Mathlib.Data.List.Infix

/-!
What a collector holds in the course of a session. A step adds its own reports to it, or makes it
forget those of all steps before. A scan adds what it reports into an empty collector, and yields
the same tokens as there.
-/

namespace LoxTokens

namespace Session

namespace Step

def forgets : Step → Bool
  | scan _ | report _ => false
  | clear  | renew    => true

-- The reports that a step makes, no matter what was reported before.
def reports : Step → List Diagnostic
  | scan source   => (LoxTokens.scan source).diagnostics.toList
  | report d      => [d]
  | clear | renew => []

def tokens? : Step → Option (List Token)
  | scan source => (LoxTokens.scan source).tokens
  | _           => none

end Step

-- The reports of all steps since the last one that made the collector forget.
def reportsOf (steps : List Step) : List Diagnostic :=
  steps.rtakeWhile (!·.forgets) |>.flatMap Step.reports

theorem reportsOf_concat (steps : List Step) (step : Step) :
    reportsOf (steps ++ [step]) =
      if step.forgets then [] else reportsOf steps ++ step.reports := by
  rw [reportsOf, List.rtakeWhile_concat]
  cases step.forgets <;> simp [reportsOf]

namespace State

theorem toList_apply (s : State) (step : Step) :
    (s.apply step).diagnostics.toList =
      if step.forgets then [] else s.diagnostics.toList ++ step.reports := by
  cases step
  case scan source =>
    rw [apply, Scan.into_eq, Step.reports, toList_scan_diagnostics]
    exact toList_foldl_report ..
  case report d => exact Diagnostics.toList_report ..
  all_goals rfl

theorem tokens_apply (s : State) (step : Step) : (s.apply step).tokens = step.tokens? := by
  cases step
  case scan source => rw [apply, Scan.into_eq, Step.tokens?, scan_tokens]
  all_goals rfl

end State

-- The steps that led to the first state are collected.
theorem map_toList_states {s : State} {before : List Step} (steps : List Step)
    (h : s.diagnostics.toList = reportsOf before) :
    (states s steps).map (·.diagnostics.toList) =
      steps.inits.tail.map (reportsOf <| before ++ ·) := by
  induction steps generalizing s before
  case nil => rfl
  case cons step steps hi =>
    have h' : (s.apply step).diagnostics.toList = reportsOf (before ++ [step]) := by
      rw [s.toList_apply, reportsOf_concat, h]
    have hs : steps.inits = [] :: steps.inits.tail := by cases steps <;> rfl
    rw [states, List.map_cons, hi h', h', List.inits_cons, List.tail_cons, hs]
    simp [Function.comp_def]

theorem map_tokens_states (s : State) (steps : List Step) :
    (states s steps).map State.tokens = steps.map Step.tokens? := by
  induction steps generalizing s
  case nil => rfl
  case cons step steps hi => rw [states, List.map_cons, s.tokens_apply, hi, List.map_cons]

theorem run_holds_reportsOf (steps : List Step) :
    (run steps).map (·.diagnostics.toList) = steps.inits.tail.map reportsOf ∧
    (run steps).map State.tokens = steps.map Step.tokens? ∧
    ∀ ds : Diagnostics,
      ds.hadError = !ds.isEmpty ∧ (ds.hadError ↔ 0 < ds.size) ∧ ds.size = ds.toList.length := by
  refine ⟨?reports, map_tokens_states .start steps, fun ds => ?collector⟩
  case reports => exact @map_toList_states .start [] steps rfl
  case collector =>
    refine ⟨rfl, ?_, ds.size_eq_length⟩
    rw [Diagnostics.hadError_iff, ds.size_eq_length, List.length_pos_iff]

end Session
end LoxTokens
