import LoxTokens.Scan

/-!
Sessions: any number of steps on one collector of reports.
-/

namespace LoxTokens.Session

inductive Step
  | scan (source : String)
  | report (d : Diagnostic)
  | clear
  | renew

structure State where
  diagnostics : Diagnostics
  -- the tokens of the step before, if it was a scan
  tokens      : Option (List Token)

def State.start : State :=
  ⟨.empty, none⟩

def State.apply (s : State) : Step → State
  | .scan source =>
    let (tokens, diagnostics) := Scan.into .report s.diagnostics source
    ⟨diagnostics, tokens⟩
  | .report d => ⟨s.diagnostics.report d, none⟩
  | .clear    => ⟨s.diagnostics.clear, none⟩
  | .renew    => ⟨.empty, none⟩

-- The states after each of the steps.
def states (s : State) : List Step → List State
  | []            => []
  | step :: steps => s.apply step :: states (s.apply step) steps

def run (steps : List Step) : List State :=
  states .start steps

end LoxTokens.Session
