import LoxTokens.Text.Escape
import LoxTokens.Text.Record

/-!
Reports about a source text and their collector, which keeps them in the order they were made.
-/

namespace LoxTokens

structure Diagnostic where
  line     : UInt32
  location : String
  message  : String
  deriving DecidableEq

namespace Diagnostic

def text (d : Diagnostic) : String :=
  let place := if d.location.isEmpty then "" else " " ++ d.location
  "[line " ++ toString d.line.toNat ++ "] Error" ++ place ++ ": " ++ d.message

def inspect (d : Diagnostic) : String :=
  Text.record "Diagnostic" [
    ("line",     toString d.line.toNat),
    ("location", Text.quote d.location),
    ("message",  Text.quote d.message)]

end Diagnostic

structure Diagnostics where
  reported : Array Diagnostic
  deriving DecidableEq

namespace Diagnostics

def empty : Diagnostics :=
  ⟨#[]⟩

def toList (ds : Diagnostics) : List Diagnostic :=
  ds.reported.toList

def size (ds : Diagnostics) : Nat :=
  ds.reported.size

def isEmpty (ds : Diagnostics) : Bool :=
  ds.reported.isEmpty

def hadError (ds : Diagnostics) : Bool :=
  !ds.reported.isEmpty

def report (ds : Diagnostics) (d : Diagnostic) : Diagnostics :=
  ⟨ds.reported.push d⟩

def clear (_ : Diagnostics) : Diagnostics :=
  empty

def inspect (ds : Diagnostics) : String :=
  Text.record "Diagnostics" [("reported", Text.list (ds.toList.map Diagnostic.inspect))]

@[simp]
theorem toList_empty : empty.toList = [] :=
  rfl

@[simp]
theorem toList_clear (ds : Diagnostics) : ds.clear.toList = [] :=
  rfl

@[simp]
theorem toList_report (ds : Diagnostics) (d : Diagnostic) :
    (ds.report d).toList = ds.toList ++ [d] := by
  simp [report, toList]

theorem size_eq_length (ds : Diagnostics) : ds.size = ds.toList.length :=
  rfl

theorem hadError_iff {ds : Diagnostics} : ds.hadError ↔ ds.toList ≠ [] := by
  simp [hadError, toList]

end Diagnostics
end LoxTokens
