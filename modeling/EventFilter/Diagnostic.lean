/-! Diagnostics: problems that evaluation reports and goes on with. A list of them is kept in the
order of emission. -/

namespace EventFilter

inductive Severity where
  | warning | error
  deriving DecidableEq

def Severity.text : Severity → String
  | warning => "warning"
  | error => "error"

structure Diagnostic where
  severity : Severity
  message : String
  notes : List String := []
  deriving DecidableEq

namespace Diagnostic

def warning (message : String) (notes : List String := []) : Diagnostic :=
  ⟨.warning, message, notes⟩

def error (message : String) (notes : List String := []) : Diagnostic :=
  ⟨.error, message, notes⟩

def text (d : Diagnostic) : String :=
  d.severity.text ++ ": " ++ d.message ++
    String.join (d.notes.map fun note => " (note: " ++ note ++ ")")

end Diagnostic

def hasError (ds : List Diagnostic) : Bool := ds.any (·.severity = .error)

end EventFilter
