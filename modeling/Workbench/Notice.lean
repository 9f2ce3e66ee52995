namespace Workbench

/-- How serious a notice is. -/
inductive Severity where
  | warning
  | error
  deriving DecidableEq

def Severity.word : Severity → String
  | .warning => "WARNING"
  | .error => "ERROR"

/-- A line of the running log, for whoever maintains the workbench. -/
structure Notice where
  severity : Severity
  text : String
  deriving DecidableEq

namespace Notice

def warning (text : String) : Notice := ⟨.warning, text⟩

def error (text : String) : Notice := ⟨.error, text⟩

end Notice

end Workbench
