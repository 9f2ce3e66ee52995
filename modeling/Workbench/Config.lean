import Workbench.Files.Path
import Workbench.Narrator

namespace Workbench

/-- What the environment variables say about a run. -/
structure Config where
  model : String
  key : Option String
  root : Option String
  deriving DecidableEq

namespace Config

/-- The variables that are looked at. -/
def names : List String := ["LIA_STUDIO_MODEL", "OPENAI_API_KEY", "LIA_STUDIO_DATA"]

/-- A variable that is set to something. -/
def setting (environment : Fields String) (name : String) : Option String :=
  (environment.get? name).filter (· ≠ "")

/-- The model and the key for it, and the data root if it is not the built-in one. -/
def ofEnvironment (environment : Fields String) : Config := {
  model := (setting environment "LIA_STUDIO_MODEL").getD Narrator.defaultModel
  key := setting environment "OPENAI_API_KEY"
  root := (setting environment "LIA_STUDIO_DATA").map Path.normal }

end Config

end Workbench
