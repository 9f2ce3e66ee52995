import Workbench.Value.Display

namespace Workbench

/-- The text of a parameter: truth values read as words in lower case. -/
def paramText : Value → String
  | .bool true => "true"
  | .bool false => "false"
  | value => value.display

namespace Template

/-- The mark that stands for a parameter in a template. -/
def placeholder (key : String) : String :=
  "%%" ++ key ++ "%%"

/-- Put the parameters into a template, one after another in their order. A mark without a parameter
stays as it is. -/
def render (template : String) (params : Fields Value) : String :=
  params.foldl (fun text param => Text.replaceAll (placeholder param.1) (paramText param.2) text) template

end Template

end Workbench
