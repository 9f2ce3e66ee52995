import Workbench.Catalog.Utility

namespace Workbench

/-- The declarative table of utilities, section by section. -/
structure Catalog where
  version : Int
  sections : Fields (List Utility)
  deriving DecidableEq

namespace Catalog

def supportedVersion : Int := 1

def utilities (catalog : Catalog) : List Utility :=
  catalog.sections.values.flatten

def find? (catalog : Catalog) (name : String) : Option Utility :=
  catalog.utilities.find? fun utility => utility.commandName = name

def commands (catalog : Catalog) : List Command :=
  catalog.utilities.flatMap Utility.allCommands

def changes (catalog : Catalog) : List StateChange :=
  catalog.commands.flatMap fun command => command.impact.changes

/-- One more reference to a metric: it stays qualitative only while every reference is. -/
def noteReference (seen : Fields Bool) (change : StateChange) : Fields Bool :=
  seen.put change.metric ((seen.get? change.metric).getD true && change.isQualitative)

/-- The metrics that the catalog changes, in the order of their first mention, each with whether every
change of it is qualitative. -/
def referencedMetrics (catalog : Catalog) : Fields Bool :=
  catalog.changes.foldl noteReference []

end Catalog

namespace Schema

/-- A section of the catalog holds its utilities under one name. -/
def catalogSection : Value → Checked (List Utility) :=
  model fun members => optional members "utilities" [] (list utility)

end Schema

end Workbench
