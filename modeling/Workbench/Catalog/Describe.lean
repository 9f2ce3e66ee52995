import Workbench.Catalog.Definition
import Workbench.Catalog.Utility

namespace Workbench

/-- A state change with whether it is qualitative. -/
def StateChange.describe (change : StateChange) : Value := .object [
  ("metric", .text change.metric),
  ("operator", .text change.operator.symbol),
  ("value", (change.value.map Literal.toValue).getD .null),
  ("type", .ofText? (change.type.map MetricType.word)),
  ("condition", .ofText? change.condition),
  ("multiplier", .ofText? change.multiplier),
  ("value_template", .ofText? change.template),
  ("qualitative", .bool change.isQualitative)]

def FileAction.describe (action : FileAction) : Value := .object [
  ("action", .text action.verb.word),
  ("path_template", .text action.path),
  ("content_template", .text action.content)]

def Impact.describe (impact : Impact) : Value := .object [
  ("state_changes", .list (impact.changes.map StateChange.describe)),
  ("narrative", .text impact.narrative),
  ("dmesg_output", .text impact.diagnostic),
  ("fs_actions", .list (impact.actions.map FileAction.describe))]

/-- A command with its placeholders. -/
def Command.describe (command : Command) : Value := .object [
  ("cmd", .ofText? command.name),
  ("syntax", .text command.usage),
  ("parameters", .object (command.parameters.mapValues .text)),
  ("placeholders", .list (command.placeholders.map .text)),
  ("conceptual_impact", command.impact.describe)]

/-- A utility with its name as a command and all commands that it has. -/
def Utility.describe (utility : Utility) : Value := .object [
  ("name", .text utility.name),
  ("command_name", .text utility.commandName),
  ("description", .text utility.description),
  ("maps_to", .ofText? utility.mapsTo),
  ("op_sig", .text utility.signature),
  ("parameters", .object (utility.parameters.mapValues .text)),
  ("syntax", .ofText? utility.usage),
  ("own_commands", (utility.commands.map fun commands => Value.int commands.length).getD .null),
  ("all_commands", .list (utility.allCommands.map Command.describe))]

/-- A definition with whether it has a scale and with its initial value. -/
def Definition.describe (definition : Definition) : Value :=
  .object (match definition with
    | .metric scale => [
      ("id", .text scale.id), ("name", .text scale.name), ("value_initial", .float scale.initial),
      ("range", .list [.float scale.range.1, .float scale.range.2]),
      ("description", .text scale.description), ("dynamics_notes", .ofText? scale.notes),
      ("critical_threshold", (scale.threshold.map Value.float).getD .null),
      ("ranged", .bool true), ("initial", definition.initial)]
    | .qualitative words => [
      ("id", .text words.id), ("name", .text words.name), ("initial_value", words.initial.toValue),
      ("description", .text words.description),
      ("ranged", .bool false), ("initial", definition.initial)])

end Workbench
