import Workbench.Proofs.Command.Binding
import Workbench.Proofs.Command.Token

namespace Workbench

theorem Utility.name_of_findCommand? {utility : Utility} {name : String} {command : Command}
    (found : utility.findCommand? name = some command) : command.name = some name := by
  simpa using List.find?_some found

theorem Utility.name_of_implicitCommand? {utility : Utility} {command : Command}
    (found : utility.implicitCommand? = some command) : command.name = none := by
  obtain ⟨usage, _, rfl⟩ := Option.map_eq_some_iff.mp found
  rfl

namespace Resolution

/-- What follows the name of a utility is the name of the command that is selected, if it has one, and its
arguments. -/
theorem args_of_select? {utility : Utility} {command : Command} {args rest : List String}
    (selected : select? utility args = some (command, rest)) : args = command.name.toList ++ rest := by
  unfold select? at selected
  rcases Option.or_eq_some_iff.mp selected with sub | ⟨_, flat⟩
  · obtain ⟨name, first, found⟩ := Option.bind_eq_some_iff.mp sub
    obtain ⟨other, known, same⟩ := Option.map_eq_some_iff.mp found
    cases same
    rw [Utility.name_of_findCommand? known]
    exact (List.cons_head?_tail first).symm
  · obtain ⟨other, found, same⟩ := Option.map_eq_some_iff.mp flat
    cases same
    rw [Utility.name_of_implicitCommand? found]
    rfl

theorem args_of_searchIn {base : String} {utilities : List Utility} {utility : Utility} {command : Command}
    {args rest : List String} (found : searchIn base args utilities = some (utility, command, rest)) :
    args = command.name.toList ++ rest := by
  induction utilities with
  | nil => cases found
  | cons first later ih =>
    unfold searchIn at found
    split at found
    · split at found
      · rename_i selected
        cases found
        exact args_of_select? selected
      · exact ih found
    · exact ih found

theorem nodup_generatedParams (signature : String) : ((generatedParams signature).map Prod.fst).Nodup := by
  unfold generatedParams
  split <;> simp

/-- The tokens of a call: the name of the utility, that of the command if it has one, and the arguments. -/
def tokensOf (utility : Utility) (command : Command) (arguments : List String) : List String :=
  utility.commandName :: (command.name.toList ++ arguments)

/-- Whether a command of the catalog can be called with arguments: it has a placeholder of its own for each of
them, none of them is a flag, every token of the call lacks one of the quotes, and the command is the one that these
tokens select. -/
structure Call (catalog : Catalog) (utility : Utility) (command : Command) (arguments : List String) : Prop where
  distinct : command.placeholders.Nodup
  complete : command.placeholders.length = arguments.length
  ungenerated : ∀ key ∈ (generatedParams utility.signature).map Prod.fst, key ∉ command.placeholders
  unflagged : ∀ argument ∈ arguments, isFlag argument = false
  quotable : ∀ token ∈ tokensOf utility command arguments, ∃ quote, Token.isQuote quote = true ∧ quote ∉ token.toList
  selected : ∃ rest, searchIn utility.commandName (command.name.toList ++ arguments) catalog.utilities =
    some (utility, command, rest)

variable {catalog : Catalog} {utility : Utility} {command : Command} {arguments : List String}

/-- A call binds every placeholder to the argument in its place and draws the generated parameters. -/
theorem Call.bind (call : Call catalog utility command arguments) (draws : Draws) :
    ∃ drawn : List Int, drawn.length = (generatedParams utility.signature).length ∧
      (bind utility command arguments draws).1 = ⟨utility, command, .ok
        (command.placeholders.zip (arguments.map .text) ++
          ((generatedParams utility.signature).map Prod.fst).zip (drawn.map .int))⟩ := by
  have positional : positionals arguments = arguments :=
    List.filter_eq_self.mpr fun argument member => by simp [call.unflagged argument member]
  have flags : arguments.filter isFlag = [] :=
    List.filter_eq_nil_iff.mpr fun argument member => by simp [call.unflagged argument member]
  have keys : Fields.keys (command.placeholders.zip (arguments.map Value.text)) = command.placeholders :=
    Fields.keys_zip (by simpa using call.complete)
  have placed : Fields.ofPairs (command.placeholders.zip (arguments.map Value.text)) =
      command.placeholders.zip (arguments.map .text) :=
    Fields.putAll_eq_append (by rw [keys]; exact call.distinct) (by simp [Fields.keys])
  obtain ⟨drawn, length, generated⟩ := bindGenerated_eq_putAll (generatedParams utility.signature)
    (command.placeholders.zip (arguments.map .text)) draws
  have names : Fields.keys (((generatedParams utility.signature).map Prod.fst).zip (drawn.map Value.int)) =
      (generatedParams utility.signature).map Prod.fst :=
    Fields.keys_zip (by simpa using length.symm)
  refine ⟨drawn, length, ?_⟩
  rw [bind_of_complete (by rw [positional, call.complete]), positional, flags, List.foldl_nil, placed, generated,
    Fields.putAll_eq_append (by rw [names]; exact nodup_generatedParams utility.signature)
      (by rw [names, keys]; exact call.ungenerated)]

theorem Call.resolve (call : Call catalog utility command arguments) {line : List Char}
    (typed : Token.Typed (tokensOf utility command arguments) line) (draws : Draws) :
    (resolve (some catalog) (String.ofList line) draws).1 = some (Resolution.bind utility command arguments draws).1 := by
  obtain ⟨rest, selected⟩ := call.selected
  have same : rest = arguments := (List.append_cancel_left (args_of_searchIn selected)).symm
  subst same
  simp only [Resolution.resolve, Token.tokenize_typed typed, tokensOf, selected]

/-- Every call can be typed: with each token in quotes that it lacks and white space in between, the line resolves to
the command and binds every placeholder to the argument in its place, and nothing else but the generated
parameters. -/
theorem call_can_be_typed (call : Call catalog utility command arguments) (draws : Draws) :
    (∃ line, Token.Typed (tokensOf utility command arguments) line) ∧
      ∀ line, Token.Typed (tokensOf utility command arguments) line →
        ∃ params, (resolve (some catalog) (String.ofList line) draws).1 = some ⟨utility, command, .ok params⟩ ∧
          Fields.keys params = command.placeholders ++ (generatedParams utility.signature).map Prod.fst ∧
          ∀ i (named : i < command.placeholders.length) (given : i < arguments.length),
            Fields.get? params command.placeholders[i] = some (.text arguments[i]) := by
  refine ⟨Token.exists_typed (List.cons_ne_nil _ _) call.quotable, ?_⟩
  intro line typed
  obtain ⟨drawn, length, bound⟩ := call.bind draws
  refine ⟨_, (call.resolve typed draws).trans (congrArg some bound), ?_, ?_⟩
  · rw [Fields.keys, List.map_append]
    exact congrArg₂ (· ++ ·) (Fields.keys_zip (by simpa using call.complete))
      (Fields.keys_zip (by simpa using length.symm))
  · intro i named given
    rw [Fields.get?_append, Fields.get?_zip call.distinct named, List.getElem?_map, List.getElem?_eq_getElem given]
    rfl

/-- A utility that keeps files, with a command that takes two arguments. -/
def filer : Utility :=
  ⟨"`files` keeper", "", none, some [⟨some "put", "put <path> <text>", [], {}⟩], none, [], none, "fs_tools"⟩

def filerCatalog : Catalog := ⟨1, [("tools", [filer])]⟩

theorem call_can_be_typed_put :
    Call filerCatalog filer ⟨some "put", "put <path> <text>", [], {}⟩ ["", " it's\n"] ∧
      ∃ params, (resolve (some filerCatalog) "\"files\" 'put'  \"\"\t\" it's\n\"" ⟨[3]⟩).1 =
          some ⟨filer, ⟨some "put", "put <path> <text>", [], {}⟩, .ok params⟩ ∧
        Fields.keys params = ["path", "text", "files_found_count"] ∧
        Fields.get? params "path" = some (.text "") ∧ Fields.get? params "text" = some (.text " it's\n") := by
  have lacks : ∀ token ∈ ["files", "put", "", " it's\n"], '"' ∉ token.toList := by decide
  have call : Call filerCatalog filer ⟨some "put", "put <path> <text>", [], {}⟩ ["", " it's\n"] := {
    distinct := by decide
    complete := by decide
    ungenerated := by decide
    unflagged := by decide
    quotable := fun token member => ⟨'"', rfl, lacks token member⟩
    selected := ⟨["", " it's\n"], by decide⟩ }
  have blank : ∀ c ∈ [' '], Text.isBlank c = true := by simp [Text.isBlank, Text.isSpace]
  have wide : ∀ c ∈ [' ', ' '], Text.isBlank c = true := by simp [Text.isBlank, Text.isSpace]
  have tab : ∀ c ∈ ['\t'], Text.isBlank c = true := by simp [Text.isBlank, Text.isSpace]
  have typed : Token.Typed ["files", "put", "", " it's\n"] "\"files\" 'put'  \"\"\t\" it's\n\"".toList :=
    .cons rfl (by decide) blank (.cons rfl (by decide) wide (.cons rfl (by decide) tab (.last rfl (by decide))))
  obtain ⟨params, resolved, keys, bound⟩ := (call_can_be_typed call ⟨[3]⟩).2 _ typed
  exact ⟨call, params, resolved, keys, bound 0 (by decide) (by decide), bound 1 (by decide) (by decide)⟩

end Resolution

end Workbench
