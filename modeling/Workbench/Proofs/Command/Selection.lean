import Workbench.Catalog.Load
import Workbench.Proofs.Command.Resolve

namespace Workbench

namespace Utility

/-- Whether a utility has a command for what stands after its name: one that bears the next name there, or a usage
line of its own that is not empty. -/
def IsEligible (utility : Utility) (args : List String) : Prop :=
  (∃ command ∈ utility.ownCommands, ∃ name ∈ args.head?, command.name = some name) ∨
    ∃ usage ∈ utility.usage, usage ≠ ""

/-- The command of a utility that is meant by what stands after its name, with its arguments: the first command that
bears the next name there, else the utility's own usage line. -/
inductive Means (utility : Utility) : List String → Command → List String → Prop
  | sub {name : String} {args : List String} {command : Command} {earlier later : List Command}
      (own : utility.ownCommands = earlier ++ command :: later) (named : command.name = some name)
      (first : ∀ other ∈ earlier, other.name ≠ some name) : Means utility (name :: args) command args
  | flat {usage : String} {args : List String} (used : utility.usage = some usage) (filled : usage ≠ "")
      (without : ∀ command ∈ utility.ownCommands, ∀ name ∈ args.head?, command.name ≠ some name) :
      Means utility args ⟨none, usage, utility.parameters, utility.impact.getD {}⟩ args

variable {utility : Utility} {command : Command} {name : String} {args rest : List String}

theorem Means.isEligible (means : utility.Means args command rest) : utility.IsEligible args := by
  cases means with
  | sub own named first =>
    have member : command ∈ utility.ownCommands := by simp [own]
    exact Or.inl ⟨command, member, _, rfl, named⟩
  | flat used filled without => exact Or.inr ⟨_, used, filled⟩

theorem findCommand?_eq_some_iff : utility.findCommand? name = some command ↔ command.name = some name ∧
    ∃ earlier later, utility.ownCommands = earlier ++ command :: later ∧ ∀ other ∈ earlier, other.name ≠ some name := by
  simp [findCommand?, List.find?_eq_some_iff_append]

theorem findCommand?_eq_none_iff :
    utility.findCommand? name = none ↔ ∀ command ∈ utility.ownCommands, command.name ≠ some name := by
  simp [findCommand?]

theorem implicitCommand?_eq_some_iff : utility.implicitCommand? = some command ↔ ∃ usage, utility.usage = some usage ∧
    usage ≠ "" ∧ ⟨none, usage, utility.parameters, utility.impact.getD {}⟩ = command := by
  simp [implicitCommand?, flatUsage?, and_assoc]

end Utility

/-- The first utility of a catalog that bears the first token for its name and has a command for the others. -/
def Catalog.FirstEligible (catalog : Catalog) (tokens : List String) (utility : Utility) : Prop :=
  ∃ earlier later, catalog.utilities = earlier ++ utility :: later ∧ some utility.commandName = tokens.head? ∧
    utility.IsEligible tokens.tail ∧
    ∀ other ∈ earlier, some other.commandName = tokens.head? → ¬ other.IsEligible tokens.tail

namespace Resolution

variable {utility : Utility} {command : Command} {args rest : List String}

theorem select?_eq_some_iff : select? utility args = some (command, rest) ↔ utility.Means args command rest := by
  constructor
  · intro selected
    rcases Option.or_eq_some_iff.mp selected with sub | ⟨unmatched, flat⟩
    · obtain ⟨name, head, known⟩ := Option.bind_eq_some_iff.mp sub
      obtain ⟨other, found, same⟩ := Option.map_eq_some_iff.mp known
      obtain ⟨named, earlier, later, own, first⟩ := Utility.findCommand?_eq_some_iff.mp found
      cases same
      rw [← List.cons_head?_tail head]
      exact .sub own named first
    · obtain ⟨other, found, same⟩ := Option.map_eq_some_iff.mp flat
      obtain ⟨usage, used, filled, rfl⟩ := Utility.implicitCommand?_eq_some_iff.mp found
      cases same
      refine .flat used filled fun command own name head => ?_
      have unknown := Option.bind_eq_none_iff.mp unmatched name head
      exact Utility.findCommand?_eq_none_iff.mp (Option.map_eq_none_iff.mp unknown) command own
  · intro means
    cases means with
    | sub own named first =>
      have found := Utility.findCommand?_eq_some_iff.mpr ⟨named, _, _, own, first⟩
      simp [select?, found]
    | flat used filled without =>
      have found := Utility.implicitCommand?_eq_some_iff.mpr ⟨_, used, filled, rfl⟩
      have unmatched : (args.head?.bind fun name => (utility.findCommand? name).map fun command => (command, args.tail)) =
          none := by
        refine Option.bind_eq_none_iff.mpr fun name head => ?_
        rw [Utility.findCommand?_eq_none_iff.mpr fun command own => without command own name head, Option.map_none]
      rw [select?, unmatched, found]
      rfl

theorem select?_eq_none_iff : select? utility args = none ↔ ¬ utility.IsEligible args := by
  have flat : utility.implicitCommand?.map (fun command => (command, args)) = none ↔
      ¬ ∃ usage ∈ utility.usage, usage ≠ "" := by
    simp [Utility.implicitCommand?, Utility.flatUsage?]
  have sub : (args.head?.bind fun name => (utility.findCommand? name).map fun command => (command, args.tail)) = none ↔
      ¬ ∃ command ∈ utility.ownCommands, ∃ name ∈ args.head?, command.name = some name := by
    simp only [Option.bind_eq_none_iff, Option.map_eq_none_iff, Utility.findCommand?_eq_none_iff, not_exists, not_and]
    exact ⟨fun all command own name head => all name head command own,
      fun all name head command own => all command own name head⟩
  rw [Utility.IsEligible, not_or, ← sub, ← flat]
  exact Option.or_eq_none_iff

/-- The search is the first utility in order that is of the name and has a command for the tokens. -/
theorem searchIn_eq_findSome? (base : String) (args : List String) (utilities : List Utility) :
    searchIn base args utilities = utilities.findSome? fun utility =>
      if utility.commandName = base then (select? utility args).map fun call => (utility, call) else none := by
  induction utilities with
  | nil => rfl
  | cons first later ih =>
    rw [searchIn, List.findSome?_cons, ih]
    by_cases named : first.commandName = base
    · rw [if_pos named, if_pos named]
      cases select? first args <;> rfl
    · rw [if_neg named, if_neg named]

theorem searchIn_eq_none_iff {base : String} {utilities : List Utility} : searchIn base args utilities = none ↔
    ∀ utility ∈ utilities, utility.commandName = base → ¬ utility.IsEligible args := by
  simp [searchIn_eq_findSome?, select?_eq_none_iff]

theorem searchIn_eq_some_iff {base : String} {utilities : List Utility} :
    searchIn base args utilities = some (utility, command, rest) ↔ ∃ earlier later,
      utilities = earlier ++ utility :: later ∧ utility.commandName = base ∧ utility.Means args command rest ∧
        ∀ other ∈ earlier, other.commandName = base → ¬ other.IsEligible args := by
  simp [searchIn_eq_findSome?, List.findSome?_eq_some_iff, select?_eq_none_iff, select?_eq_some_iff, and_assoc]

/-- What the tokens of a line call in a catalog: a utility, its command and the arguments. -/
def search? (catalog : Option Catalog) (tokens : List String) : Option (Utility × Command × List String) :=
  catalog.bind fun known => tokens.head?.bind fun base => searchIn base tokens.tail known.utilities

theorem resolve_eq_elim (catalog : Option Catalog) (line : String) (draws : Draws) :
    resolve catalog line draws = (search? catalog (Token.tokenize line)).elim (none, draws) fun call =>
      (bind call.1 call.2.1 call.2.2 draws).map some id := by
  unfold resolve search?
  cases catalog with
  | none => rfl
  | some known =>
    cases Token.tokenize line with
    | nil => rfl
    | cons base args =>
      simp only [Option.bind_some, List.head?_cons, List.tail_cons]
      cases searchIn base args known.utilities <;> rfl

theorem search?_eq_none_iff {catalog : Option Catalog} {tokens : List String} : search? catalog tokens = none ↔
    catalog = none ∨ tokens = [] ∨ ∀ known ∈ catalog, ∀ utility ∈ known.utilities,
      some utility.commandName = tokens.head? → ¬ utility.IsEligible tokens.tail := by
  cases catalog with
  | none => simp [search?]
  | some known =>
    cases tokens with
    | nil => simp [search?]
    | cons base args => simp [search?, searchIn_eq_none_iff]

theorem search?_eq_some_iff {catalog : Option Catalog} {tokens : List String} :
    search? catalog tokens = some (utility, command, rest) ↔ ∃ known, catalog = some known ∧
      known.FirstEligible tokens utility ∧ utility.Means tokens.tail command rest := by
  cases catalog with
  | none => simp [search?]
  | some known =>
    cases tokens with
    | nil => simp [search?, Catalog.FirstEligible]
    | cons base args =>
      have first : searchIn base args known.utilities = some (utility, command, rest) ↔
          known.FirstEligible (base :: args) utility ∧ utility.Means args command rest := by
        rw [searchIn_eq_some_iff]
        constructor
        · rintro ⟨earlier, later, split, named, means, passed⟩
          exact ⟨⟨earlier, later, split, congrArg some named, means.isEligible,
            fun other before same => passed other before (Option.some.inj same)⟩, means⟩
        · rintro ⟨⟨earlier, later, split, named, _, passed⟩, means⟩
          exact ⟨earlier, later, split, Option.some.inj named, means,
            fun other before same => passed other before (congrArg some same)⟩
      simp [search?, first]

/-- What is resolved is the call that the tokens make, bound to its arguments. -/
theorem call_of_resolve {catalog : Option Catalog} {line : String} {draws : Draws} {resolution : Resolution}
    (resolved : (resolve catalog line draws).1 = some resolution) : ∃ args,
      search? catalog (Token.tokenize line) = some (resolution.utility, resolution.command, args) ∧
      (bind resolution.utility resolution.command args draws).1 = resolution ∧
      resolve catalog line draws = (bind resolution.utility resolution.command args draws).map some id := by
  rw [resolve_eq_elim] at resolved ⊢
  cases found : search? catalog (Token.tokenize line) with
  | none => simp [found] at resolved
  | some call =>
    obtain ⟨utility, command, args⟩ := call
    rw [found] at resolved
    have same : (bind utility command args draws).1 = resolution := Option.some.inj resolved
    rw [bind_fst] at same
    subst same
    exact ⟨args, rfl, bind_fst utility command args draws, rfl⟩

theorem params_describe_of_error {resolution : Resolution} {fault : BindFault}
    (failed : resolution.outcome = .error fault) : (describe resolution).member? "params" = some (.list []) := by
  simp [describe, failed, Value.member?, Fields.get?]

/-- A line is left to free interpretation exactly when no utility of its first token's name has a command for it.
Otherwise the first that has one is called, with what follows for arguments; and the call fails exactly when it has
fewer arguments, flags apart, than the command has placeholders: for the first placeholder without one, with no
parameter bound and nothing drawn. -/
theorem resolve_calls_first_eligible (catalog : Option Catalog) (line : String) (draws : Draws) :
    ((resolve catalog line draws).1 = none ↔
      catalog = none ∨ Token.tokenize line = [] ∨ ∀ known ∈ catalog, ∀ utility ∈ known.utilities,
        some utility.commandName = (Token.tokenize line).head? → ¬ utility.IsEligible (Token.tokenize line).tail) ∧
    ∀ resolution, (resolve catalog line draws).1 = some resolution → ∃ known args, catalog = some known ∧
      known.FirstEligible (Token.tokenize line) resolution.utility ∧
      resolution.utility.Means (Token.tokenize line).tail resolution.command args ∧
      resolve catalog line draws = (bind resolution.utility resolution.command args draws).map some id ∧
      ((∃ fault, resolution.outcome = .error fault) ↔
        (positionals args).length < resolution.command.placeholders.length) ∧
      ∀ fault, resolution.outcome = .error fault → fault.kind = "ParameterError" ∧
        (∃ name, resolution.command.placeholders[(positionals args).length]? = some name ∧
          fault.message = "Missing required parameter: " ++ name) ∧
        (describe resolution).member? "params" = some (.list []) ∧ (resolve catalog line draws).2 = draws := by
  constructor
  · rw [resolve_eq_elim, ← search?_eq_none_iff]
    cases search? catalog (Token.tokenize line) <;> simp
  · intro resolution resolved
    obtain ⟨args, found, bound, whole⟩ := call_of_resolve resolved
    obtain ⟨known, present, first, means⟩ := search?_eq_some_iff.mp found
    have failed_iff : (∃ fault, resolution.outcome = .error fault) ↔ _ := bound ▸ exists_outcome_bind_eq_error_iff
    refine ⟨known, args, present, first, means, whole, failed_iff, fun fault failed => ?_⟩
    have refused : (bind resolution.utility resolution.command args draws).1.outcome = .error fault := by rwa [bound]
    obtain ⟨name, missing, rfl⟩ := outcome_bind_eq_error_iff.mp refused
    refine ⟨rfl, ⟨name, missing, rfl⟩, params_describe_of_error failed, ?_⟩
    rw [whole]
    exact draws_of_outcome_bind refused

/-- A utility that shares the name of another and lacks its command. -/
def clerk : Utility :=
  ⟨"log", "", none, some [⟨some "list", "list", [], {}⟩], none, [], none, ""⟩

def putEntry : Command :=
  ⟨some "put", "put <path> <text>", [], {}⟩

def keeper : Utility :=
  ⟨"\x60log\x60 keeper", "", none, some [putEntry], some "log <path>", [], none, "fs_tools"⟩

def logCatalog : Catalog :=
  ⟨1, [("desk", [clerk]), ("archive", [keeper])]⟩

theorem resolve_calls_first_eligible_log :
    (resolve (some logCatalog) "log put --now /a" ⟨[3]⟩).1 =
        some ⟨keeper, putEntry, .error (.missingParameter "text")⟩ ∧
      logCatalog.FirstEligible ["log", "put", "--now", "/a"] keeper ∧
      (∃ args, keeper.Means ["put", "--now", "/a"] putEntry args ∧ (positionals args).length < 2) ∧
      (resolve (some logCatalog) "log put --now /a" ⟨[3]⟩).2 = ⟨[3]⟩ := by
  have resolved : (resolve (some logCatalog) "log put --now /a" ⟨[3]⟩).1 =
      some ⟨keeper, putEntry, .error (.missingParameter "text")⟩ := rfl
  obtain ⟨known, args, present, first, means, -, short, failure⟩ :=
    (resolve_calls_first_eligible (some logCatalog) "log put --now /a" ⟨[3]⟩).2 _ resolved
  cases present
  exact ⟨resolved, first, ⟨args, means, short.mp ⟨_, rfl⟩⟩, (failure _ rfl).2.2.2⟩

/-- The tokens of a line that is resolved are those of a call of its command. -/
theorem tokens_of_search? {catalog : Option Catalog} {tokens : List String}
    (found : search? catalog tokens = some (utility, command, rest)) : tokens = tokensOf utility command rest := by
  obtain ⟨known, -, ⟨earlier, later, -, named, -⟩, means⟩ := search?_eq_some_iff.mp found
  rw [tokensOf, ← args_of_select? (select?_eq_some_iff.mpr means)]
  exact (List.cons_head?_tail named.symm).symm

/-- An argument is bound as it was typed exactly when no flag bears the name of its placeholder: such a flag puts
itself in its place. -/
theorem keeps_argument_iff {catalog : Option Catalog} {line : String} {draws : Draws} {params : Fields Value}
    (resolved : (resolve catalog line draws).1 = some ⟨utility, command, .ok params⟩)
    (distinct : command.placeholders.Nodup)
    (ungenerated : ∀ key ∈ (generatedParams utility.signature).map Prod.fst, key ∉ command.placeholders) :
    ∃ args, Token.tokenize line = tokensOf utility command args ∧
      ∀ i (named : i < command.placeholders.length), ∃ arg, (positionals args)[i]? = some arg ∧
        (Fields.get? params command.placeholders[i] = some (.text arg) ↔ command.placeholders[i] ∉ flagNames args) ∧
        (command.placeholders[i] ∈ flagNames args → Fields.get? params command.placeholders[i] = some (.bool true)) := by
  obtain ⟨args, found, bound, -⟩ := call_of_resolve resolved
  refine ⟨args, tokens_of_search? found, fun i named => ?_⟩
  have outcome := congrArg Resolution.outcome bound
  have given : i < (positionals args).length := named.trans_le (complete_of_outcome_bind outcome)
  have member : command.placeholders[i] ∈ command.placeholders := List.getElem_mem named
  have last : ∀ j, i < j → command.placeholders[j]? ≠ some command.placeholders[i] := by
    intro j behind same
    obtain ⟨inside, equal⟩ := List.getElem?_eq_some_iff.mp same
    exact behind.ne' (distinct.getElem_inj_iff.mp equal)
  have value := get?_of_bind outcome (Command.ne_empty_of_mem_placeholders member)
    fun generated => ungenerated _ generated member
  rw [get?_placeholders (List.getElem?_eq_getElem named) last given] at value
  refine ⟨(positionals args)[i], List.getElem?_eq_getElem given, ?_, fun flagged => by rw [value, if_pos flagged]⟩
  rw [value]
  split <;> simp [*]

def logged : Fields Value :=
  [("path", .text "/a"), ("text", .bool true), ("now", .bool true), ("files_found_count", .int 3)]

theorem keeps_argument_iff_log :
    (resolve (some logCatalog) "log put --now /a 'two words' -text" ⟨[3]⟩).1 = some ⟨keeper, putEntry, .ok logged⟩ ∧
      (Fields.get? logged "path" = some (.text "/a") ↔ "path" ∉ flagNames ["--now", "/a", "two words", "-text"]) ∧
      (Fields.get? logged "text" = some (.text "two words") ↔
        "text" ∉ flagNames ["--now", "/a", "two words", "-text"]) ∧
      Fields.get? logged "text" = some (.bool true) := by
  have resolved : (resolve (some logCatalog) "log put --now /a 'two words' -text" ⟨[3]⟩).1 =
      some ⟨keeper, putEntry, .ok logged⟩ := rfl
  obtain ⟨args, tokens, kept⟩ := keeps_argument_iff resolved (by decide) (by decide)
  have same : ["--now", "/a", "two words", "-text"] = args := congrArg (List.drop 2) tokens
  subst same
  obtain ⟨path, first, stays, -⟩ := kept 0 (by decide)
  obtain ⟨text, second, replaced, flagged⟩ := kept 1 (by decide)
  cases first
  cases second
  exact ⟨resolved, stays, replaced, flagged (by decide)⟩

/-- A document with one utility, which takes one argument. -/
def openDocument : Value :=
  .object [("sections", .object [("s", .object [("utilities", .list [
    .object [("name", .text "open"), ("syntax", .text "open <path>")]])])])]

def opener : Utility :=
  ⟨"open", "", none, none, some "open <path>", [], none, ""⟩

/-- The flag of a placeholder's name takes the place of the argument. -/
theorem flag_replaces_argument :
    Catalog.load openDocument = .ok ⟨1, [("s", [opener])]⟩ ∧
      Token.tokenize "open /a --path" = ["open", "/a", "--path"] ∧ positionals ["/a", "--path"] = ["/a"] ∧
      (resolve (some ⟨1, [("s", [opener])]⟩) "open /a --path" ⟨[]⟩).1 =
        some ⟨opener, ⟨none, "open <path>", [], {}⟩, .ok [("path", .bool true)]⟩ :=
  ⟨rfl, rfl, rfl, rfl⟩

end Resolution

end Workbench
