import Workbench.Proofs.Files.Opens
import Workbench.Proofs.Kernel.Frame
import Workbench.Proofs.Session.Metrics
import Workbench.Proofs.Session.Preview

namespace Workbench.Session

/-- The paths of the files that a turn of the kernel writes or deletes. -/
def changedPaths : Except Overflow Turn → List String
  | .ok turn => turn.changed.map FileChange.path
  | .error _ => []

/-- The paths of the files that an operation writes or deletes. -/
def touched (session : Session) : Operation → List String
  | .command input operator => changedPaths (session.turnOn (Text.strip (input.getD "")) operator).outcome
  | .shell input => ((Shell.writing? (Text.strip (input.getD ""))).map Prod.fst).toList
  | _ => []

/-- The paths that operations touch, one after another. -/
def touchedAll : Session → List Operation → List String
  | _, [] => []
  | session, operation :: rest => session.touched operation ++ (session.after operation).touchedAll rest

variable {session : Session} {path : String}

theorem mem_keys_refresh {store : Store} :
    path ∈ Fields.keys (Index.refresh store) ↔ path = Store.previewRoot ∨ path ∈ Fields.keys store := by
  rw [Index.refresh, Fields.mem_keys_put]

/-- A new page, if one is made, adds no path but its own. -/
theorem mem_keys_of_refreshed {store : Store} {noticed : Prop} [Decidable noticed]
    (known : path ∈ Fields.keys (if noticed then Index.refresh store else store)) :
    path = Store.previewRoot ∨ path ∈ Fields.keys store := by
  split at known
  · exact mem_keys_refresh.mp known
  · exact Or.inr known

/-- The files after a line whose turn is completed. -/
theorem store_command {input : Option String} {operator : String} {turn : Turn}
    (ran : (session.turnOn (Text.strip (input.getD "")) operator).outcome = .ok turn) :
    (session.after (.command input operator)).store =
      if turn.changed.isEmpty then turn.store else Index.refresh turn.store := by
  rcases session.command_cases input operator with ⟨_, broke, _⟩ | ⟨other, events, again, same⟩
  · cases ran.symm.trans broke
  · cases ran.symm.trans again
    simp only [after, same, complete_store]

theorem touched_command {input : Option String} {operator : String} {turn : Turn}
    (ran : (session.turnOn (Text.strip (input.getD "")) operator).outcome = .ok turn) :
    session.touched (.command input operator) = turn.changed.map FileChange.path := by
  rw [touched, ran, changedPaths]

theorem touched_shell {input : Option String} {message : String}
    (writes : Shell.writing? (Text.strip (input.getD "")) = some (path, message)) (session : Session) :
    session.touched (.shell input) = [path] := by
  rw [touched, writes]
  rfl

theorem mem_paths_command {input : Option String} {operator : String}
    (known : path ∈ Fields.keys (session.after (.command input operator)).store) :
    path ∈ Fields.keys session.store ∨ path ∈ session.touched (.command input operator) ∨
      path = Store.previewRoot := by
  rcases session.command_cases input operator with ⟨_, _, same⟩ | ⟨turn, events, ran, same⟩
  · simp only [after, same] at known
    exact Or.inl known
  · rw [store_command ran, ← ite_not] at known
    rcases mem_keys_of_refreshed known with root | left
    · exact Or.inr (Or.inr root)
    · rcases (Kernel.frame_execute ran).files.mem_keys left with listed | before
      · exact Or.inr (Or.inl (by rwa [touched_command ran]))
      · exact Or.inl before

theorem mem_paths_shell {input : Option String}
    (known : path ∈ Fields.keys (session.after (.shell input)).store) :
    path ∈ Fields.keys session.store ∨ path ∈ session.touched (.shell input) ∨ path = Store.previewRoot := by
  cases writes : Shell.writing? (Text.strip (input.getD "")) with
  | some written =>
    rw [store_of_writing writes] at known
    rcases mem_keys_of_refreshed known with root | left
    · exact Or.inr (Or.inr root)
    · rcases Fields.mem_keys_put.mp left with rfl | before
      · exact Or.inr (Or.inl (by rw [touched_shell writes]; exact List.mem_singleton_self _))
      · exact Or.inl before
  | none =>
    unfold after at known
    dsimp only at known
    split at known
    · rename_i reply next served
      obtain ⟨store, ran, same⟩ := store_shell served
      rw [same, Shell.store_of_not_writing writes ran] at known
      rcases mem_keys_of_refreshed known with root | before
      · exact Or.inr (Or.inr root)
      · exact Or.inl before
    · exact Or.inl known

/-- A file that is there after an operation was there before, or the operation touched it, or it is the page. -/
theorem mem_paths_after {operation : Operation} (known : path ∈ Fields.keys (session.after operation).store) :
    path ∈ Fields.keys session.store ∨ path ∈ session.touched operation ∨ path = Store.previewRoot := by
  cases operation with
  | command input operator => exact mem_paths_command known
  | shell input => exact mem_paths_shell known
  | monologue portal =>
    rcases session.monologue_cases portal with ⟨_, same⟩ | ⟨_, _, _, _, same⟩
    · simp only [after, same] at known
      exact Or.inl known
    · simp only [after, same, say, record] at known
      exact Or.inl known
  | snapshot | tree | drain | lend _ | clock _ => exact Or.inl known

theorem plain_afterAll {operations : List Operation} (tidy : ∀ path ∈ Fields.keys session.store, Tree.IsPlain path)
    (plain : ∀ path ∈ session.touchedAll operations, Tree.IsPlain path) :
    ∀ path ∈ Fields.keys (session.afterAll operations).store, Tree.IsPlain path := by
  induction operations generalizing session with
  | nil => exact tidy
  | cons operation rest ih =>
    obtain ⟨first, later⟩ := List.forall_mem_append.mp plain
    refine ih (fun path known => ?_) later
    rcases mem_paths_after known with before | touched | root
    · exact tidy path before
    · exact first path touched
    · exact Or.inl root

/-- A utility whose one command creates a file. -/
def keeper (path : String) : Utility :=
  ⟨"keep", "", none, none, some "keep", [], some { actions := [⟨.create, path, ""⟩] }, ""⟩

/-- A session without files that knows such a command. -/
def keeping (path : String) : Session :=
  { bare with kernel := ⟨some ⟨1, [("tools", [keeper path])]⟩, [], .null⟩ }

/-- The name of the command resolves to it, and it takes no parameters. -/
theorem resolve_keeping (path : String) (draws : Draws) :
    (Resolution.resolve (keeping path).kernel.catalog (Text.strip "keep") draws).1 =
      some ⟨keeper path, ⟨none, "keep", [], { actions := [⟨.create, path, ""⟩] }⟩, .ok []⟩ := by
  have letters : "keep".toList = ['k', 'e', 'e', 'p'] := by decide
  have tokens : Token.tokenize (Text.strip "keep") = ["keep"] := by decide +kernel
  have called : (keeper path).commandName = "keep" := by
    simp [Utility.commandName, keeper, letters, Utility.backquote]
  have command : (keeper path).implicitCommand? = some ⟨none, "keep", [], { actions := [⟨.create, path, ""⟩] }⟩ := rfl
  have listed : Catalog.utilities ⟨1, [("tools", [keeper path])]⟩ = [keeper path] := rfl
  have unnamed : placeholdersFrom ['k', 'e', 'e', 'p'] none = [] := by decide
  simp only [Resolution.resolve, tokens, keeping, listed, Resolution.searchIn, called, Resolution.select?, command]
  simp [Resolution.bind, Command.placeholders, letters, unnamed, Resolution.bindPositional, generatedParams, keeper,
    Resolution.bindGenerated]

/-- Its turn creates the file and nothing else. -/
theorem turnOn_keeping (named : FileAction.isResolved path = true) :
    ∃ turn, ((keeping path).turnOn (Text.strip "keep") "Send").outcome = .ok turn ∧
      turn.store = [(path, .text "")] ∧ turn.changed = [⟨.create, path⟩] := by
  have spoken : Text.strip (Text.strip "keep") = Text.strip "keep" := by decide +kernel
  have plain : Text.leads State.overrideCommand (Text.strip (Text.strip "keep")) = false := by decide +kernel
  have resolved := resolve_keeping path (keeping path).sources.draws
  rw [← spoken] at resolved
  have created : FileAction.performAll [⟨.create, path, ""⟩] [] [] =
      ⟨[(path, .text "")], [⟨.create, path⟩], []⟩ := by
    simp [FileAction.performAll, FileAction.step, named, FileAction.perform?, Fields.has, Fields.get?, Fields.put,
      Template.render]
  have ran := Kernel.outcome_of_resolved plain resolved (keeping path).state (keeping path).store
    ((((keeping path).asked (Text.strip "keep")).history "kernel").map ChatEntry.toValue) "Send"
  have empty : (keeping path).store = [] := rfl
  simp only [Kernel.runCommand, State.applyAll, empty, created] at ran
  exact ⟨_, ran, rfl, rfl⟩

/-- A path that the shell writes is there afterwards. -/
theorem mem_paths_of_writing {input : Option String} {message : String}
    (writes : Shell.writing? (Text.strip (input.getD "")) = some (path, message)) (session : Session) :
    path ∈ Fields.keys (session.after (.shell input)).store := by
  have held : path ∈ Fields.keys
      (Fields.put session.store path (Shell.written (Fields.get? session.store path) message)) :=
    Fields.mem_keys_put.mpr (Or.inl rfl)
  rw [store_of_writing writes]
  split
  · exact mem_keys_refresh.mpr (Or.inr held)
  · exact held

/-- What can be touched at all can be written alone. -/
theorem exists_lone_write (touches : ∃ session operation, path ∈ touched session operation) :
    ∃ (session : Session) (operation : Operation), session.store = [] ∧ session.touched operation = [path] ∧
      path ∈ Fields.keys (session.after operation).store := by
  obtain ⟨session, operation, member⟩ := touches
  cases operation with
  | command input operator =>
    have named : FileAction.isResolved path = true := by
      cases ran : (session.turnOn (Text.strip (input.getD "")) operator).outcome with
      | error fault => simp only [touched, ran, changedPaths, List.not_mem_nil] at member
      | ok turn =>
        rw [touched_command ran] at member
        obtain ⟨change, listed, same⟩ := List.mem_map.mp member
        exact same ▸ Kernel.isResolved_of_execute ran change listed
    obtain ⟨turn, ran, held, changed⟩ := turnOn_keeping named
    refine ⟨keeping path, .command (some "keep") "Send", rfl, ?_, ?_⟩
    · rw [@touched_command _ (some "keep") _ _ ran, changed]
      rfl
    · have left : path ∈ Fields.keys turn.store := by
        rw [held]
        exact List.mem_singleton_self path
      rw [@store_command _ (some "keep") _ _ ran, changed]
      exact mem_keys_refresh.mpr (Or.inr left)
  | shell input =>
    cases writes : Shell.writing? (Text.strip (input.getD "")) with
    | none => simp [touched, writes] at member
    | some written =>
      rw [touched_shell writes] at member
      cases List.mem_singleton.mp member
      exact ⟨bare, .shell input, rfl, touched_shell writes bare, mem_paths_of_writing writes bare⟩
  | monologue _ | snapshot | tree | drain | lend _ | clock _ => cases member

theorem exists_touched {operations : List Operation} (member : path ∈ session.touchedAll operations) :
    ∃ session operation, path ∈ touched session operation := by
  induction operations generalizing session with
  | nil => cases member
  | cons operation rest ih =>
    rcases List.mem_append.mp member with first | later
    · exact ⟨session, operation, first⟩
    · exact ih later

/-- A session that begins with plain paths shows a tree whose files can all be opened, and never the page, through
every sequence of operations, if and only if all the paths that these may touch are plain. -/
theorem tree_opens_iff (allowed : String → Prop) :
    (∀ (session : Session) (operations : List Operation), (∀ path ∈ Fields.keys session.store, Tree.IsPlain path) →
        (∀ path ∈ session.touchedAll operations, allowed path) →
          Tree.Opens (session.afterAll operations).store (session.afterAll operations).tree.1) ↔
      ∀ path, allowed path → (∃ session operation, path ∈ touched session operation) → Tree.IsPlain path := by
  constructor
  · intro opens path permitted touches
    obtain ⟨session, operation, empty, only, held⟩ := exists_lone_write touches
    have begins : ∀ known ∈ Fields.keys session.store, Tree.IsPlain known := by
      rw [empty]
      exact nofun
    have writes : ∀ known ∈ session.touchedAll [operation], allowed known := by
      intro known member
      rw [touchedAll, touchedAll, List.append_nil, only] at member
      cases List.mem_singleton.mp member
      exact permitted
    refine Tree.isPlain_of_opens held ?_ (opens session [operation] begins writes)
    intro other known
    rcases mem_paths_after known with before | touched | root
    · rw [empty] at before
      cases before
    · rw [only] at touched
      exact Or.inl (List.mem_singleton.mp touched)
    · exact Or.inr root
  · intro plain session operations tidy permitted
    exact Tree.opens_of_plain (plain_afterAll tidy fun path member =>
      plain path (permitted path member) (exists_touched member))

/-- A path without a slash at its beginning is shown with one, and a doubled slash brings the page into the tree. -/
theorem loose_paths_not_opened :
    start probeStore ⟨none, ⟨[]⟩⟩ "09:00" = .ok (probeSession, [State.undefinedNotice "heat"]) ∧
      (∀ path ∈ Fields.keys probeSession.store, Tree.IsPlain path) ∧
      ¬ Tree.Opens (probeSession.after (.shell (some "echo hi > a"))).store
        (probeSession.after (.shell (some "echo hi > a"))).tree.1 ∧
      ¬ Tree.Opens (probeSession.after (.shell (some "echo hi > //0index.html"))).store
        (probeSession.after (.shell (some "echo hi > //0index.html"))).tree.1 := by
  refine ⟨start_probeStore, ?_, fun opens => ?_, fun opens => ?_⟩
  · unfold Tree.IsPlain
    decide +kernel
  · have writes : Shell.writing? (Text.strip ((some "echo hi > a").getD "")) = some ("a", "hi") := by decide +kernel
    have known {path : String}
        (member : path ∈ Fields.keys (probeSession.after (.shell (some "echo hi > a"))).store) :
        path ∈ [bootstrapPath, utilitiesPath, "a", Store.previewRoot] := by
      rcases mem_paths_after member with before | touched | root
      · exact List.mem_append_left ["a", Store.previewRoot] before
      · rw [touched_shell writes] at touched
        simp [List.mem_singleton.mp touched]
      · simp [root]
    have last : ∀ other ∈ [bootstrapPath, utilitiesPath, "a", Store.previewRoot],
        ¬ Tree.Leads (Tree.segments "a") (Tree.segments other) := by
      unfold Tree.Leads
      decide +kernel
    obtain ⟨_, opened⟩ := (Tree.opens_iff _).mp opens "a" (mem_paths_of_writing writes probeSession) (by decide)
    have held := opened (by decide +kernel) fun other member _ => last other (known member)
    exact absurd (known (Fields.has_iff_mem_keys.mp held)) (by decide +kernel)
  · have writes : Shell.writing? (Text.strip ((some "echo hi > //0index.html").getD "")) =
        some ("//0index.html", "hi") := by decide +kernel
    obtain ⟨apart, _⟩ := (Tree.opens_iff _).mp opens "//0index.html" (mem_paths_of_writing writes probeSession)
      (by decide)
    exact apart (by decide +kernel)

end Workbench.Session
