import Workbench.Proofs.Files.Index
import Workbench.Proofs.Files.Writing
import Workbench.Proofs.Session.Serve

namespace Workbench

/-- A turn that notes no changed file has changed none. -/
theorem Kernel.store_execute {kernel : Kernel} {sources : Sources} {input operator : String} {state : State}
    {store : Store} {history : List Value} {turn : Turn}
    (ran : (kernel.execute sources input state store history operator).outcome = .ok turn)
    (unchanged : turn.changed = []) : turn.store = store := by
  unfold execute at ran
  dsimp only at ran
  split at ran
  · cases ran
    rfl
  · split at ran
    · rename_i resolution _
      simp only [runCommand] at ran
      split at ran
      · cases ran
        rfl
      · split at ran
        · cases ran
        · cases ran
          exact FileAction.store_of_unchanged unchanged
    · simp only [interpretFreely] at ran
      split at ran
      · obtain ⟨next, _, same⟩ := Except.map_eq_ok.mp ran
        rw [← same]
      · cases ran
        rfl

namespace Session

/-- The files after a completed turn: as the turn left them, with a new page if one of them changed. -/
theorem complete_store (session : Session) (turn : Turn) (line : String) :
    (session.complete turn line).store = if turn.changed.isEmpty then turn.store else Index.refresh turn.store := by
  obtain ⟨log, same⟩ := recordTurn_log
    ({ session with state := turn.state, store := turn.store }.say "kernel" [ChatEntry.of turn.role turn.text])
    turn line
  unfold complete
  dsimp only
  rw [same]
  split <;> rfl

/-- Whether the session notices every file that a line of the shell writes: the line begins with the letters
of an echo whenever the shell takes it for one. -/
def Notices (input : Option String) : Prop :=
  (Shell.writing? (Text.strip (input.getD ""))).isSome = true → Text.leads "echo" (Text.strip (input.getD "")) = true

/-- The files after a line of the shell that is served. -/
theorem store_shell {session next : Session} {input : Option String} {reply : Shell.Reply}
    (served : session.shell input = .ok (reply, next)) :
    ∃ store, Shell.run session.state session.store (input.getD "") = .ok (reply, store) ∧
      next.store = if Text.leads "echo" (Text.strip (input.getD "")) then Index.refresh store else store := by
  obtain ⟨⟨answer, store⟩, ran, same⟩ := Except.map_eq_ok.mp served
  cases same
  refine ⟨store, ran, ?_⟩
  dsimp only
  split <;> split <;> rfl

theorem isFresh_shell {session : Session} (fresh : Index.IsFresh session.store) {input : Option String}
    (notices : Notices input) : Index.IsFresh (session.after (.shell input)).store := by
  unfold after
  dsimp only
  split
  · rename_i reply next served
    obtain ⟨store, ran, same⟩ := store_shell served
    rw [same]
    split
    · exact Index.isFresh_refresh store
    · rename_i silent
      have still : Shell.writing? (Text.strip (input.getD "")) = none := by
        rw [← Option.not_isSome_iff_eq_none]
        exact fun writes => silent (notices writes)
      rw [Shell.store_of_not_writing still ran]
      exact fresh
  · exact fresh

theorem isFresh_command {session : Session} (fresh : Index.IsFresh session.store) (input : Option String)
    (operator : String) : Index.IsFresh (session.after (.command input operator)).store := by
  rcases session.command_cases input operator with ⟨_, _, same⟩ | ⟨turn, events, ran, same⟩
  · simp only [after, same]
    exact fresh
  · simp only [after, same, complete_store]
    split
    · rename_i unchanged
      rw [Kernel.store_execute ran (List.isEmpty_iff.mp unchanged)]
      exact fresh
    · exact Index.isFresh_refresh turn.store

/-- Every operation keeps the page fresh, if it is not a line of the shell that writes unnoticed. -/
theorem isFresh_after {session : Session} (fresh : Index.IsFresh session.store) {operation : Operation}
    (notices : ∀ input, operation = .shell input → Notices input) :
    Index.IsFresh (session.after operation).store := by
  cases operation with
  | command input operator => exact isFresh_command fresh input operator
  | shell input => exact isFresh_shell fresh (notices input rfl)
  | monologue portal =>
    rcases session.monologue_cases portal with ⟨_, same⟩ | ⟨_, _, _, _, same⟩
    · simp only [after, same]
      exact fresh
    · simp only [after, same, say, record]
      exact fresh
  | snapshot | tree | drain | lend _ | clock _ => exact fresh

theorem isFresh_afterAll {session : Session} (fresh : Index.IsFresh session.store) {operations : List Operation}
    (notices : ∀ input, .shell input ∈ operations → Notices input) :
    Index.IsFresh (session.afterAll operations).store := by
  induction operations generalizing session with
  | nil => exact fresh
  | cons operation rest ih =>
    refine ih (isFresh_after fresh fun input same => notices input ?_) fun input member =>
      notices input (List.mem_cons_of_mem operation member)
    rw [same]
    exact List.mem_cons_self

/-- The files after a line that writes one. -/
theorem store_of_writing {input : Option String} {path message : String}
    (writes : Shell.writing? (Text.strip (input.getD "")) = some (path, message)) (session : Session) :
    (session.after (.shell input)).store =
      if Text.leads "echo" (Text.strip (input.getD "")) then
        Index.refresh (Fields.put session.store path (Shell.written (Fields.get? session.store path) message))
      else Fields.put session.store path (Shell.written (Fields.get? session.store path) message) := by
  obtain ⟨reply, _, ran⟩ := Shell.run_of_writing writes session.state session.store
  unfold after
  dsimp only
  split
  · rename_i answer next served
    obtain ⟨store, again, same⟩ := store_shell served
    cases ran.symm.trans again
    exact same
  · rename_i fault refused
    simp only [shell, ran, Except.map] at refused
    cases refused

/-- A bare session with some files and their page. -/
def paged (files : Store) : Session :=
  { bare with store := Index.refresh files }

/-- The files of such a session after a line that writes unnoticed. -/
theorem store_unnoticed (files : Store) {input : Option String} {path message : String}
    (writes : Shell.writing? (Text.strip (input.getD "")) = some (path, message))
    (silent : Text.leads "echo" (Text.strip (input.getD "")) = false) :
    ((paged files).after (.shell input)).store =
      Fields.put (Index.refresh files) path
        (Shell.written (Fields.get? (Index.refresh files) path) message) := by
  rw [store_of_writing writes, silent]
  rfl

/-- A file that is written unnoticed is missing from the page. -/
theorem stale_of_unnoticed {input : Option String} {path message : String}
    (writes : Shell.writing? (Text.strip (input.getD "")) = some (path, message))
    (silent : Text.leads "echo" (Text.strip (input.getD "")) = false) (other : path ≠ Store.previewRoot) :
    ¬ Index.IsFresh ((paged []).after (.shell input)).store := by
  rw [store_unnoticed [] writes silent, Index.IsFresh, Fields.get?_put, if_neg other, Index.isFresh_refresh]
  intro same
  refine Index.page_ne path ?_ ?_ (FileContent.text.inj (Option.some.inj same))
  · rw [Index.listed_paths]
    exact Index.listed_root
  · rw [Index.listed_paths, ← Index.listed_single other]
    refine Index.listed_eq_of_perm ?_
    simp [Index.refresh, Fields.put, Fields.keys, other.symm]

/-- For each line that writes unnoticed there is a session whose page it leaves behind. -/
theorem exists_stale {input : Option String} {path message : String}
    (writes : Shell.writing? (Text.strip (input.getD "")) = some (path, message))
    (silent : Text.leads "echo" (Text.strip (input.getD "")) = false) :
    ∃ files, ¬ Index.IsFresh ((paged files).after (.shell input)).store := by
  by_cases root : path = Store.previewRoot
  · subst root
    -- The line writes the page itself, and one text cannot be the page of two different sets of files.
    by_contra none
    have told (files : Store) : message = Index.page (Store.paths files) := by
      have fresh := not_not.mp (not_exists.mp none files)
      rw [store_unnoticed files writes silent, Index.IsFresh, Fields.get?_put, if_pos rfl, Index.page_put_root,
        Index.refresh, Fields.get?_put, if_pos rfl, Index.page_put_root] at fresh
      exact FileContent.text.inj (Option.some.inj fresh)
    have alone : Index.listed (Store.paths [(Store.previewRoot, .text "")]) = [] := by
      rw [Index.listed_paths]
      exact Index.listed_root
    have beside : Index.listed (Store.paths [("/a", .text "")]) = ["/a"] := by
      rw [Index.listed_paths]
      exact Index.listed_single (by decide)
    exact Index.page_ne "/a" alone beside ((told _).symm.trans (told _))
  · exact ⟨[], stale_of_unnoticed writes silent root⟩

/-- The page of a session stays fresh through every sequence of operations if and only if the session notices
every file that the lines of the shell among them may write. -/
theorem page_stays_fresh_iff (allowed : Option String → Prop) :
    (∀ (session : Session) (operations : List Operation), Index.IsFresh session.store →
        (∀ input, .shell input ∈ operations → allowed input) →
          Index.IsFresh (session.afterAll operations).store) ↔
      ∀ input, allowed input → Notices input := by
  constructor
  · intro fresh input permitted writes
    by_contra unled
    obtain ⟨⟨path, message⟩, written⟩ := Option.isSome_iff_exists.mp writes
    obtain ⟨files, stale⟩ := exists_stale written (by simpa using unled)
    refine stale (fresh (paged files) [.shell input] (Index.isFresh_refresh files) ?_)
    intro other member
    cases List.mem_singleton.mp member
    exact permitted
  · intro notices session operations fresh permitted
    exact isFresh_afterAll fresh fun input member => notices input (permitted input member)

/-- An echo in quotes adds a file that the page does not list. -/
theorem quoted_echo_goes_unnoticed :
    Index.IsFresh (paged []).store ∧
      ¬ Index.IsFresh ((paged []).after (.shell (some "'echo' hi > /a"))).store := by
  have writes : Shell.writing? (Text.strip "'echo' hi > /a") = some ("/a", "o' hi") := by decide +kernel
  have silent : Text.leads "echo" (Text.strip "'echo' hi > /a") = false := by decide +kernel
  exact ⟨Index.isFresh_refresh [], stale_of_unnoticed writes silent (by decide)⟩

end Session

end Workbench
