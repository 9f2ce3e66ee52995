import Workbench.Proofs.Session.Serve
import Workbench.Proofs.Sync.Copies

namespace Workbench

theorem ChatEntry.members_areJson (entry : ChatEntry) : Value.membersAreJson entry.members = true := by
  obtain ⟨role, text⟩ := entry
  cases text <;> rfl

theorem LogEntry.members_areJson (entry : LogEntry) : Value.membersAreJson entry.members = true :=
  rfl

theorem Snapshot.sendable_isJson (path : String) (content : FileContent)
    (arrays : ∀ items, content = .array items → Value.itemsAreJson items = true) :
    (sendable path content.toValue).isJson = true := by
  cases content with
  | text s => rfl
  | blob bytes =>
    simp only [FileContent.toValue, sendable]
    split
    · split <;> rfl
    · rfl
  | array items => exact arrays items rfl

theorem Snapshot.get?_filesOf (store : Store) (path : String) :
    (filesOf store).get? path = (Fields.get? store path).map fun content => sendable path content.toValue := by
  unfold filesOf
  rw [← Fields.get?_sorted store path]
  exact Fields.get?_mapEntries (fun path content => sendable path content.toValue) (Fields.sorted store) path

namespace Session

/-- Whether the state and the arrays of a session hold nothing but JSON with finite numbers. -/
structure IsJson (session : Session) : Prop where
  state : Value.membersAreJson session.state = true
  arrays : ∀ file ∈ session.store, ∀ items, file.2 = .array items → Value.itemsAreJson items = true

/-- The history of a key as a portal is told of it. -/
def told (session : Session) (key : String) : Option (List (Fields Value)) :=
  (session.histories.get? key).map fun history => history.map ChatEntry.members

/-- The file of a path as a portal is told of it: a text or an array as it is, and a blob as the text that it
encodes, or as a placeholder where it encodes none. -/
def Shows (session : Session) (path : String) (file : Option Value) : Prop :=
  match Fields.get? session.store path with
  | none => file = none
  | some (.text content) => file = some (.text content)
  | some (.array items) => file = some (.list items)
  | some (.blob bytes) => ∃ text, file = some (.text text) ∧
      (Mime.isText (Mime.ofPath path) = true ∧ Text.decodeUtf8 bytes = .ok text ∨
        (Mime.isText (Mime.ofPath path) = true → ∀ other, Text.decodeUtf8 bytes ≠ .ok other) ∧
          text = Snapshot.placeholder (Mime.ofPath path))

theorem histories_areJson (session : Session) :
    ∀ history ∈ session.snapshot.histories, ∀ entry ∈ history.2, Value.membersAreJson entry = true := by
  intro history member entry said
  obtain ⟨source, _, rfl⟩ := List.mem_map.mp member
  obtain ⟨line, _, rfl⟩ := List.mem_map.mp said
  exact line.members_areJson

theorem snapshot_isJson {session : Session} (json : session.IsJson) : session.snapshot.IsJson where
  state := json.state
  histories := session.histories_areJson
  log := by
    intro entry member
    obtain ⟨line, _, rfl⟩ := List.mem_map.mp member
    exact line.members_areJson
  files := by
    rw [Value.membersAreJson_iff]
    intro file member
    obtain ⟨source, stored, rfl⟩ := List.mem_map.mp member
    exact Snapshot.sendable_isJson _ _ (json.arrays source (List.mem_mergeSort.mp stored))

theorem shows_snapshot (session : Session) (path : String) :
    session.Shows path (session.snapshot.files.get? path) := by
  have told : session.snapshot.files.get? path = _ := Snapshot.get?_filesOf session.store path
  rw [told, Shows]
  cases Fields.get? session.store path with
  | none => rfl
  | some content =>
    cases content with
    | text s | array items => rfl
    | blob bytes =>
      simp only [Option.map_some, FileContent.toValue, Snapshot.sendable]
      by_cases textual : Mime.isText (Mime.ofPath path) = true
      · rw [if_pos textual]
        cases decoded : Text.decodeUtf8 bytes with
        | ok text => exact ⟨text, rfl, Or.inl ⟨textual, rfl⟩⟩
        | error fault => exact ⟨_, rfl, Or.inr ⟨fun _ => nofun, rfl⟩⟩
      · rw [if_neg textual]
        exact ⟨_, rfl, Or.inr ⟨fun textual' => absurd textual' textual, rfl⟩⟩

theorem get?_snapshot_histories (session : Session) (key : String) :
    session.snapshot.histories.get? key = session.told key :=
  Fields.get?_mapValues _ session.histories key

/-- The histories of an action are the one of the portal that is served, as the monologue leaves it; a portal
that does not exist has none. -/
theorem histories_authority (session : Session) (portal payload : String) :
    authority.histories portal payload session = .object [] ∨
      ∃ entries, (session.after (.monologue portal)).histories.get? portal = some entries ∧
        authority.histories portal payload session =
          .object [(portal, .list (entries.map ChatEntry.toValue))] := by
  rcases session.monologue_cases portal with ⟨_, same⟩ | ⟨_, entry, sources, answered, same⟩
  · left
    simp only [Authority.histories, authority, same, Primary.historiesOf]
  · refine Or.inr ⟨session.history portal ++ [entry], ?_, ?_⟩
    · simp only [after, same]
      simp only [record, say, Fields.get?_put, if_true]
      rfl
    · simp only [Authority.histories, authority]
      generalize session.monologue portal = spoken at answered
      obtain ⟨outcome, next, notices⟩ := spoken
      cases answered
      rfl

/-- An update of the primary is the snapshot of the session, in the terms of JSON. -/
theorem snapshot_posted {moment : Moment Session}
    (own : ∀ snapshot, moment.move = .broadcast (some snapshot) → snapshot = moment.exchange.state.source.snapshot)
    {data : Value} {update : Snapshot} (posted : moment.posted? authority = some data)
    (read : Message.parse data = .ok (.update update)) : moment.exchange.state.source.snapshot.plain = .ok update := by
  rcases Moment.posted_eq_some posted with ⟨snapshot, source, dumped⟩ | ⟨_, _, _, _, _, _, _, dumped⟩
  · have same : snapshot = moment.exchange.state.source.snapshot := by
      rcases source with move | taken
      · exact own snapshot move
      · cases taken
        rfl
    subst same
    obtain ⟨arrived, made, same⟩ := Message.parse_update dumped
    cases read.symm.trans same
    exact made
  · obtain ⟨arrived, _, same⟩ := Message.parse_response dumped
    cases read.symm.trans same

theorem dictionary_history (portal : String) (history : List ChatEntry) :
    Schema.dictionary (Schema.list Schema.anyObject)
      (.object [(portal, .list (history.map ChatEntry.toValue))]) =
        .valid [(portal, history.map ChatEntry.members)] := by
  have read := Schema.dictionary_histories [(portal, history.map ChatEntry.members)]
  simp only [Fields.mapValues, List.map_cons, List.map_nil, List.map_map] at read
  exact read

theorem plainHistories_history (portal : String) (history : List ChatEntry) :
    Message.plainHistories [(portal, history.map ChatEntry.members)] =
      .ok [(portal, history.map ChatEntry.members)] := by
  refine Message.plainHistories_of_areJson ?_
  intro named member entry said
  cases List.mem_singleton.mp member
  obtain ⟨line, _, rfl⟩ := List.mem_map.mp said
  exact line.members_areJson

/-- One history arrives as it is told. -/
theorem sent_history {portal : String} {history : List ChatEntry} {read sent : Fields (List (Fields Value))}
    (valid : Schema.dictionary (Schema.list Schema.anyObject)
      (.object [(portal, .list (history.map ChatEntry.toValue))]) = .valid read)
    (made : Message.plainHistories read = .ok sent) : sent = [(portal, history.map ChatEntry.members)] := by
  rw [dictionary_history] at valid
  cases valid
  exact Except.ok.inj (made.symm.trans (plainHistories_history portal history))

theorem response_posted {moment : Moment Session} {data : Value} {histories : Fields (List (Fields Value))}
    {addressee : Option String} (posted : moment.posted? authority = some data)
    (read : Message.parse data = .ok (.response histories addressee)) :
    histories = [] ∨ ∃ portal history, histories = [(portal, history)] ∧
      (moment.after authority).state.source.told portal = some history := by
  rcases Moment.posted_eq_some posted with ⟨_, _, dumped⟩ |
    ⟨asked, payload, portal, source, working, request, valid, dumped⟩
  · obtain ⟨arrived, _, same⟩ := Message.parse_update dumped
    cases read.symm.trans same
  · obtain ⟨arrived, made, same⟩ := Message.parse_response dumped
    cases read.symm.trans same
    have unchanged : ∀ session, moment.move ≠ .change session := by
      intro session move
      simp only [Moment.answered?, Moment.job?, move] at working
      cases working
    have served : moment.served? = some (Primary.addressee portal, payload) := by
      simp only [Moment.served?, working, Option.bind_some, Primary.served?, request]
    rcases histories_authority moment.exchange.state.source (Primary.addressee portal) payload with
      none | ⟨entries, kept, one⟩
    · rw [none] at valid
      cases valid
      cases made
      exact Or.inl rfl
    · rw [one] at valid
      refine Or.inr ⟨Primary.addressee portal, entries.map ChatEntry.members, sent_history valid made, ?_⟩
      rw [source_served unchanged, served]
      simp only [told, kept, Option.map_some]

/-- Whether a portal is in step or has been at one of some exchanges. -/
def HasSyncedIn (exchanges : List (Exchange Session)) (id : String) (portal : Portal) : Prop :=
  portal.phase = .synced ∨ ∃ exchange ∈ exchanges, ∃ before,
    exchange.state.portals.get? id = some before ∧ before.phase = .synced

/-- Whether a portal is in step or has been. -/
def HasSynced (past : List (Moment Session)) (id : String) (portal : Portal) : Prop :=
  HasSyncedIn (past.map Moment.exchange) id portal

/-- Whether nothing is queued and no portal has begun. -/
structure Rests (exchange : Exchange Session) : Prop where
  quiet : exchange.loop.queue = [] ∧ exchange.loop.timers = []
  portals : ∀ id portal, exchange.state.portals.get? id = some portal →
    portal.snapshot = none ∧ portal.phase ≠ .synced

/-- A portal that takes a copy when it comes into step and loses none holds one once it has been in step. -/
theorem held_after {exchanges : List (Exchange Session)} {exchange : Exchange Session} {portal next : Portal}
    {id : String} (held : HasSyncedIn exchanges id portal → portal.snapshot.isSome = true)
    (found : exchange.state.portals.get? id = some portal)
    (keeps : portal.snapshot.isSome = true → next.snapshot.isSome = true)
    (takes : next.phase = .synced → next.snapshot.isSome = true)
    (synced : HasSyncedIn (exchange :: exchanges) id next) : next.snapshot.isSome = true := by
  rcases synced with now | ⟨other, member, before, there, synced⟩
  · exact takes now
  · refine keeps (held ?_)
    rcases List.mem_cons.mp member with rfl | earlier
    · cases found.symm.trans there
      exact Or.inl synced
    · exact Or.inr ⟨other, earlier, before, there, synced⟩

/-- A bare session and one portal. -/
def lone : Exchange Session :=
  Exchange.make "lab" bare [("metis", .make "metis" ⟨1, 1, none⟩ [])]

theorem lone_rests : Rests lone where
  quiet := ⟨rfl, rfl⟩
  portals := by
    intro id portal found
    simp only [lone, Exchange.make, Fields.get?] at found
    split at found
    · cases found
      exact ⟨rfl, by rintro ⟨⟩⟩
    · cases found

/-- The portal comes into step, and then an action of its is answered. -/
def loneAct : List (Move Session) :=
  [.job, .job, .job, .call "metis" (.act (.text "go")), .job, .job, .job, .job, .job, .job, .call "metis" .start,
    .join .primary]

theorem lone_silent : ∀ moment ∈ (lone.trace authority loneAct).1,
    (∀ data sender, moment.move ≠ .post data sender) ∧ (∀ id message, moment.move ≠ .call id (.post message)) ∧
      (∀ given, moment.move ≠ .broadcast given) ∧ ∀ session, moment.move ≠ .change session := by
  simp [loneAct, Exchange.trace]

theorem lone_synced : ∃ portal, (lone.trace authority loneAct).2.state.portals.get? "metis" = some portal ∧
    portal.phase = .synced := by
  have begun : ((lone.trace authority loneAct).2.state.portals.get? "metis").map
      (fun portal => decide (portal.phase = .synced)) = some true := by decide +kernel
  obtain ⟨portal, found, synced⟩ := Option.map_eq_some_iff.mp begun
  exact ⟨portal, found, of_decide_eq_true synced⟩

end Session

end Workbench
