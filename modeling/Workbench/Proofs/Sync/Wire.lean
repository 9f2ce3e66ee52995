import Workbench.Proofs.Sync.Plain

namespace Workbench

namespace Schema

theorem itemsFrom_objects (position : Nat) (entries : List (Fields Value)) :
    itemsFrom anyObject position (entries.map .object) = .valid entries := by
  induction entries generalizing position with
  | nil => rfl
  | cons entry rest ih =>
    simp only [List.map_cons, itemsFrom, ih]
    rfl

theorem dictionary_histories (histories : Fields (List (Fields Value))) :
    dictionary (list anyObject) (.object (histories.mapValues fun history => .list (history.map .object))) =
      .valid histories := by
  simp only [dictionary, Fields.mapValues]
  induction histories with
  | nil => rfl
  | cons entry rest ih =>
    simp only [List.map_cons, membersOf, list, itemsFrom_objects, ih]
    rfl

end Schema

namespace Message

/-- Histories in the terms of JSON. -/
def plainHistories (histories : Fields (List (Fields Value))) :
    Except Text.DecodeFault (Fields (List (Fields Value))) :=
  histories.mapM fun entry => return (entry.1, ← plainEntries entry.2)

theorem plainItems_objects (entries : List (Fields Value)) :
    plainItems (entries.map .object) = (plainEntries entries).map fun sent => sent.map .object := by
  induction entries with
  | nil => rfl
  | cons entry rest ih =>
    simp only [plainEntries] at ih
    simp only [List.map_cons, plainItems, plain, ih, plainEntries, List.mapM_cons]
    cases plainMembers entry with
    | error fault => rfl
    | ok first => cases List.mapM plainMembers rest <;> rfl

theorem plainMembers_histories (histories : Fields (List (Fields Value))) :
    plainMembers (histories.mapValues fun history => .list (history.map .object)) =
      (plainHistories histories).map fun sent => sent.mapValues fun history => .list (history.map .object) := by
  induction histories with
  | nil => rfl
  | cons entry rest ih =>
    simp only [Fields.mapValues, plainHistories] at ih
    simp only [Fields.mapValues, List.map_cons, plainMembers, plain, plainItems_objects, ih, plainHistories,
      List.mapM_cons]
    cases plainEntries entry.2 with
    | error fault => rfl
    | ok first => cases List.mapM (fun entry => return (entry.1, ← plainEntries entry.2)) rest <;> rfl

theorem plainEntries_of_areJson {entries : List (Fields Value)}
    (json : ∀ entry ∈ entries, Value.membersAreJson entry = true) : plainEntries entries = .ok entries :=
  Except.mapM_eq_self fun entry member => plainMembers_of_areJson (json entry member)

theorem areJson_of_plainEntries {entries sent : List (Fields Value)} (made : plainEntries entries = .ok sent) :
    ∀ entry ∈ sent, Value.membersAreJson entry = true := by
  intro entry member
  obtain ⟨_, _, one⟩ := Except.exists_of_mem_mapM made entry member
  exact areJson_of_plainMembers one

theorem plainHistories_of_areJson {histories : Fields (List (Fields Value))}
    (json : ∀ history ∈ histories, ∀ entry ∈ history.2, Value.membersAreJson entry = true) :
    plainHistories histories = .ok histories := by
  refine Except.mapM_eq_self ?_
  intro history member
  rw [plainEntries_of_areJson (json history member)]
  rfl

theorem areJson_of_plainHistories {histories sent : Fields (List (Fields Value))}
    (made : plainHistories histories = .ok sent) :
    ∀ history ∈ sent, ∀ entry ∈ history.2, Value.membersAreJson entry = true := by
  intro history member
  obtain ⟨_, _, one⟩ := Except.exists_of_mem_mapM made history member
  obtain ⟨entries, made, same⟩ := Except.bind_eq_ok.mp one
  cases same
  exact areJson_of_plainEntries made

end Message

/-- Whether a snapshot is made of what JSON can carry as it is. -/
structure Snapshot.IsJson (snapshot : Snapshot) : Prop where
  state : Value.membersAreJson snapshot.state = true
  histories : ∀ history ∈ snapshot.histories, ∀ entry ∈ history.2, Value.membersAreJson entry = true
  log : ∀ entry ∈ snapshot.log, Value.membersAreJson entry = true
  files : Value.membersAreJson snapshot.files = true

namespace Snapshot

theorem plain_eq_ok {snapshot sent : Snapshot} :
    snapshot.plain = .ok sent ↔
      Message.plainMembers snapshot.state = .ok sent.state ∧
      Message.plainHistories snapshot.histories = .ok sent.histories ∧
      Message.plainEntries snapshot.log = .ok sent.log ∧ Message.plainMembers snapshot.files = .ok sent.files := by
  obtain ⟨state, histories, log, files⟩ := sent
  simp only [plain, Except.bind_eq_ok, Message.plainHistories]
  constructor
  · rintro ⟨_, first, _, second, _, third, _, fourth, same⟩
    cases same
    exact ⟨first, second, third, fourth⟩
  · rintro ⟨first, second, third, fourth⟩
    exact ⟨state, first, histories, second, log, third, files, fourth, rfl⟩

theorem IsJson.plain {snapshot : Snapshot} (json : snapshot.IsJson) : snapshot.plain = .ok snapshot :=
  plain_eq_ok.mpr ⟨Message.plainMembers_of_areJson json.state, Message.plainHistories_of_areJson json.histories,
    Message.plainEntries_of_areJson json.log, Message.plainMembers_of_areJson json.files⟩

theorem isJson_of_plain {snapshot sent : Snapshot} (made : snapshot.plain = .ok sent) : sent.IsJson := by
  obtain ⟨state, histories, log, files⟩ := plain_eq_ok.mp made
  exact ⟨Message.areJson_of_plainMembers state, Message.areJson_of_plainHistories histories,
    Message.areJson_of_plainEntries log, Message.areJson_of_plainMembers files⟩

end Snapshot

namespace Message

/-- An envelope as a value, before it is made fit for sending. -/
def toValue (message : Message) : Value :=
  .object (("type", .text message.tag) :: message.body)

/-- An envelope as it arrives. -/
def sent : Message → Except Text.DecodeFault Message
  | .update snapshot => snapshot.plain.map .update
  | .response histories portal => (plainHistories histories).map (.response · portal)
  | message => .ok message

theorem portal_ofText? (portal : Option String) :
    Schema.nullable Schema.text (.ofText? portal) = .valid portal := by
  cases portal <;> rfl

theorem snapshot_toValue (snapshot : Snapshot) : Schema.snapshot snapshot.toValue = .valid snapshot := by
  have log : Schema.list Schema.anyObject (.list (snapshot.log.map .object)) = .valid snapshot.log :=
    Schema.itemsFrom_objects 0 snapshot.log
  simp only [Schema.snapshot, Schema.model, Snapshot.toValue, Schema.optional, Fields.get?,
    Schema.dictionary_histories, log, String.reduceEq, if_true, if_false]
  rfl

theorem parse_object (members : Fields Value) :
    parse (.object members) = (Schema.message members).toExcept.mapError fun failures =>
      .invalid ((Fields.get? members "type").getD .null) failures := by
  simp only [parse, Codec.parse, Codec.standard]
  cases Schema.message members <;> rfl

/-- Every envelope is read back from its value. -/
theorem parse_toValue (message : Message) : parse message.toValue = .ok message := by
  cases message with
  | ready portal | closing portal =>
    simp only [toValue, parse_object, tag, body, Schema.message, Schema.portal, Schema.optional, Fields.get?,
      String.reduceEq, if_true, if_false, portal_ofText?]
    rfl
  | update snapshot =>
    simp only [toValue, parse_object, tag, body, Schema.message, Schema.required, Fields.get?, String.reduceEq, if_true,
      if_false, snapshot_toValue]
    rfl
  | request payload portal =>
    simp only [toValue, parse_object, tag, body, Schema.message, Schema.portal, Schema.optional, Fields.get?,
      String.reduceEq, if_true, if_false, portal_ofText?]
    rfl
  | response histories portal =>
    simp only [toValue, parse_object, tag, body, Schema.message, Schema.portal, Schema.optional, Fields.get?,
      String.reduceEq, if_true, if_false, portal_ofText?, Schema.dictionary_histories]
    rfl

theorem plain_snapshot (snapshot : Snapshot) : plain snapshot.toValue = snapshot.plain.map Snapshot.toValue := by
  have parts : snapshot.plain = do
      let state ← plainMembers snapshot.state
      let histories ← plainHistories snapshot.histories
      let log ← plainEntries snapshot.log
      return ⟨state, histories, log, ← plainMembers snapshot.files⟩ := rfl
  simp only [parts, Snapshot.toValue, plain, plainMembers, plainMembers_histories, plainItems_objects]
  cases plainMembers snapshot.state with
  | error fault => rfl
  | ok state =>
    cases plainHistories snapshot.histories with
    | error fault => rfl
    | ok histories =>
      cases plainEntries snapshot.log with
      | error fault => rfl
      | ok log => cases plainMembers snapshot.files <;> rfl

/-- Sending an envelope and reading it again gives the envelope in the terms of JSON. -/
theorem dump_eq (message : Message) : message.dump = message.sent.map toValue := by
  cases message with
  | ready portal | closing portal => cases portal <;> rfl
  | request payload portal => cases portal <;> rfl
  | update snapshot =>
    simp only [dump, body, tag, sent, plain, plainMembers, plain_snapshot]
    cases snapshot.plain <;> rfl
  | response histories portal =>
    simp only [dump, body, tag, sent, plain, plainMembers, plainMembers_histories]
    cases plainHistories histories with
    | error fault => rfl
    | ok histories => cases portal <;> rfl

theorem dump_eq_ok {message : Message} {data : Value} :
    message.dump = .ok data ↔ ∃ arrived, message.sent = .ok arrived ∧ data = arrived.toValue := by
  rw [dump_eq, Except.map_eq_ok]
  simp only [eq_comm]

/-- What has been sent is read as an envelope in the terms of JSON. -/
theorem parse_of_dump {message : Message} {data : Value} (sending : message.dump = .ok data) :
    ∃ arrived, message.sent = .ok arrived ∧ parse data = .ok arrived := by
  obtain ⟨arrived, made, rfl⟩ := dump_eq_ok.mp sending
  exact ⟨arrived, made, parse_toValue arrived⟩

theorem parse_update {snapshot : Snapshot} {data : Value} (sending : (Message.update snapshot).dump = .ok data) :
    ∃ arrived, snapshot.plain = .ok arrived ∧ parse data = .ok (.update arrived) := by
  obtain ⟨message, made, read⟩ := parse_of_dump sending
  obtain ⟨arrived, plain, rfl⟩ := Except.map_eq_ok.mp made
  exact ⟨arrived, plain, read⟩

theorem parse_response {histories : Fields (List (Fields Value))} {portal : Option String} {data : Value}
    (sending : (Message.response histories portal).dump = .ok data) :
    ∃ arrived, plainHistories histories = .ok arrived ∧ parse data = .ok (.response arrived portal) := by
  obtain ⟨message, made, read⟩ := parse_of_dump sending
  obtain ⟨arrived, plain, rfl⟩ := Except.map_eq_ok.mp made
  exact ⟨arrived, plain, read⟩

end Message

end Workbench
