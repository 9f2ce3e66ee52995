import Workbench.Proofs.Json.RoundTrip
import Workbench.Proofs.Sync.Wire

namespace Workbench

variable {α β : Type}

/-- Whether a check that fails names a failure. -/
def Checked.Explains (x : Checked α) : Prop :=
  ∀ failures, x = .invalid failures → failures ≠ []

namespace Checked.Explains

theorem valid (value : α) : Explains (.valid value) := fun _ same => by cases same

theorem seq {f : Checked (α → β)} {x : Checked α} (first : f.Explains) (second : x.Explains) :
    Explains (f <*> x) := by
  intro failures same
  change Checked.seq f (fun _ => x) = .invalid failures at same
  cases f with
  | valid g =>
    cases x with
    | valid value => cases same
    | invalid later =>
      cases same
      exact second _ rfl
  | invalid earlier =>
    cases x with
    | valid value =>
      cases same
      exact first _ rfl
    | invalid later =>
      cases same
      exact List.append_ne_nil_of_left_ne_nil (first earlier rfl) later

theorem map (f : α → β) {x : Checked α} (explains : x.Explains) : Explains (f <$> x) :=
  seq (valid f) explains

theorem image (f : α → β) {x : Checked α} (explains : x.Explains) : (x.map f).Explains := by
  intro failures same
  cases x with
  | valid value => cases same
  | invalid earlier =>
    cases same
    exact explains _ rfl

theorem under {x : Checked α} (explains : x.Explains) (name : String) : (x.under name).Explains := by
  intro failures same
  cases x with
  | valid value => cases same
  | invalid earlier =>
    cases same
    exact fun none => explains earlier rfl (List.map_eq_nil_iff.mp none)

end Checked.Explains

namespace Schema

open Checked.Explains

theorem explains_fail (defect : Defect) : (fail defect : Checked α).Explains := by
  intro failures same
  cases same
  exact List.cons_ne_nil _ _

variable {check : Value → Checked α}

theorem explains_optional (explains : ∀ value, (check value).Explains) (members : Fields Value) (name : String)
    (default : α) : (optional members name default check).Explains := by
  unfold optional
  cases Fields.get? members name with
  | none => exact valid default
  | some value => exact under (explains value) name

theorem explains_required (explains : ∀ value, (check value).Explains) (members : Fields Value) (name : String) :
    (required members name check).Explains := by
  unfold required
  cases Fields.get? members name with
  | none =>
    intro failures same
    cases same
    exact List.cons_ne_nil _ _
  | some value => exact under (explains value) name

theorem explains_text (value : Value) : (text value).Explains := by
  cases value with
  | text content => exact valid content
  | bytes content =>
    rw [text]
    split
    · exact valid _
    · exact explains_fail _
  | _ => exact explains_fail _

theorem explains_anyObject (value : Value) : (anyObject value).Explains := by
  cases value with
  | object members => exact valid members
  | _ => exact explains_fail _

theorem explains_nullable (explains : ∀ value, (check value).Explains) (value : Value) :
    (nullable check value).Explains := by
  cases value with
  | null => exact valid none
  | _ => exact image _ (explains _)

theorem explains_list (explains : ∀ value, (check value).Explains) (value : Value) : (list check value).Explains := by
  have items (position : ℕ) (content : List Value) : (itemsFrom check position content).Explains := by
    induction content generalizing position with
    | nil => exact valid []
    | cons item rest ih => exact seq (map _ (under (explains item) _)) (ih (position + 1))
  cases value with
  | list content => exact items 0 content
  | _ => exact explains_fail _

theorem explains_dictionary (explains : ∀ value, (check value).Explains) (value : Value) :
    (dictionary check value).Explains := by
  have members (content : List (String × Value)) : (membersOf check content).Explains := by
    induction content with
    | nil => exact valid []
    | cons member rest ih => exact seq (map _ (under (explains member.2) _)) ih
  cases value with
  | object content => exact members content
  | _ => exact explains_fail _

theorem explains_snapshot (value : Value) : (snapshot value).Explains := by
  cases value with
  | object members =>
    exact seq (seq (seq (map _ (explains_optional explains_anyObject _ _ _))
      (explains_optional (explains_dictionary (explains_list explains_anyObject)) _ _ _))
      (explains_optional (explains_list explains_anyObject) _ _ _)) (explains_optional explains_anyObject _ _ _)
  | _ => exact explains_fail _

theorem explains_portal (members : Fields Value) : (portal members).Explains :=
  explains_optional (explains_nullable explains_text) members "portal" none

/-- What is refused as an envelope is refused for a reason. -/
theorem explains_message (members : Fields Value) : (message members).Explains := by
  unfold message
  split
  · exact explains_fail _
  · exact map _ (explains_portal members)
  · exact map _ (explains_required explains_snapshot members _)
  · exact seq (map _ (explains_optional explains_text members _ _)) (explains_portal members)
  · exact seq (map _ (explains_optional (explains_dictionary (explains_list explains_anyObject)) members _ _))
      (explains_portal members)
  · exact map _ (explains_portal members)
  · exact explains_fail _

end Schema

namespace Value

end Value

namespace Message

mutual

/-- Whole numbers are sent as they are. -/
theorem isWritable_of_plain : {value sent : Value} → plain value = .ok sent → sent.isWritable = value.isWritable
  | .null, _, made | .bool _, _, made | .int _, _, made | .text _, _, made => by cases made; rfl
  | .float x, _, made => by
    cases made
    split <;> rfl
  | .bytes content, _, made => by
    obtain ⟨text, _, same⟩ := Except.map_eq_ok.mp (Except.mapError_eq_ok.mp made)
    rw [← same]
    rfl
  | .list items, _, made => by
    simp only [plain] at made
    obtain ⟨later, others, same⟩ := Except.map_eq_ok.mp made
    rw [← same]
    exact areWritable_of_plainItems others
  | .object members, _, made => by
    simp only [plain] at made
    obtain ⟨later, others, same⟩ := Except.map_eq_ok.mp made
    rw [← same]
    exact membersAreWritable_of_plain others

theorem areWritable_of_plainItems : {items sent : List Value} → plainItems items = .ok sent →
    Value.areWritable sent = Value.areWritable items
  | [], _, made => by cases made; rfl
  | item :: rest, _, made => by
    obtain ⟨first, later, one, others, same⟩ := plainItems_cons_eq_ok.mp made
    rw [← same, Value.areWritable, Value.areWritable, isWritable_of_plain one, areWritable_of_plainItems others]

theorem membersAreWritable_of_plain : {members sent : List (String × Value)} → plainMembers members = .ok sent →
    Value.membersAreWritable sent = Value.membersAreWritable members
  | [], _, made => by cases made; rfl
  | (name, value) :: rest, _, made => by
    obtain ⟨first, later, one, others, same⟩ := plainMembers_cons_eq_ok.mp made
    rw [← same, Value.membersAreWritable, Value.membersAreWritable, isWritable_of_plain one,
      membersAreWritable_of_plain others]

end

/-- What is documented of how envelopes are checked and written out: what the schema takes is taken and all else is
refused as invalid, with its failures; what has no more than so many levels is written out as it is sent, and nothing
else is. -/
structure Codec.Documented (codec : Codec) (levels : ℕ) : Prop where
  room : 0 < levels
  takes : ∀ members message, Schema.message members = .valid message → codec.validate members = .ok message
  refuses : ∀ members failures, Schema.message members = .invalid failures →
    ∃ found, found ≠ [] ∧ codec.validate members = .error (.invalid found)
  writes : ∀ message, message.isWithin levels = true → codec.dump message = message.dump.mapError .undecodable
  guards : ∀ message, message.isWithin levels = false → ∃ raised, codec.dump message = .error raised

theorem Codec.documented_standard : Codec.standard.Documented levels where
  room := by decide
  takes := by
    intro members message valid
    rw [Codec.standard]
    simp only [valid]
    rfl
  refuses := by
    intro members failures invalid
    refine ⟨failures, Schema.explains_message members failures invalid, ?_⟩
    rw [Codec.standard]
    simp only [invalid]
    rfl
  writes := fun message within => if_pos within
  guards := fun message deep => ⟨.tooDeep, if_neg (by simp [deep])⟩

namespace Codec.Documented

variable {codec : Codec} {levels : ℕ} {message : Message} {value data : Value}

theorem parse_eq_ok (documented : codec.Documented levels) :
    codec.parse value = .ok message ↔ Message.parse value = .ok message := by
  cases value with
  | object members =>
    rw [parse_object, parse]
    cases checked : Schema.message members with
    | valid taken =>
      rw [documented.takes members taken checked]
      rfl
    | invalid failures =>
      obtain ⟨found, _, refused⟩ := documented.refuses members failures checked
      rw [refused]
      exact iff_of_false (by rintro ⟨⟩) (by rintro ⟨⟩)
  | _ => exact iff_of_false (by rintro ⟨⟩) (by rintro ⟨⟩)

theorem dump_eq_ok (documented : codec.Documented levels) :
    codec.dump message = .ok data ↔ message.isWithin levels = true ∧ message.dump = .ok data := by
  cases within : message.isWithin levels with
  | true => simp [documented.writes message within, Except.mapError_eq_ok]
  | false =>
    obtain ⟨raised, broke⟩ := documented.guards message within
    simp [broke]

end Codec.Documented

/-- Of the envelopes that can be sent, those have a text that are nested no deeper than is documented and hold no whole
number of too many digits. -/
theorem exists_encode_iff {codec : Codec} {levels : ℕ} (documented : codec.Documented levels) (message : Message) :
    (∃ data text, codec.dump message = .ok data ∧ Json.encode .compact data = .ok text) ↔
      (∃ data, message.dump = .ok data) ∧ message.isWithin levels = true ∧ message.toValue.isWritable = true := by
  have encodable {data : Value} (sending : message.dump = .ok data) :
      Json.encodable data = message.toValue.isWritable := by
    rw [Json.encodable_of_isJson (isJson_of_plain sending), isWritable_of_plain sending]
    rfl
  constructor
  · rintro ⟨data, text, sending, encoded⟩
    obtain ⟨within, sending⟩ := documented.dump_eq_ok.mp sending
    exact ⟨⟨data, sending⟩, within, encodable sending ▸ (Json.encode_eq_ok.mp encoded).1⟩
  · rintro ⟨⟨data, sending⟩, within, writable⟩
    exact ⟨data, _, documented.dump_eq_ok.mpr ⟨within, sending⟩,
      Json.encode_eq_ok.mpr ⟨(encodable sending).trans writable, rfl⟩⟩

end Message

end Workbench
