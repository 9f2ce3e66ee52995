import Workbench.Proofs.Sync.Codec

namespace Workbench

namespace Message

variable {codec : Codec} {levels : ℕ}

/-- Whether a refusal is the one that a value calls for. -/
def Refuses (value : Value) (fault : MessageFault) : Prop :=
  (∀ members, value ≠ .object members) ∧ fault = .notObject value.kindName ∨
    ∃ members failures, value = .object members ∧ failures ≠ [] ∧
      fault = .invalid ((Fields.get? members "type").getD .null) failures

/-- Nothing escapes but what the schema does not take, for which a value error is raised. -/
theorem refuses_of_parse (documented : codec.Documented levels) {value : Value} {fault : MessageFault}
    (refused : codec.parse value = .error fault) : fault.isValueError = true ∧ Refuses value fault := by
  cases value with
  | object members =>
    rw [Codec.parse] at refused
    cases checked : Schema.message members with
    | valid message =>
      rw [documented.takes members message checked] at refused
      cases refused
    | invalid failures =>
      obtain ⟨found, some, raised⟩ := documented.refuses members failures checked
      rw [raised] at refused
      cases refused
      exact ⟨rfl, Or.inr ⟨members, found, rfl, some, rfl⟩⟩
  | _ =>
    cases refused
    exact ⟨rfl, Or.inl ⟨by simp, rfl⟩⟩

theorem dump_of_isJson {message : Message} (json : message.toValue.isJson = true) :
    message.dump = .ok message.toValue :=
  plain_of_isJson json

/-- What has been sent is read again, as the envelope that was sent just when JSON can carry it as it is. -/
theorem exists_again {message : Message} {data : Value} (sending : message.dump = .ok data) :
    ∃ again, message.sent = .ok again ∧ parse data = .ok again ∧
      (again = message ↔ message.toValue.isJson = true) := by
  obtain ⟨again, made, rfl⟩ := dump_eq_ok.mp sending
  refine ⟨again, made, parse_toValue again, ?_⟩
  constructor
  · intro same
    rw [same] at sending
    exact isJson_of_plain sending
  · intro json
    have same : again.toValue = message.toValue := Except.ok.inj (sending.symm.trans (dump_of_isJson json))
    have read := parse_toValue again
    rw [same, parse_toValue] at read
    exact (Except.ok.inj read).symm

theorem exists_text_iff (documented : codec.Documented levels) {message : Message}
    (json : message.toValue.isJson = true) :
    (∃ data text, codec.dump message = .ok data ∧ Json.encode .compact data = .ok text) ↔
      message.isWithin levels = true ∧ message.toValue.isWritable = true :=
  (exists_encode_iff documented message).trans (and_iff_right ⟨_, dump_of_isJson json⟩)

/-- Envelopes survive the wire, given that they are checked and written out as is documented. One that JSON can carry
as it is has a text unless it is nested too deep or holds a whole number of too many digits, and comes back from its
text as it was; whatever was accepted is accepted again from what is sent, and is the same just when JSON can carry it
as it is; and what is no envelope is refused for one of two reasons, each a value error. -/
theorem survives_wire (documented : codec.Documented levels) :
    (∀ message : Message, message.toValue.isJson = true → message.toValue.namesDiffer = true →
      ((∃ data text, codec.dump message = .ok data ∧ Json.encode .compact data = .ok text) ↔
        message.isWithin levels = true ∧ message.toValue.isWritable = true) ∧
      ∀ data text, codec.dump message = .ok data → Json.encode .compact data = .ok text →
        ∃ arrived, Json.parse text = .ok arrived ∧ codec.parse arrived = .ok message) ∧
    (∀ value message, codec.parse value = .ok message →
      (message.toValue.isJson = true → message.isWithin levels = true →
        ∃ data, codec.dump message = .ok data ∧ codec.parse data = .ok message) ∧
      ∀ data, codec.dump message = .ok data → ∃ again, message.sent = .ok again ∧ codec.parse data = .ok again ∧
        (again = message ↔ message.toValue.isJson = true)) ∧
    ∀ value fault, codec.parse value = .error fault → fault.isValueError = true ∧ Refuses value fault := by
  refine ⟨?_, ?_, fun value fault => refuses_of_parse documented⟩
  · intro message json differ
    refine ⟨exists_text_iff documented json, ?_⟩
    intro data text sending encoded
    have writable := ((exists_text_iff documented json).mp ⟨data, text, sending, encoded⟩).2
    have whole := (documented.dump_eq_ok.mp sending).2
    rw [dump_of_isJson json] at whole
    obtain ⟨_, written, read⟩ := Json.exists_encode json writable differ
    rw [← Except.ok.inj whole, written] at encoded
    rw [← Except.ok.inj encoded]
    exact ⟨message.toValue, read, documented.parse_eq_ok.mpr (parse_toValue message)⟩
  · intro value message _
    refine ⟨fun json within => ?_, fun data sending => ?_⟩
    · exact ⟨message.toValue, documented.dump_eq_ok.mpr ⟨within, dump_of_isJson json⟩,
        documented.parse_eq_ok.mpr (parse_toValue message)⟩
    · obtain ⟨again, made, read, same⟩ := exists_again (documented.dump_eq_ok.mp sending).2
      exact ⟨again, made, documented.parse_eq_ok.mpr read, same⟩

/-- An answer with numbers and characters of several kinds. -/
def measured : Message :=
  .response [("gate", [[("share", .float 0.1), ("sum", .int (-30)), ("note", .text "a \"quote\"\nand é")]])]
    (some "metis")

theorem measured_survives :
    (∃ data text, Codec.standard.dump measured = .ok data ∧ Json.encode .compact data = .ok text ∧
      ∃ arrived, Json.parse text = .ok arrived ∧ Codec.standard.parse arrived = .ok measured) ∧
    (∃ data, Codec.standard.dump measured = .ok data ∧ Codec.standard.parse data = .ok measured) ∧
    (∃ again, measured.sent = .ok again ∧ Codec.standard.parse measured.toValue = .ok again ∧
      (again = measured ↔ measured.toValue.isJson = true)) ∧
    Refuses (.text "PORTAL_READY") (.notObject "str") := by
  have json : measured.toValue.isJson = true := by decide +kernel
  have within : measured.isWithin levels = true := by decide +kernel
  obtain ⟨wire, again, refuses⟩ := survives_wire Codec.documented_standard
  obtain ⟨sends, arrives⟩ := wire measured json (by decide +kernel)
  obtain ⟨data, text, sending, encoded⟩ := sends.mpr ⟨within, by decide +kernel⟩
  obtain ⟨kept, later⟩ := again measured.toValue measured (parse_toValue measured)
  have whole : Codec.standard.dump measured = .ok measured.toValue :=
    Codec.documented_standard.dump_eq_ok.mpr ⟨within, dump_of_isJson json⟩
  exact ⟨⟨data, text, sending, encoded, arrives data text sending encoded⟩, kept json within,
    later measured.toValue whole, (refuses (.text "PORTAL_READY") (.notObject "str") rfl).2⟩

/-- A number without bounds is sent as nothing. -/
theorem infinity_is_lost :
    ∃ message data again,
      Codec.standard.parse (.object [("type", .text "STATE_UPDATE"),
        ("payload", .object [("state", .object [("x", .float (1.0 / 0.0))])])]) = .ok message ∧
      Codec.standard.dump message = .ok data ∧ Codec.standard.parse data = .ok again ∧ again ≠ message := by
  have unbounded : (1.0 / 0.0 : Float).isFinite = false := by decide +kernel
  refine ⟨.update ⟨[("x", .float (1.0 / 0.0))], [], [], []⟩, (Message.update ⟨[("x", .null)], [], [], []⟩).toValue,
    .update ⟨[("x", .null)], [], [], []⟩, rfl, ?_, parse_toValue _, by simp⟩
  refine Codec.documented_standard.dump_eq_ok.mpr ⟨rfl, ?_⟩
  simp only [dump, body, tag, Snapshot.toValue, plain, plainMembers, unbounded]
  rfl

end Message

end Workbench
