import Workbench.Proofs.Session.Told
import Workbench.Proofs.Sync.Codec

namespace Workbench

namespace Value

mutual

/-- The byte strings within a value, at any depth. -/
def blobs : Value → List (List UInt8)
  | .bytes content => [content]
  | .list items => itemBlobs items
  | .object members => memberBlobs members
  | _ => []

def itemBlobs : List Value → List (List UInt8)
  | [] => []
  | item :: rest => item.blobs ++ itemBlobs rest

def memberBlobs : List (String × Value) → List (List UInt8)
  | [] => []
  | (_, value) :: rest => value.blobs ++ memberBlobs rest

end

end Value

/-- Whether byte strings are all the UTF-8 form of some text. -/
def Text.Readable (blobs : List (List UInt8)) : Prop :=
  ∀ content ∈ blobs, ∃ text, decodeUtf8 content = .ok text

theorem Text.readable_append {front back : List (List UInt8)} :
    Readable (front ++ back) ↔ Readable front ∧ Readable back :=
  List.forall_mem_append

namespace Message

mutual

/-- A value can be made fit for sending just when the bytes within it can be read as text. -/
theorem exists_plain_iff : (value : Value) → ((∃ sent, plain value = .ok sent) ↔ Text.Readable value.blobs)
  | .null | .bool _ | .int _ | .text _ | .float _ => by simp [plain, Value.blobs, Text.Readable]
  | .bytes content => by
    simp [plain, Value.blobs, Text.Readable, Except.mapError_eq_ok, Except.map_eq_ok]
  | .list items => by
    simp only [plain, Except.map_eq_ok, Value.blobs, ← exists_plainItems_iff items]
    exact exists_comm.trans (by simp)
  | .object members => by
    simp only [plain, Except.map_eq_ok, Value.blobs, ← exists_plainMembers_iff members]
    exact exists_comm.trans (by simp)

theorem exists_plainItems_iff : (items : List Value) →
    ((∃ sent, plainItems items = .ok sent) ↔ Text.Readable (Value.itemBlobs items))
  | [] => by simp [plainItems, Value.itemBlobs, Text.Readable]
  | item :: rest => by
    rw [Value.itemBlobs, Text.readable_append, ← exists_plain_iff item, ← exists_plainItems_iff rest]
    simp only [plainItems_cons_eq_ok]
    constructor
    · rintro ⟨_, first, later, one, others, _⟩
      exact ⟨⟨first, one⟩, later, others⟩
    · rintro ⟨⟨first, one⟩, later, others⟩
      exact ⟨_, first, later, one, others, rfl⟩

theorem exists_plainMembers_iff : (members : List (String × Value)) →
    ((∃ sent, plainMembers members = .ok sent) ↔ Text.Readable (Value.memberBlobs members))
  | [] => by simp [plainMembers, Value.memberBlobs, Text.Readable]
  | (name, value) :: rest => by
    rw [Value.memberBlobs, Text.readable_append, ← exists_plain_iff value, ← exists_plainMembers_iff rest]
    simp only [plainMembers_cons_eq_ok]
    constructor
    · rintro ⟨_, first, later, one, others, _⟩
      exact ⟨⟨first, one⟩, later, others⟩
    · rintro ⟨⟨first, one⟩, later, others⟩
      exact ⟨_, first, later, one, others, rfl⟩

end

end Message

namespace Snapshot

/-- Whether a value is what is sent of a file: its text, the text that its bytes encode where its path is that of a
text, else a placeholder, and of an array its items in the terms of JSON. -/
def Carries (path : String) (sent : Value) : FileContent → Prop
  | .text content => sent = .text content
  | .blob bytes => ∃ text, sent = .text text ∧
      (Mime.isText (Mime.ofPath path) = true ∧ Text.decodeUtf8 bytes = .ok text ∨
        (Mime.isText (Mime.ofPath path) = true → ∀ other, Text.decodeUtf8 bytes ≠ .ok other) ∧
          text = placeholder (Mime.ofPath path))
  | .array items => ∃ plain, Message.plainItems items = .ok plain ∧ sent = .list plain

section Plain

variable {state : Fields Value} {histories : Fields (List (Fields Value))} {log : List (Fields Value)}

end Plain

end Snapshot

end Workbench
