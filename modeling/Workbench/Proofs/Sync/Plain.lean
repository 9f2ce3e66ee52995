import Workbench.Proofs.Outcome
import Workbench.Sync.Message

namespace Workbench

namespace Value

mutual

/-- Whether a value is one that JSON can carry as it is: its numbers are finite and it holds no bytes. -/
def isJson : Value → Bool
  | .float x => x.isFinite
  | .bytes _ => false
  | .list items => itemsAreJson items
  | .object members => membersAreJson members
  | _ => true

def itemsAreJson : List Value → Bool
  | [] => true
  | item :: rest => item.isJson && itemsAreJson rest

def membersAreJson : List (String × Value) → Bool
  | [] => true
  | (_, value) :: rest => value.isJson && membersAreJson rest

end

theorem membersAreJson_iff {members : List (String × Value)} :
    membersAreJson members = true ↔ ∀ member ∈ members, member.2.isJson = true := by
  induction members with
  | nil => simp [membersAreJson]
  | cons member rest ih => simp [membersAreJson, ih]

end Value

namespace Message

mutual

theorem plain_of_isJson : {value : Value} → value.isJson = true → plain value = .ok value
  | .null, _ | .bool _, _ | .int _, _ | .text _, _ => rfl
  | .float x, json => by
    simp only [Value.isJson] at json
    simp only [plain, json, if_true]
  | .list items, json => by
    simp only [Value.isJson] at json
    simp only [plain, plainItems_of_areJson json, Except.map]
  | .object members, json => by
    simp only [Value.isJson] at json
    simp only [plain, plainMembers_of_areJson json, Except.map]

theorem plainItems_of_areJson : {items : List Value} → Value.itemsAreJson items = true →
    plainItems items = .ok items
  | [], _ => rfl
  | item :: rest, json => by
    simp only [Value.itemsAreJson, Bool.and_eq_true] at json
    simp only [plainItems, plain_of_isJson json.1, plainItems_of_areJson json.2]
    rfl

theorem plainMembers_of_areJson : {members : List (String × Value)} → Value.membersAreJson members = true →
    plainMembers members = .ok members
  | [], _ => rfl
  | (name, value) :: rest, json => by
    simp only [Value.membersAreJson, Bool.and_eq_true] at json
    simp only [plainMembers, plain_of_isJson json.1, plainMembers_of_areJson json.2]
    rfl

end

theorem plainItems_cons_eq_ok {item : Value} {rest items : List Value} :
    plainItems (item :: rest) = .ok items ↔
      ∃ first later, plain item = .ok first ∧ plainItems rest = .ok later ∧ first :: later = items := by
  simp only [plainItems, Except.bind_eq_ok, pure, Except.pure, Except.ok.injEq]
  constructor
  · rintro ⟨first, one, later, others, same⟩
    exact ⟨first, later, one, others, same⟩
  · rintro ⟨first, later, one, others, same⟩
    exact ⟨first, one, later, others, same⟩

theorem plainMembers_cons_eq_ok {name : String} {value : Value} {rest members : List (String × Value)} :
    plainMembers ((name, value) :: rest) = .ok members ↔
      ∃ first later, plain value = .ok first ∧ plainMembers rest = .ok later ∧ (name, first) :: later = members := by
  simp only [plainMembers, Except.bind_eq_ok, pure, Except.pure, Except.ok.injEq]
  constructor
  · rintro ⟨first, one, later, others, same⟩
    exact ⟨first, later, one, others, same⟩
  · rintro ⟨first, later, one, others, same⟩
    exact ⟨first, one, later, others, same⟩

mutual

/-- What has been made fit for sending is JSON. -/
theorem isJson_of_plain : {value sent : Value} → plain value = .ok sent → sent.isJson = true
  | .null, _, made | .bool _, _, made | .int _, _, made | .text _, _, made => by cases made; rfl
  | .float x, _, made => by
    cases made
    by_cases finite : x.isFinite = true
    · rw [if_pos finite, Value.isJson, finite]
    · rw [if_neg finite]
      rfl
  | .bytes content, _, made => by
    obtain ⟨text, _, same⟩ := Except.map_eq_ok.mp (Except.mapError_eq_ok.mp made)
    rw [← same, Value.isJson] <;> nofun
  | .list items, _, made => by
    simp only [plain] at made
    obtain ⟨later, others, same⟩ := Except.map_eq_ok.mp made
    rw [← same, Value.isJson]
    exact areJson_of_plainItems others
  | .object members, _, made => by
    simp only [plain] at made
    obtain ⟨later, others, same⟩ := Except.map_eq_ok.mp made
    rw [← same, Value.isJson]
    exact areJson_of_plainMembers others

theorem areJson_of_plainItems : {items sent : List Value} → plainItems items = .ok sent →
    Value.itemsAreJson sent = true
  | [], _, made => by cases made; rfl
  | item :: rest, _, made => by
    obtain ⟨first, later, one, others, same⟩ := plainItems_cons_eq_ok.mp made
    rw [← same, Value.itemsAreJson, isJson_of_plain one, areJson_of_plainItems others, Bool.and_true]

theorem areJson_of_plainMembers : {members sent : List (String × Value)} → plainMembers members = .ok sent →
    Value.membersAreJson sent = true
  | [], _, made => by cases made; rfl
  | (name, value) :: rest, _, made => by
    obtain ⟨first, later, one, others, same⟩ := plainMembers_cons_eq_ok.mp made
    rw [← same, Value.membersAreJson, isJson_of_plain one, areJson_of_plainMembers others, Bool.and_true]

end

end Message

end Workbench
