import Workbench.Proofs.Fields
import Workbench.Proofs.Json.Number
import Workbench.Proofs.Json.Text
import Workbench.Proofs.Sync.Plain
import Workbench.Value.Display

namespace Workbench

namespace Value

mutual

/-- Whether no object within a value gives two members one name, as none does that is a table by name. -/
def namesDiffer : Value → Bool
  | .list items => itemsNamesDiffer items
  | .object members => decide (Fields.keys members).Nodup && membersNamesDiffer members
  | _ => true

def itemsNamesDiffer : List Value → Bool
  | [] => true
  | item :: rest => item.namesDiffer && itemsNamesDiffer rest

def membersNamesDiffer : List (String × Value) → Bool
  | [] => true
  | (_, value) :: rest => value.namesDiffer && membersNamesDiffer rest

end

end Value

theorem Fields.ofPairs_eq_self {α : Type} {pairs : List (String × α)} (distinct : (Fields.keys pairs).Nodup) :
    Fields.ofPairs pairs = pairs :=
  Fields.putAll_eq_append distinct fun _ _ => List.not_mem_nil

namespace Json

/-- What is read as a number is no other value. -/
theorem value_of_number {cs : List Char} {read : Value × List Char} (number : number cs = .ok read) (fuel : ℕ) :
    value (fuel + 1) cs = .ok read := by
  rw [value.eq_def]
  dsimp only
  split
  case h_10 => exact number
  all_goals cases number

/-- A value begins with neither white space nor a bracket that closes a list. -/
theorem begins_of_value {fuel : ℕ} {cs : List Char} {read : Value × List Char} (made : value fuel cs = .ok read) :
    skipSpace cs = cs ∧ ∀ after, cs ≠ ']' :: after := by
  cases fuel with
  | zero => cases made
  | succ fuel =>
    constructor
    · cases cs with
      | nil => rfl
      | cons c cs =>
        by_cases blank : isSpace c = true
        · simp only [isSpace, Bool.or_eq_true, beq_iff_eq] at blank
          rcases blank with ((rfl | rfl) | rfl) | rfl <;> cases made
        · simp only [skipSpace, List.dropWhile_cons_of_neg blank]
    · rintro after rfl
      cases made

theorem begins_of_items {fuel : ℕ} {done : List Value} {cs : List Char} {read : Value × List Char}
    (made : items fuel done cs = .ok read) : skipSpace cs = cs ∧ ∀ after, cs ≠ ']' :: after := by
  cases fuel with
  | zero => cases made
  | succ fuel =>
    rw [items] at made
    cases first : value fuel cs with
    | error stop =>
      rw [first] at made
      cases made
    | ok item => exact begins_of_value first

/-- Members begin with the quote of a name. -/
theorem begins_of_members {fuel : ℕ} {done : List (String × Value)} {cs : List Char} {read : Value × List Char}
    (made : members fuel done cs = .ok read) : skipSpace cs = cs ∧ ∀ after, cs ≠ '}' :: after := by
  cases fuel with
  | zero => cases made
  | succ fuel =>
    rw [members.eq_def] at made
    dsimp only at made
    split at made
    · exact ⟨rfl, fun after same => by cases same⟩
    · cases made

theorem toList_enclose (depth : ℕ) (opening closing : Char) (parts : List String) :
    (Style.compact.enclose depth opening closing parts).toList =
      opening :: ((Text.join ", " parts).toList ++ [closing]) := by
  cases parts with
  | nil => simp [Style.enclose, Text.join]
  | cons part rest => simp [Style.enclose]

theorem toList_join_cons (part next : String) (rest : List String) :
    (Text.join ", " (part :: next :: rest)).toList =
      part.toList ++ ',' :: ' ' :: (Text.join ", " (next :: rest)).toList := by
  simp [Text.join]

theorem ends_comma (rest : List Char) : Ends (',' :: rest) := fun _ member =>
  Or.inl (Option.mem_some.mp member).symm

theorem ends_bracket (rest : List Char) : Ends (']' :: rest) := fun _ member =>
  Or.inr (Or.inl (Option.mem_some.mp member).symm)

theorem ends_brace (rest : List Char) : Ends ('}' :: rest) := fun _ member =>
  Or.inr (Or.inr (Option.mem_some.mp member).symm)

section Steps

variable {fuel : ℕ}

theorem items_last (done : List Value) {item : Value} {cs rest : List Char}
    (read : value fuel cs = .ok (item, ']' :: rest)) :
    items (fuel + 1) done cs = .ok (.list (item :: done).reverse, rest) := by
  rw [items, read]
  rfl

theorem items_next (done : List Value) {item : Value} {cs more : List Char}
    (read : value fuel cs = .ok (item, ',' :: ' ' :: more)) :
    items (fuel + 1) done cs = items fuel (item :: done) (skipSpace more) := by
  rw [items, read]
  rfl

variable {name text : String} {v : Value}

theorem toList_member (name text : String) :
    (string name ++ ": " ++ text).toList =
      '"' :: (name.toList.flatMap escapeChar ++ ['"'] ++ ':' :: ' ' :: text.toList) := by
  rw [String.toList_append, String.toList_append, toList_string]
  simp

theorem length_member (name text : String) :
    text.toList.length + 2 ≤ (string name ++ ": " ++ text).toList.length := by
  rw [toList_member]
  simp only [List.length_cons, List.length_append]
  omega

/-- A colon and a blank stand between a name and its value. -/
theorem skipSpace_of_value {cs rest : List Char} (read : value fuel cs = .ok (v, rest)) :
    skipSpace (':' :: ' ' :: cs) = ':' :: ' ' :: cs ∧ skipSpace (' ' :: cs) = cs :=
  ⟨rfl, (begins_of_value read).1⟩

theorem members_last (done : List (String × Value)) {rest : List Char}
    (read : value fuel (text.toList ++ '}' :: rest) = .ok (v, '}' :: rest)) :
    members (fuel + 1) done ((string name ++ ": " ++ text).toList ++ '}' :: rest) =
      .ok (.object (Fields.ofPairs ((name, v) :: done).reverse), rest) := by
  obtain ⟨colon, blank⟩ := skipSpace_of_value read
  rw [toList_member, List.cons_append, List.append_assoc, members, stringTail_string, List.cons_append,
    List.cons_append]
  simp only [colon, blank, read]
  rfl

theorem members_next (done : List (String × Value)) {more : List Char}
    (read : value fuel (text.toList ++ ',' :: ' ' :: more) = .ok (v, ',' :: ' ' :: more)) :
    members (fuel + 1) done ((string name ++ ": " ++ text).toList ++ ',' :: ' ' :: more) =
      members fuel ((name, v) :: done) (skipSpace more) := by
  obtain ⟨colon, blank⟩ := skipSpace_of_value read
  rw [toList_member, List.cons_append, List.append_assoc, members, stringTail_string, List.cons_append,
    List.cons_append]
  simp only [colon, blank, read]
  rfl

end Steps

mutual

/-- A value is read from its text, whatever ends it. The fuel covers the length of the text, of which every nesting and
every further item takes two characters or more. -/
theorem value_render : (v : Value) → v.isJson = true → v.isWritable = true → v.namesDiffer = true → ∀ {rest : List Char}, Ends rest →
    ∀ (fuel depth : ℕ), (render .compact depth v).toList.length ≤ fuel →
      value (fuel + 1) ((render .compact depth v).toList ++ rest) = .ok (v, rest)
  | .null | .bool true | .bool false => by
    intro _ _ _ rest _ fuel depth _
    rw [render, value.eq_def]
    rfl
  | .int n => by
    intro _ writable _ rest ends fuel depth _
    rw [render]
    exact value_of_number (number_int (by simpa [Value.isWritable] using writable) ends) fuel
  | .float x => by
    intro json _ _ rest ends fuel depth _
    rw [render]
    exact value_of_number (number_float json ends) fuel
  | .bytes content => by
    intro json
    cases json
  | .text content => by
    intro _ _ _ rest _ fuel depth _
    rw [render, toList_string, List.cons_append, value]
    simp only [stringTail_string, Except.map]
  | .list [] => by
    intro _ _ _ rest _ fuel depth _
    rw [render, toList_enclose]
    rfl
  | .list (item :: later) => by
    intro json writable differ rest _ fuel depth enough
    simp only [Value.isJson] at json
    simp only [Value.isWritable] at writable
    simp only [Value.namesDiffer] at differ
    rw [render, toList_enclose, List.length_cons, List.length_append, List.length_singleton] at enough
    obtain ⟨left, rfl⟩ : ∃ left, fuel = left + 2 := ⟨fuel - 2, by omega⟩
    have more := items_render (item :: later) json writable differ (List.cons_ne_nil _ _) rest [] left (depth + 1) (by omega)
    -- What has been read tells that the list is not closed at once.
    have first := begins_of_items more
    rw [render, toList_enclose, List.cons_append, List.append_assoc, List.singleton_append, value, first.1]
    split
    · rename_i after same
      exact absurd same (first.2 after)
    · exact more
  | .object [] => by
    intro _ _ _ rest _ fuel depth _
    rw [render, toList_enclose]
    rfl
  | .object (member :: later) => by
    intro json writable differ rest _ fuel depth enough
    simp only [Value.isJson] at json
    simp only [Value.isWritable] at writable
    simp only [Value.namesDiffer, Bool.and_eq_true, decide_eq_true_eq] at differ
    rw [render, toList_enclose, List.length_cons, List.length_append, List.length_singleton] at enough
    obtain ⟨left, rfl⟩ : ∃ left, fuel = left + 2 := ⟨fuel - 2, by omega⟩
    have more := members_render (member :: later) json writable differ.2 (List.cons_ne_nil _ _) rest [] left
      (depth + 1) (by omega)
    rw [List.reverse_nil, List.nil_append, Fields.ofPairs_eq_self differ.1] at more
    have first := begins_of_members more
    rw [render, toList_enclose, List.cons_append, List.append_assoc, List.singleton_append, value, first.1]
    split
    · rename_i after same
      exact absurd same (first.2 after)
    · exact more

theorem items_render : (content : List Value) → Value.itemsAreJson content = true →
    Value.areWritable content = true → Value.itemsNamesDiffer content = true → content ≠ [] → ∀ (rest : List Char) (done : List Value),
    ∀ (fuel depth : ℕ), (Text.join ", " (renderItems .compact depth content)).toList.length ≤ fuel →
      items (fuel + 2) done ((Text.join ", " (renderItems .compact depth content)).toList ++ ']' :: rest) =
        .ok (.list (done.reverse ++ content), rest)
  | [] => by
    intro _ _ _ filled
    exact absurd rfl filled
  | [item] => by
    intro json writable differ _ rest done fuel depth enough
    simp only [Value.itemsAreJson, Bool.and_true] at json
    simp only [Value.areWritable, Bool.and_true] at writable
    simp only [Value.itemsNamesDiffer, Bool.and_true] at differ
    have read := value_render item json writable differ (ends_bracket rest) fuel depth enough
    rw [renderItems, renderItems, Text.join, items_last done read, List.reverse_cons]
  | item :: next :: later => by
    intro json writable differ _ rest done fuel depth enough
    rw [Value.itemsAreJson, Bool.and_eq_true] at json
    rw [Value.areWritable, Bool.and_eq_true] at writable
    rw [Value.itemsNamesDiffer, Bool.and_eq_true] at differ
    rw [renderItems, renderItems, toList_join_cons, ← renderItems, List.length_append, List.length_cons,
      List.length_cons] at enough
    obtain ⟨left, rfl⟩ : ∃ left, fuel = left + 1 := ⟨fuel - 1, by omega⟩
    have more := items_render (next :: later) json.2 writable.2 differ.2 (List.cons_ne_nil _ _) rest (item :: done) left
      depth (by omega)
    have read (cs : List Char) := value_render item json.1 writable.1 differ.1 (ends_comma cs) (left + 1) depth (by omega)
    rw [renderItems, renderItems, toList_join_cons, ← renderItems, List.append_assoc, List.cons_append,
      List.cons_append, items_next done (read _), (begins_of_items more).1, more, List.reverse_cons,
      List.append_assoc, List.singleton_append]

theorem members_render : (content : List (String × Value)) → Value.membersAreJson content = true →
    Value.membersAreWritable content = true → Value.membersNamesDiffer content = true → content ≠ [] →
    ∀ (rest : List Char) (done : List (String × Value)),
    ∀ (fuel depth : ℕ), (Text.join ", " (renderMembers .compact depth content)).toList.length ≤ fuel →
      members (fuel + 2) done ((Text.join ", " (renderMembers .compact depth content)).toList ++ '}' :: rest) =
        .ok (.object (Fields.ofPairs (done.reverse ++ content)), rest)
  | [] => by
    intro _ _ _ filled
    exact absurd rfl filled
  | [(name, v)] => by
    intro json writable differ _ rest done fuel depth enough
    simp only [Value.membersAreJson, Bool.and_true] at json
    simp only [Value.membersAreWritable, Bool.and_true] at writable
    simp only [Value.membersNamesDiffer, Bool.and_true] at differ
    rw [renderMembers, renderMembers, Text.join] at enough
    have shorter := length_member name (render .compact depth v)
    have read := value_render v json writable differ (ends_brace rest) fuel depth (by omega)
    rw [renderMembers, renderMembers, Text.join, members_last done read, List.reverse_cons]
  | (name, v) :: (label, other) :: later => by
    intro json writable differ _ rest done fuel depth enough
    rw [Value.membersAreJson, Bool.and_eq_true] at json
    rw [Value.membersAreWritable, Bool.and_eq_true] at writable
    rw [Value.membersNamesDiffer, Bool.and_eq_true] at differ
    rw [renderMembers, renderMembers, toList_join_cons, ← renderMembers, List.length_append, List.length_cons,
      List.length_cons] at enough
    have shorter := length_member name (render .compact depth v)
    obtain ⟨left, rfl⟩ : ∃ left, fuel = left + 1 := ⟨fuel - 1, by omega⟩
    have more := members_render ((label, other) :: later) json.2 writable.2 differ.2 (List.cons_ne_nil _ _) rest
      ((name, v) :: done) left depth (by omega)
    have read (cs : List Char) := value_render v json.1 writable.1 differ.1 (ends_comma cs) (left + 1) depth (by omega)
    rw [renderMembers, renderMembers, toList_join_cons, ← renderMembers, List.append_assoc, List.cons_append,
      List.cons_append, members_next done (read _), (begins_of_members more).1, more, List.reverse_cons,
      List.append_assoc, List.singleton_append]

end

mutual

/-- A value of JSON has a text just when no whole number within it has too many digits. -/
theorem encodable_of_isJson : {v : Value} → v.isJson = true → encodable v = v.isWritable
  | .null, _ | .bool _, _ | .float _, _ | .text _, _ => rfl
  | .int n, _ => by
    rw [encodable, obstacle?, Value.isWritable]
    cases Decimal.isVast n <;> rfl
  | .list content, json => by
    simp only [Value.isJson] at json
    exact itemsEncodable_of_areJson json
  | .object content, json => by
    simp only [Value.isJson] at json
    exact membersEncodable_of_areJson json

theorem itemsEncodable_of_areJson : {content : List Value} → Value.itemsAreJson content = true →
    (itemObstacle? content).isNone = Value.areWritable content
  | [], _ => rfl
  | item :: rest, json => by
    simp only [Value.itemsAreJson, Bool.and_eq_true] at json
    have first := encodable_of_isJson json.1
    rw [encodable] at first
    rw [itemObstacle?, Value.areWritable, ← first, ← itemsEncodable_of_areJson json.2]
    cases obstacle? item <;> simp

theorem membersEncodable_of_areJson : {content : List (String × Value)} → Value.membersAreJson content = true →
    (memberObstacle? content).isNone = Value.membersAreWritable content
  | [], _ => rfl
  | (name, v) :: rest, json => by
    simp only [Value.membersAreJson, Bool.and_eq_true] at json
    have first := encodable_of_isJson json.1
    rw [encodable] at first
    rw [memberObstacle?, Value.membersAreWritable, ← first, ← membersEncodable_of_areJson json.2]
    cases obstacle? v <;> simp

end

theorem encode_eq_ok {style : Style} {v : Value} {text : String} :
    encode style v = .ok text ↔ encodable v = true ∧ text = render style 0 v := by
  rw [encode, encodable]
  cases obstacle? v <;> simp [eq_comm]

/-- A document is read from its text. -/
theorem parse_render {v : Value} (json : v.isJson = true) (writable : v.isWritable = true)
    (differ : v.namesDiffer = true) : parse (render .compact 0 v) = .ok v := by
  let cs := (render .compact 0 v).toList
  have ends : Ends [] := fun c member => by cases member
  have made : value (2 * cs.length + 2) cs = .ok (v, []) := by
    have enough : cs.length ≤ 2 * cs.length + 1 := by omega
    have read := value_render v json writable differ ends (2 * cs.length + 1) 0 enough
    rwa [List.append_nil] at read
  have first : cs.head? ≠ some '\uFEFF' := by
    intro mark
    obtain ⟨rest, same⟩ := List.head?_eq_some_iff.mp mark
    rw [same] at made
    cases made
  have body : document cs = .ok v := by
    rw [document, if_neg first, documentBody, (begins_of_value made).1, made]
    rfl
  rw [parse, body]
  rfl

/-- Every document of JSON without a whole number of too many digits has a text from which it is read. -/
theorem exists_encode {v : Value} (json : v.isJson = true) (writable : v.isWritable = true)
    (differ : v.namesDiffer = true) : ∃ text, encode .compact v = .ok text ∧ parse text = .ok v :=
  ⟨_, encode_eq_ok.mpr ⟨(encodable_of_isJson json).trans writable, rfl⟩, parse_render json writable differ⟩

end Json

end Workbench
