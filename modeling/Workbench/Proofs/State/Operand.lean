import Workbench.Proofs.Decimal.NaN
import Workbench.Proofs.State.Items

namespace Workbench

/-- What parameters scale by is a number. -/
theorem Value.isNaN_of_factor {value : Value} {x : Float} (found : value.factor = .ok (some x)) : x.isNaN = false := by
  cases value with
  | int n =>
    obtain ⟨y, made, same⟩ := Except.map_eq_ok.mp found
    cases same
    exact Number.isNaN_ofWhole made
  | float y =>
    have taken : (if y.isFinite then some y else none) = some x := Except.ok.inj found
    by_cases finite : y.isFinite = true
    · rw [if_pos finite] at taken
      cases taken
      exact Float.isNaN_of_isFinite finite
    · rw [if_neg finite] at taken
      cases taken
  | text content =>
    have read := Except.ok.inj found
    exact Float.isNaN_of_isFinite (Option.filter_eq_some_iff.mp read).2
  | _ => cases found

namespace StateChange

variable {change : StateChange} {params : Fields Value} {current : Value} {literal : Literal}

/-- The same change with a literal for its value. -/
def withValue (change : StateChange) (literal : Literal) : StateChange :=
  { change with value := some literal }

/-- The same change with its rendered template for its value. -/
def spelledOut (change : StateChange) (template : String) (params : Fields Value) : StateChange :=
  { change with value := some (.text (Template.render template params)), template := none }

/-- Whether what a change makes of a value hangs on a literal that it does not have: with another in its place, within
range, it would make something else. -/
def DrawsOnNothing (change : StateChange) (params : Fields Value) (current : Value) : Prop :=
  change.value = none ∧ ∃ literal : Literal, literal.toValue.Fits ∧
    (change.withValue literal).effect params (some current) ≠ change.effect params (some current)

/-- The literal that is taken where there is none: a word on text and lists, zero on numbers. -/
def standIn (change : StateChange) (current : Value) : Literal :=
  if change.worksOnText current then .text "None" else .float 0.0

theorem effect_of_not_due (still : change.isDue params = false) {held : Option Value} :
    change.effect params held = .ok none := by
  rw [effect, if_neg (by simp [still])]

theorem effect_of_text (due : change.isDue params = true) (worded : change.worksOnText current = true) :
    change.effect params (some current) = .ok (change.onText params current) := by
  rw [effect, if_pos due, Option.elim, onValue, if_pos worded]

theorem effect_of_number (due : change.isDue params = true) (numeric : change.worksOnText current = false) :
    change.effect params (some current) = change.onNumber params current := by
  rw [effect, if_pos due, Option.elim, onValue, if_neg (by simp [numeric])]

section Text

/-- On text and lists a change looks at nothing of itself but its operator and its operand. -/
theorem onText_congr {other : StateChange} (operand : other.item params = change.item params)
    (operation : other.operator = change.operator) (current : Value) :
    other.onText params current = change.onText params current := by
  unfold onText
  rw [operation, operand]

/-- Changes on text and lists that are due alike and have one operator and one operand come to the same. -/
theorem effect_congr {other : StateChange} (due : other.isDue params = change.isDue params)
    (kind : other.worksOnText current = change.worksOnText current) (operation : other.operator = change.operator)
    (operand : other.item params = change.item params) (worded : change.worksOnText current = true) :
    change.effect params (some current) = other.effect params (some current) := by
  unfold effect
  rw [due, Option.elim, Option.elim, onValue, onValue, kind, if_pos worded, if_pos worded,
    onText_congr operand operation]

theorem item_of_template {template : String} (rendered : change.template = some template) (filled : template ≠ "")
    (params : Fields Value) : change.item params = .text (Template.render template params) := by
  have kept : Option.filter (fun template => template != "") (some template) = some template := by
    simp [Option.filter, filled]
  unfold item
  rw [rendered, kept]

/-- An empty template counts as none. -/
theorem item_of_empty_template (empty : change.template = some "") (params : Fields Value) :
    change.item params = { change with template := none }.item params := by
  unfold item
  rw [empty]
  rfl

theorem item_of_no_operand (valueless : change.value = none) (empty : change.template = some "")
    (params : Fields Value) : change.item params = .text "None" := by
  rw [item_of_empty_template empty, item, valueless]
  rfl

theorem item_withValue_text (empty : change.template = some "") (s : String) (params : Fields Value) :
    (change.withValue (.text s)).item params = .text s := by
  have still : (change.withValue (.text s)).template = some "" := empty
  rw [item_of_empty_template still]
  rfl

theorem item_withValue_texts (empty : change.template = some "") (items : List String) (params : Fields Value) :
    (change.withValue (.texts items)).item params = .texts items := by
  have still : (change.withValue (.texts items)).template = some "" := empty
  rw [item_of_empty_template still]
  rfl

/-- A change on text with neither a value nor a template hangs on them wherever it applies. -/
theorem exists_onText_ne_iff (valueless : change.value = none) (empty : change.template = some "")
    (kinds : (change.operator = .set ∨ change.operator = .assign) ∨ change.Collects) :
    (∃ literal : Literal, literal.toValue.Fits ∧
        (change.withValue literal).onText params current ≠ change.onText params current) ↔
      (change.operator = .set ∨ change.operator = .assign) ∨ current.number? = none := by
  have word := item_of_no_operand valueless empty params
  rcases kinds with replaces | collects
  · refine iff_of_true ⟨.text "", ⟨_, rfl⟩, ?_⟩ (Or.inl replaces)
    have still : (change.withValue (.text "")).operator = .set ∨ (change.withValue (.text "")).operator = .assign :=
      replaces
    have blank : (change.withValue (.text "")).onText params current = some (.text "") := by
      rw [onText_of_replacing still, item_withValue_text empty]
      rfl
    rw [blank, onText_of_replacing replaces, word]
    decide
  · have keeps : ¬ (change.operator = .set ∨ change.operator = .assign) := by
      rcases collects with adds | removes <;> simp [*]
    have applies : (change.onText params current).isSome = true ↔ current.number? = none := by
      rw [isSome_onText_of_collects collects, word]
      simp
    rw [or_iff_right keeps]
    constructor
    · rintro ⟨literal, _, differs⟩
      by_contra numeric
      have still : (change.withValue literal).Collects := collects
      have skipped : (change.withValue literal).onText params current = none := by
        rw [← Option.not_isSome_iff_eq_none, isSome_onText_of_collects still]
        exact fun applied => numeric applied.1
      have idle : change.onText params current = none := by
        rw [← Option.not_isSome_iff_eq_none, applies]
        exact numeric
      exact differs (skipped.trans idle.symm)
    · intro unnumbered
      refine ⟨.texts [], ⟨_, rfl⟩, fun alike => ?_⟩
      have still : (change.withValue (.texts [])).Collects := collects
      have applied := applies.mpr unnumbered
      rw [← alike, isSome_onText_of_collects still, item_withValue_texts empty] at applied
      obtain ⟨_, _, single⟩ := applied
      cases single

end Text

section Number

theorem amount_withValue (change : StateChange) (literal : Literal) (params : Fields Value) :
    (change.withValue literal).amount params = literal.toValue.operand >>= fun base =>
      match change.scale? params with
      | none => .ok base
      | some param => param.factor >>= fun
        | some factor => .ok (base * factor)
        | none => .ok base :=
  amount_eq (change.withValue literal) params

theorem amount_withValue_zero (valueless : change.value = none) (params : Fields Value) :
    (change.withValue (.float 0.0)).amount params = change.amount params := by
  rw [amount_withValue, amount_eq, StateChange.literal, valueless]
  rfl

/-- An amount can be reckoned with a literal in range just when it can without one. -/
theorem amount_withValue_eq_ok (valueless : change.value = none) (fits : literal.toValue.Fits) :
    (∃ x, (change.withValue literal).amount params = .ok x) ↔ ∃ x, change.amount params = .ok x := by
  have own : change.Fits := by
    intro other given
    cases valueless.symm.trans given
  have others : (change.withValue literal).Fits := by
    intro other given
    cases given
    exact fits
  rw [amount_eq_ok, amount_eq_ok, and_iff_right own, and_iff_right others]
  rfl

/-- Some literal makes the amount a number, and another makes it none. -/
theorem exists_amount_withValue (valueless : change.value = none) {delta : Float}
    (reckoned : change.amount params = .ok delta) (lost : Bool) :
    ∃ literal : Literal, literal.toValue.Fits ∧
      ∃ other, (change.withValue literal).amount params = .ok other ∧ other.isNaN = lost := by
  obtain ⟨y, own, scaled⟩ := Float.exists_isNaN_mul lost
  have fits : (Literal.float y).toValue.Fits := ⟨y, rfl⟩
  obtain ⟨other, made⟩ := (amount_withValue_eq_ok valueless fits).mpr ⟨delta, reckoned⟩
  refine ⟨.float y, fits, other, made, ?_⟩
  rw [amount_withValue] at made
  obtain ⟨base, same, made⟩ := Except.bind_eq_ok.mp made
  cases same
  cases param : change.scale? params with
  | none =>
    rw [param] at made
    cases made
    exact own
  | some value =>
    rw [param] at made
    obtain ⟨factor, found, made⟩ := Except.bind_eq_ok.mp made
    cases factor with
    | none =>
      cases made
      exact own
    | some factor =>
      cases made
      exact scaled factor (Value.isNaN_of_factor found)

/-- A change on numbers puts something just when it can be worked out and both its operands are numbers. -/
theorem onNumber_of_numbers (wordless : change.operator.isWord = false) {delta base : Float}
    (amounts : change.amount params = .ok delta) (reckoned : current.operand = .ok base)
    (fine : base.isNaN = false) :
    ∃ made, change.onNumber params current = .ok made ∧ made.isSome = !delta.isNaN := by
  simp only [onNumber, amounts, reckoned, bind, Except.bind, fine, Bool.false_or]
  by_cases lost : delta.isNaN = true
  · rw [if_pos lost, lost]
    exact ⟨none, rfl, rfl⟩
  · rw [if_neg lost]
    have number : (!delta.isNaN) = true := by simpa using lost
    rw [number]
    cases operation : change.operator with
    | increase | decrease | assign => exact ⟨_, rfl, rfl⟩
    | set | add | remove =>
      rw [operation] at wordless
      cases wordless

/-- A change on numbers without a value hangs on it wherever it can be worked out on a number. -/
theorem exists_onNumber_ne_iff (valueless : change.value = none) (wordless : change.operator.isWord = false) :
    (∃ literal : Literal, literal.toValue.Fits ∧
        (change.withValue literal).onNumber params current ≠ change.onNumber params current) ↔
      (∃ delta, change.amount params = .ok delta) ∧ ∃ base, current.operand = .ok base ∧ base.isNaN = false := by
  constructor
  · rintro ⟨literal, fits, differs⟩
    cases amounts : change.amount params with
    | error fault =>
      cases given : (change.withValue literal).amount params with
      | error other =>
        simp only [onNumber, amounts, given, bind, Except.bind] at differs
        exact absurd rfl differs
      | ok delta =>
        obtain ⟨x, made⟩ := (amount_withValue_eq_ok valueless fits).mp ⟨delta, given⟩
        cases amounts.symm.trans made
    | ok delta =>
      refine ⟨⟨delta, rfl⟩, ?_⟩
      obtain ⟨other, given⟩ := (amount_withValue_eq_ok valueless fits).mpr ⟨delta, amounts⟩
      cases reckoned : current.operand with
      | error fault =>
        simp only [onNumber, amounts, given, reckoned, bind, Except.bind] at differs
        exact absurd rfl differs
      | ok base =>
        refine ⟨base, rfl, ?_⟩
        by_contra lost
        simp only [onNumber, amounts, given, reckoned, bind, Except.bind,
          Bool.not_eq_false] at differs lost
        simp only [lost, Bool.true_or, if_true] at differs
        exact absurd rfl differs
  · rintro ⟨⟨delta, amounts⟩, base, reckoned, fine⟩
    obtain ⟨literal, fits, other, given, opposite⟩ := exists_amount_withValue valueless amounts (!delta.isNaN)
    refine ⟨literal, fits, fun alike => ?_⟩
    obtain ⟨made, worked, put⟩ := onNumber_of_numbers wordless amounts reckoned fine
    have still : (change.withValue literal).operator.isWord = false := wordless
    obtain ⟨result, reworked, placed⟩ := onNumber_of_numbers still given reckoned fine
    cases (worked.symm.trans alike.symm).trans reworked
    rw [put, opposite] at placed
    simp at placed

end Number

theorem exists_template (accepted : change.contradiction? = none) (valueless : change.value = none) :
    ∃ template, change.template = some template := by
  rw [← Option.isSome_iff_exists]
  by_contra bare
  have untemplated : change.template.isNone = true := by simpa using bare
  simp only [contradiction?, valueless, untemplated, Option.isNone_none, Bool.and_self, if_true] at accepted
  split_ifs at accepted

/-- On text and lists a missing value is asked for where the template is empty. -/
theorem drawsOnNothing_iff_of_text (accepted : change.contradiction? = none) (due : change.isDue params = true)
    (worded : change.worksOnText current = true) :
    change.DrawsOnNothing params current ↔ change.value = none ∧ change.template = some "" ∧
      ((change.operator = .set ∨ change.operator = .assign) ∨ current.number? = none) := by
  have each (literal : Literal) : (change.withValue literal).effect params (some current) =
      .ok ((change.withValue literal).onText params current) := effect_of_text due worded
  refine and_congr_right fun valueless => ?_
  simp only [each, effect_of_text due worded, ne_eq, Except.ok.injEq]
  obtain ⟨template, rendered⟩ := exists_template accepted valueless
  by_cases empty : template = ""
  · rw [empty] at rendered
    rw [and_iff_right rendered]
    exact exists_onText_ne_iff valueless rendered (replaces_or_collects accepted worded)
  · have filled : change.template ≠ some "" := by simpa [rendered] using empty
    refine iff_of_false ?_ fun both => filled both.1
    rintro ⟨literal, _, differs⟩
    have still : (change.withValue literal).template = some template := rendered
    have alike : (change.withValue literal).item params = change.item params :=
      (item_of_template still empty params).trans (item_of_template rendered empty params).symm
    exact differs (onText_congr alike rfl current)

/-- On numbers a missing value is asked for whatever the template is. -/
theorem drawsOnNothing_iff_of_number (accepted : change.contradiction? = none) (due : change.isDue params = true)
    (numeric : change.worksOnText current = false) :
    change.DrawsOnNothing params current ↔ change.value = none ∧ (∃ delta, change.amount params = .ok delta) ∧
      ∃ base, current.operand = .ok base ∧ base.isNaN = false := by
  have each (literal : Literal) : (change.withValue literal).effect params (some current) =
      (change.withValue literal).onNumber params current := effect_of_number due numeric
  have wordless := operator_of_accepted accepted current
  rw [numeric, if_neg Bool.false_ne_true] at wordless
  refine and_congr_right fun valueless => ?_
  simp only [each, effect_of_number due numeric]
  exact exists_onNumber_ne_iff valueless wordless

theorem not_drawsOnNothing_of_not_due (still : change.isDue params = false) :
    ¬ change.DrawsOnNothing params current := by
  rintro ⟨_, literal, _, differs⟩
  have stillToo : (change.withValue literal).isDue params = false := still
  exact differs ((effect_of_not_due stillToo).trans (effect_of_not_due still).symm)

/-- Where a value is missing and asked for, the change does what it would do with its stand-in for a literal. -/
theorem effect_standIn (accepted : change.contradiction? = none) (draws : change.DrawsOnNothing params current) :
    change.effect params (some current) = (change.withValue (change.standIn current)).effect params (some current) := by
  have valueless := draws.1
  have due : change.isDue params = true := by
    by_contra still
    exact not_drawsOnNothing_of_not_due (by simpa using still) draws
  by_cases worded : change.worksOnText current = true
  · obtain ⟨_, empty, _⟩ := (drawsOnNothing_iff_of_text accepted due worded).mp draws
    have alike : (change.withValue (.text "None")).item params = change.item params :=
      (item_withValue_text empty _ params).trans (item_of_no_operand valueless empty params).symm
    rw [standIn, if_pos worded]
    exact effect_congr rfl rfl rfl alike worded
  · have numeric : change.worksOnText current = false := by simpa using worded
    have reworked : (change.withValue (.float 0.0)).effect params (some current) =
        (change.withValue (.float 0.0)).onNumber params current := effect_of_number due numeric
    rw [standIn, if_neg worded, effect_of_number due numeric, reworked, onNumber, onNumber,
      amount_withValue_zero valueless]
    rfl

/-- A template that is not empty is the operand on text and lists. -/
theorem effect_of_template {template : String} (rendered : change.template = some template) (filled : template ≠ "")
    (worded : change.worksOnText current = true) :
    change.effect params (some current) = (change.spelledOut template params).effect params (some current) := by
  have alike : (change.spelledOut template params).item params = change.item params :=
    (item_of_template rendered filled params).symm
  exact effect_congr rfl rfl rfl alike worded

/-- A change hangs on a value that it does not have just when it is due and the value is asked for: on text and lists,
when its template is empty and it is not skipped; on numbers, whenever there is something to reckon with. What it does
then is what it would do with a word or with zero for its literal. On text and lists a template that is not empty is
the operand. -/
theorem drawsOnNothing_iff (accepted : change.contradiction? = none) (params : Fields Value) (current : Value) :
    (change.DrawsOnNothing params current ↔ change.isDue params = true ∧ change.value = none ∧
        if change.worksOnText current then
          change.template = some "" ∧
            ((change.operator = .set ∨ change.operator = .assign) ∨ current.number? = none)
        else (∃ delta, change.amount params = .ok delta) ∧ ∃ base, current.operand = .ok base ∧ base.isNaN = false) ∧
      (change.DrawsOnNothing params current → change.effect params (some current) =
        (change.withValue (change.standIn current)).effect params (some current)) ∧
      ∀ template, change.template = some template → template ≠ "" → change.worksOnText current = true →
        change.effect params (some current) = (change.spelledOut template params).effect params (some current) := by
  refine ⟨?_, effect_standIn accepted, fun template rendered filled worded => effect_of_template rendered filled worded⟩
  by_cases due : change.isDue params = true
  · rw [and_iff_right due]
    by_cases worded : change.worksOnText current = true
    · rw [if_pos worded]
      exact drawsOnNothing_iff_of_text accepted due worded
    · rw [if_neg worded]
      exact drawsOnNothing_iff_of_number accepted due (by simpa using worded)
  · exact iff_of_false (not_drawsOnNothing_of_not_due (by simpa using due)) fun asked => due asked.1

/-- A step on numbers, scaled and under a flag, that has nothing but a template. -/
def cooling : StateChange :=
  ⟨"heat", .decrease, none, none, some "--cool", some "level", some "%%step%%"⟩

def cooled : Fields Value :=
  [("cool", .bool true), ("level", .text "3"), ("step", .text "5")]

theorem drawsOnNothing_iff_cooling :
    cooling.contradiction? = none ∧ cooling.worksOnText (.text "7.5") = false ∧
      cooling.DrawsOnNothing cooled (.text "7.5") ∧
      cooling.effect cooled (some (.text "7.5")) =
        (cooling.withValue (.float 0.0)).effect cooled (some (.text "7.5")) ∧
      cooling.effect cooled (some (.text "7.5")) = .ok (some (.float 7.5)) := by
  have accepted : cooling.contradiction? = none := rfl
  have numeric : cooling.worksOnText (.text "7.5") = false := rfl
  have amounts : cooling.amount cooled = .ok 0.0 := by decide +kernel
  have reckoned : (Value.text "7.5").operand = .ok 7.5 := by decide +kernel
  have asked := drawsOnNothing_iff accepted cooled (.text "7.5")
  rw [numeric, if_neg Bool.false_ne_true] at asked
  have draws := asked.1.mpr ⟨by decide +kernel, rfl, ⟨_, amounts⟩, _, reckoned, by decide +kernel⟩
  have stands := asked.2.1 draws
  rw [standIn, numeric, if_neg Bool.false_ne_true] at stands
  exact ⟨accepted, numeric, draws, stands, by decide +kernel⟩

/-- A change of a text by an empty template. -/
def unspoken : StateChange :=
  ⟨"mode", .set, none, none, none, none, some ""⟩

/-- A change of a number by a template. -/
def unmeasured : StateChange :=
  ⟨"heat", .assign, none, none, none, none, some "5"⟩

/-- Both are accepted, and what they put is nowhere declared. -/
theorem missing_values_are_put :
    Schema.change (.object [("metric", .text "mode"), ("operator", .text "set"), ("value_template", .text "")]) =
        .valid unspoken ∧
      State.applyAll [] [("mode", .text "calm")] [unspoken] = .ok [("mode", .text "None")] ∧
      Schema.change (.object [("metric", .text "heat"), ("operator", .text "="), ("value_template", .text "5")]) =
        .valid unmeasured ∧
      State.applyAll [] [("heat", .float 1.0)] [unmeasured] = .ok [("heat", .float 0.0)] := by
  refine ⟨rfl, ?_, rfl, ?_⟩
  · decide +kernel
  · decide +kernel

end StateChange

end Workbench
