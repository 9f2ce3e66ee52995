import Workbench.Proofs.Decimal.Exact
import Workbench.Proofs.State.Range

namespace Workbench

/-- The exact value of a finite number; all other values have none. -/
def Value.fraction? (value : Value) : Option ℚ :=
  value.number?.bind Number.fraction?

theorem Value.fraction?_toValue (number : Number) : number.toValue.fraction? = number.fraction? := by
  cases number <;> rfl

theorem Value.fraction?_eq_some_iff {value : Value} {q : ℚ} :
    value.fraction? = some q ↔ ∃ number : Number, value = number.toValue ∧ number.fraction? = some q := by
  constructor
  · intro exact
    obtain ⟨number, found, known⟩ := Option.bind_eq_some_iff.mp exact
    exact ⟨number, Value.eq_toValue_of_number? found, known⟩
  · rintro ⟨number, rfl, known⟩
    rw [fraction?_toValue, known]

section Scale

variable {low high p q : ℚ}

theorem clamp_eq_max_min (low high q : ℚ) : clamp low high q = max low (min q high) := by
  rw [max_def_lt, min_def_lt]
  rfl

theorem clamp_le_clamp (low high : ℚ) (le : p ≤ q) : clamp low high p ≤ clamp low high q := by
  rw [clamp_eq_max_min, clamp_eq_max_min]
  exact max_le_max_left low (min_le_min_right high le)

theorem clamp_bounds (ordered : low ≤ high) (q : ℚ) : low ≤ clamp low high q ∧ clamp low high q ≤ high := by
  rw [clamp_eq_max_min]
  exact ⟨le_max_left _ _, max_le ordered (min_le_right _ _)⟩

theorem clamp_eq_self (above : low ≤ q) (below : q ≤ high) : clamp low high q = q := by
  rw [clamp_eq_max_min, min_eq_left below, max_eq_right above]

/-- The place of a value on a scale in percent, in exact arithmetic and rounded to one decimal. -/
def exactPercentOn (low high shown : ℚ) : Option ℚ :=
  percentOn 100 (Decimal.roundExact 1) low high shown

theorem exactPercentOn_of_lt (ordered : low < high) (q : ℚ) :
    exactPercentOn low high q = some (Decimal.roundExact 1 ((q - low) / (high - low) * 100)) :=
  if_pos ordered

theorem exactPercentOn_eq_none (turned : ¬ low < high) (q : ℚ) : exactPercentOn low high q = none :=
  if_neg turned

theorem exactPercentOn_bounds (ordered : low < high) (above : low ≤ q) (below : q ≤ high) :
    ∃ percent, exactPercentOn low high q = some percent ∧ 0 ≤ percent ∧ percent ≤ 100 := by
  have wide : 0 < high - low := sub_pos.mpr ordered
  have least : 0 ≤ (q - low) / (high - low) * 100 :=
    mul_nonneg (div_nonneg (sub_nonneg.mpr above) wide.le) (by norm_num)
  have most : (q - low) / (high - low) * 100 ≤ (100 : ℕ) := by
    have part : (q - low) / (high - low) ≤ 1 := (div_le_one wide).mpr (sub_le_sub_right below low)
    push_cast
    linarith
  exact ⟨_, exactPercentOn_of_lt ordered q, Decimal.roundExact_bounds least most⟩

theorem exactPercentOn_le_exactPercentOn (ordered : low < high) (le : p ≤ q) :
    ∃ one other, exactPercentOn low high p = some one ∧ exactPercentOn low high q = some other ∧ one ≤ other := by
  have wide : 0 < high - low := sub_pos.mpr ordered
  refine ⟨_, _, exactPercentOn_of_lt ordered p, exactPercentOn_of_lt ordered q, Decimal.roundExact_le_roundExact ?_⟩
  have part : (p - low) / (high - low) ≤ (q - low) / (high - low) :=
    div_le_div_of_nonneg_right (sub_le_sub_right le low) wide.le
  linarith

/-- Bounding a number by a scale and taking its exact value go together. -/
theorem Number.fraction?_clamp {bottom top number : Number} (least : bottom.fraction? = some low)
    (most : top.fraction? = some high) (exact : number.fraction? = some q) :
    (clamp bottom top number).fraction? = some (clamp low high q) := by
  have bounded : (if number < top then number else top).fraction? = some (if q < high then q else high) := by
    simp only [Number.lt_iff_of_fraction? exact most]
    split <;> assumption
  unfold clamp
  dsimp only
  generalize (if number < top then number else top) = between at bounded
  generalize (if q < high then q else high) = value at bounded
  simp only [Number.lt_iff_of_fraction? least bounded]
  split
  · exact bounded
  · exact least

end Scale

/-- A gauge of a metric that stands at a number: the number is bounded by the scale, and shown as it is within, it has
reached the threshold or not, and it is placed on every scale that is neither empty nor inverted. -/
structure MetricGauge.Shows (gauge : MetricGauge) (definition : MetricDefinition) (low high : ℚ) (held : Value)
    (raw : ℚ) : Prop where
  id : gauge.id = definition.id
  bottom : gauge.low = definition.range.1
  top : gauge.high = definition.range.2
  value : gauge.value.fraction? = some (clamp low high raw)
  inside : low < raw → raw < high → gauge.value = held
  percent : gauge.percent.isSome = true ↔ low < high
  computed : low < high → ∃ number x, gauge.value = Number.toValue number ∧ number.toFloat = .ok x ∧
    gauge.percent = percentOn 100.0 (Decimal.roundPlaces 1) gauge.low gauge.high x
  critical : gauge.critical = true ↔
    ∃ threshold least, definition.threshold = some threshold ∧ Decimal.fraction? threshold = some least ∧
      least ≤ clamp low high raw

namespace Gauges

variable {definition : MetricDefinition} {state : State} {low high raw : ℚ}

theorem levelOf_toValue (number : Number) : levelOf number.toValue = some number := by
  cases number <;> rfl

theorem isCritical_toValue {threshold : Option Float} (finite : ∀ x, threshold = some x → x.isFinite = true)
    {number : Number} {q : ℚ} (exact : number.fraction? = some q) :
    isCritical threshold number.toValue = true ↔
      ∃ x least, threshold = some x ∧ Decimal.fraction? x = some least ∧ least ≤ q := by
  unfold isCritical
  cases threshold with
  | none => simp
  | some x =>
    obtain ⟨least, known⟩ := Decimal.exists_fraction? (finite x rfl)
    rw [levelOf_toValue]
    dsimp only
    rw [Number.atLeast_iff_of_fraction? (b := .real x) exact known]
    simp [known]

/-- A metric that stands at a finite number has a gauge, however large the number is. -/
theorem exists_metric_shows (bottom : Decimal.fraction? definition.range.1 = some low)
    (top : Decimal.fraction? definition.range.2 = some high)
    (threshold : ∀ x, definition.threshold = some x → x.isFinite = true)
    (exact : (State.shown state definition.id).fraction? = some raw) :
    ∃ gauge, metric definition state = .ok gauge ∧
      gauge.Shows definition low high (State.shown state definition.id) raw := by
  obtain ⟨number, same, known⟩ := Value.fraction?_eq_some_iff.mp exact
  have least : (Number.real definition.range.1).fraction? = some low := bottom
  have most : (Number.real definition.range.2).fraction? = some high := top
  have bounded := Number.fraction?_clamp least most known
  have order := Decimal.lt_iff_of_fraction? bottom top
  have shown : (State.shown state definition.id).clampTo
      (some (.real definition.range.1, .real definition.range.2)) =
        (clamp (.real definition.range.1) (.real definition.range.2) number).toValue := by
    rw [same, Value.clampTo]
    cases number <;> rfl
  have inside (above : low < raw) (below : raw < high) :
      (clamp (.real definition.range.1) (.real definition.range.2) number).toValue =
        State.shown state definition.id := by
    have lower : Number.real definition.range.1 < number := (Number.lt_iff_of_fraction? least known).mpr above
    have upper : number < .real definition.range.2 := (Number.lt_iff_of_fraction? known most).mpr below
    rw [clamp, if_pos upper, if_pos lower, same]
  generalize clamp (.real definition.range.1) (.real definition.range.2) number = clamped at bounded shown inside
  have read : clamped.toValue.number? = some clamped := by cases clamped <;> rfl
  unfold metric
  dsimp only
  rw [shown, read]
  dsimp only
  have critical := isCritical_toValue threshold bounded
  have value := (Value.fraction?_toValue clamped).trans bounded
  by_cases ordered : definition.range.1 < definition.range.2
  · obtain ⟨least, most⟩ := clamp_bounds (order.mp ordered).le raw
    have within : |clamp low high raw| ≤ UnpackedFloat.greatest :=
      (abs_le_max_abs_abs least most).trans (max_le (Decimal.denotes_of_fraction? bottom).abs_le
        (Decimal.denotes_of_fraction? top).abs_le)
    obtain ⟨x, made⟩ := Number.exists_toFloat bounded within
    rw [if_pos ordered, made]
    refine ⟨_, rfl, rfl, rfl, rfl, value, inside, ?_, fun _ => ⟨clamped, x, rfl, made, rfl⟩, critical⟩
    simp [percentOn, ordered, order.mp ordered]
  · rw [if_neg ordered]
    refine ⟨_, rfl, rfl, rfl, rfl, value, inside, ?_, fun proper => absurd (order.mpr proper) ordered, critical⟩
    simp [order.not.mp ordered]

/-- A metric that stands at no number is shown as it is, and has no percentage. -/
theorem metric_of_number?_eq_none (none : (State.shown state definition.id).number? = none) :
    ∃ gauge, metric definition state = .ok gauge ∧ gauge.percent = Option.none ∧
      gauge.value = State.shown state definition.id := by
  have shown : (State.shown state definition.id).clampTo
      (some (.real definition.range.1, .real definition.range.2)) = State.shown state definition.id := by
    unfold Value.clampTo
    rw [none]
  unfold metric
  dsimp only
  rw [shown, none]
  exact ⟨_, rfl, rfl, rfl⟩

end Gauges

/-- Whether the ends of the scale and the threshold of a metric are finite. -/
structure MetricDefinition.Finite (definition : MetricDefinition) : Prop where
  low : definition.range.1.isFinite = true
  high : definition.range.2.isFinite = true
  threshold : ∀ x, definition.threshold = some x → x.isFinite = true

/-- Whether all numbers of a state are finite. Whole numbers are, whatever their size. -/
def State.Finite (state : State) : Prop :=
  ∀ key x, Fields.get? state key = some (.float x) → x.isFinite = true

theorem State.Finite.fraction? {state : State} (finite : state.Finite) (metric : String) {number : Number}
    (found : (shown state metric).number? = some number) : ∃ q, (shown state metric).fraction? = some q := by
  unfold Value.fraction?
  rw [found]
  cases number with
  | whole n => exact ⟨n, rfl⟩
  | real x =>
    refine Decimal.exists_fraction? (finite metric x ?_)
    have same := Value.eq_toValue_of_number? found
    unfold shown at same
    cases held : Fields.get? state metric with
    | none =>
      rw [held] at same
      cases same
    | some value =>
      rw [held] at same
      exact congrArg some same

/-- The percentage that a gauge shows, in exact arithmetic. -/
def MetricGauge.exactPercent (gauge : MetricGauge) : Option ℚ :=
  (Decimal.fraction? gauge.low).bind fun low => (Decimal.fraction? gauge.high).bind fun high =>
    gauge.value.fraction?.bind (exactPercentOn low high)

/-- Whether a gauge that shows a percentage lies on its scale, and its percentage between nothing and all. The
percentage shown and the exact one are the same calculation, on floating point numbers and on fractions. -/
structure MetricGauge.OnScale (gauge : MetricGauge) : Prop where
  placed : gauge.percent.isSome = gauge.exactPercent.isSome
  computed : gauge.percent ≠ none → ∃ number x, gauge.value = Number.toValue number ∧ number.toFloat = .ok x ∧
    gauge.percent = percentOn 100.0 (Decimal.roundPlaces 1) gauge.low gauge.high x
  bounded : gauge.percent ≠ none → ∃ low high value percent,
    Decimal.fraction? gauge.low = some low ∧ Decimal.fraction? gauge.high = some high ∧
      gauge.value.fraction? = some value ∧ gauge.exactPercent = some percent ∧
      low ≤ value ∧ value ≤ high ∧ 0 ≤ percent ∧ percent ≤ 100

/-- Whether one gauge of a metric stands no higher than another in value and percentage, and is not the only one that
has reached the threshold. -/
structure MetricGauge.AtMost (gauge other : MetricGauge) : Prop where
  value : ∃ one two, gauge.value.fraction? = some one ∧ other.value.fraction? = some two ∧ one ≤ two
  percent : gauge.exactPercent = none ∧ other.exactPercent = none ∨
    ∃ one two, gauge.exactPercent = some one ∧ other.exactPercent = some two ∧ one ≤ two
  critical : gauge.critical = true → other.critical = true

namespace MetricGauge.Shows

variable {gauge other : MetricGauge} {definition : MetricDefinition} {low high p q : ℚ} {held kept : Value}

theorem exactPercent_eq (shows : gauge.Shows definition low high held p)
    (bottom : Decimal.fraction? definition.range.1 = some low) (top : Decimal.fraction? definition.range.2 = some high) :
    gauge.exactPercent = exactPercentOn low high (clamp low high p) := by
  rw [MetricGauge.exactPercent, shows.bottom, shows.top, shows.value, bottom, top]
  rfl

theorem onScale (shows : gauge.Shows definition low high held p)
    (bottom : Decimal.fraction? definition.range.1 = some low) (top : Decimal.fraction? definition.range.2 = some high) :
    gauge.OnScale := by
  have percent := shows.exactPercent_eq bottom top
  by_cases ordered : low < high
  · obtain ⟨least, most⟩ := clamp_bounds ordered.le p
    obtain ⟨exactly, placed, none, all⟩ := exactPercentOn_bounds ordered least most
    rw [placed] at percent
    refine ⟨?_, fun _ => shows.computed ordered,
      fun _ => ⟨low, high, _, exactly, ?_, ?_, shows.value, percent, least, most, none, all⟩⟩
    · rw [percent, shows.percent.mpr ordered]
      rfl
    · rw [shows.bottom, bottom]
    · rw [shows.top, top]
  · have unplaced : gauge.percent = none := by
      rw [← Option.not_isSome_iff_eq_none, shows.percent]
      exact ordered
    rw [exactPercentOn_eq_none ordered] at percent
    refine ⟨?_, fun placed => absurd unplaced placed, fun placed => absurd unplaced placed⟩
    rw [percent, unplaced]
    rfl

theorem atMost (shows : gauge.Shows definition low high held p) (others : other.Shows definition low high kept q)
    (bottom : Decimal.fraction? definition.range.1 = some low) (top : Decimal.fraction? definition.range.2 = some high)
    (le : p ≤ q) : gauge.AtMost other := by
  have order := clamp_le_clamp low high le
  refine ⟨⟨_, _, shows.value, others.value, order⟩, ?_, ?_⟩
  · rw [shows.exactPercent_eq bottom top, others.exactPercent_eq bottom top]
    by_cases ordered : low < high
    · exact Or.inr (exactPercentOn_le_exactPercentOn ordered order)
    · exact Or.inl ⟨exactPercentOn_eq_none ordered _, exactPercentOn_eq_none ordered _⟩
  · rw [shows.critical, others.critical]
    rintro ⟨threshold, least, given, exactly, reached⟩
    exact ⟨threshold, least, given, exactly, reached.trans order⟩

end MetricGauge.Shows

namespace Gauges

variable {definitions : List Definition} {state : State}

/-- Every metric has a gauge on its scale. -/
theorem exists_metric_onScale {definition : MetricDefinition} (finite : definition.Finite) (numbers : state.Finite) :
    ∃ gauge, metric definition state = .ok gauge ∧ gauge.OnScale := by
  obtain ⟨low, bottom⟩ := Decimal.exists_fraction? finite.low
  obtain ⟨high, top⟩ := Decimal.exists_fraction? finite.high
  cases found : (State.shown state definition.id).number? with
  | none =>
    obtain ⟨gauge, made, unplaced, same⟩ := metric_of_number?_eq_none found
    have inexact : gauge.exactPercent = none := by
      rw [MetricGauge.exactPercent, same, Value.fraction?, found]
      cases Decimal.fraction? gauge.low <;> cases Decimal.fraction? gauge.high <;> rfl
    refine ⟨gauge, made, ?_, fun placed => absurd unplaced placed, fun placed => absurd unplaced placed⟩
    rw [unplaced, inexact]
    rfl
  | some number =>
    obtain ⟨raw, exact⟩ := numbers.fraction? definition.id found
    obtain ⟨gauge, made, shows⟩ := exists_metric_shows bottom top finite.threshold exact
    exact ⟨gauge, made, shows.onScale bottom top⟩

/-- The gauges of a state are those of the numeric metrics in their order, each on its scale. -/
theorem exists_ofState_onScale (finite : ∀ definition ∈ Definition.metrics definitions, definition.Finite)
    (numbers : state.Finite) :
    ∃ gauges, ofState definitions state = .ok gauges ∧
      List.Forall₂ (fun definition gauge => metric definition state = .ok gauge ∧ gauge.OnScale)
        (Definition.metrics definitions) gauges.metrics := by
  obtain ⟨gauges, metrics, made, same, each⟩ := exists_foldlM_add (fun definition member =>
    (exists_metric_onScale (finite definition member) numbers).imp fun _ shown => shown.1) ⟨[], []⟩
  rw [List.nil_append] at same
  subst same
  refine ⟨gauges, made, List.forall₂_iff_get.mpr ⟨each.length_eq, fun i known held => ?_⟩⟩
  have shown := (List.forall₂_iff_get.mp each).2 i known held
  obtain ⟨gauge, again, scaled⟩ := exists_metric_onScale (finite _ (List.get_mem _ _)) numbers
  rw [again] at shown
  cases shown
  exact ⟨again, scaled⟩

/-- The gauges of finite numbers stay on their scales. A gauge that shows a percentage has its value between the ends
of the scale and its percentage, in exact arithmetic, between nothing and a hundred; a number on the scale is shown
as it is; and for a larger number of its metric, whatever else differs between the two states, a gauge shows no
smaller value or percentage and does not fall back below its threshold. -/
theorem on_scale (finite : ∀ definition ∈ Definition.metrics definitions, definition.Finite)
    (numbers : state.Finite) :
    ∃ gauges, ofState definitions state = .ok gauges ∧
      gauges.metrics.length = (Definition.metrics definitions).length ∧
      (∀ gauge ∈ gauges.metrics, gauge.OnScale) ∧
      ∀ (definition : MetricDefinition) (gauge : MetricGauge),
        (definition, gauge) ∈ (Definition.metrics definitions).zip gauges.metrics →
        ∀ low high raw, Decimal.fraction? definition.range.1 = some low →
          Decimal.fraction? definition.range.2 = some high →
          (State.shown state definition.id).fraction? = some raw →
            gauge.Shows definition low high (State.shown state definition.id) raw ∧
            (low ≤ raw → raw ≤ high → gauge.value.fraction? = some raw) ∧
            ∀ (later : State) (others : Gauges) (other : MetricGauge) (larger : ℚ), later.Finite →
              ofState definitions later = .ok others →
              (definition, other) ∈ (Definition.metrics definitions).zip others.metrics →
              (State.shown later definition.id).fraction? = some larger → raw ≤ larger → gauge.AtMost other := by
  obtain ⟨gauges, made, each⟩ := exists_ofState_onScale finite numbers
  refine ⟨gauges, made, each.length_eq.symm, ?_, ?_⟩
  · intro gauge member
    obtain ⟨i, bound, rfl⟩ := List.getElem_of_mem member
    exact (each.get (bound.trans_eq each.length_eq.symm) bound).2
  intro definition gauge paired low high raw bottom top exactly
  have known := (List.of_mem_zip paired).1
  -- Both gauges are those that the metric shows of its numbers.
  have shows {state : State} {gauge : MetricGauge} {raw : ℚ} (made : metric definition state = .ok gauge)
      (exactly : (State.shown state definition.id).fraction? = some raw) :
      gauge.Shows definition low high (State.shown state definition.id) raw := by
    obtain ⟨_, again, shows⟩ := exists_metric_shows bottom top (finite definition known).threshold exactly
    rw [made] at again
    cases again
    exact shows
  have one := shows (List.forall₂_zip each paired).1 exactly
  refine ⟨one, ?_, ?_⟩
  · intro above below
    rw [one.value, clamp_eq_self above below]
  · intro later others other larger numbers shown kept held le
    obtain ⟨again, same, each⟩ := exists_ofState_onScale finite numbers
    rw [shown] at same
    cases same
    exact one.atMost (shows (List.forall₂_zip each kept).1 held) bottom top le

/-- A metric between nothing and a hundred that is critical from fifty on. -/
def charge : MetricDefinition :=
  ⟨"charge", "Charge", 0.0, (0.0, 100.0), "", none, some 50.0⟩

/-- At twenty the charge is shown as it is; at a whole number beyond all floating point numbers it stands no lower. -/
theorem on_scale_charge :
    (∀ definition ∈ Definition.metrics [.metric charge], definition.Finite) ∧
      State.Finite [("charge", .int 20)] ∧ State.Finite [("charge", .int (10 ^ 400))] ∧
      ∃ gauges others gauge other, ofState [.metric charge] [("charge", .int 20)] = .ok gauges ∧
        ofState [.metric charge] [("charge", .int (10 ^ 400))] = .ok others ∧
        gauges.metrics = [gauge] ∧ others.metrics = [other] ∧ gauge.OnScale ∧ other.OnScale ∧
        gauge.value = .int 20 ∧ gauge.AtMost other := by
  have finite : ∀ definition ∈ Definition.metrics [.metric charge], definition.Finite := by
    intro definition member
    cases List.mem_singleton.mp member
    refine ⟨by decide +kernel, by decide +kernel, ?_⟩
    rintro _ ⟨⟩
    decide +kernel
  have numbers (n : ℤ) : State.Finite [("charge", .int n)] := by
    intro key x held
    rw [Fields.get?, Fields.get?] at held
    split at held <;> cases held
  have bottom : Decimal.fraction? charge.range.1 = some 0 := by decide +kernel
  have top : Decimal.fraction? charge.range.2 = some 100 := by decide +kernel
  obtain ⟨gauges, made, length, scaled, each⟩ := on_scale finite (numbers 20)
  obtain ⟨others, again, width, level, _⟩ := on_scale finite (numbers (10 ^ 400))
  obtain ⟨gauge, one⟩ := List.length_eq_one_iff.mp length
  obtain ⟨other, two⟩ := List.length_eq_one_iff.mp width
  rw [one] at scaled each
  rw [two] at level
  obtain ⟨shows, _, rising⟩ := each charge gauge List.mem_cons_self 0 100 20 bottom top rfl
  refine ⟨finite, numbers 20, numbers (10 ^ 400), gauges, others, gauge, other, made, again, one, two,
    scaled gauge List.mem_cons_self, level other List.mem_cons_self, shows.inside (by norm_num) (by norm_num), ?_⟩
  have more : (20 : ℤ) ≤ 10 ^ 400 :=
    (by norm_num : (20 : ℤ) ≤ 10 ^ 2).trans (pow_le_pow_right₀ (by norm_num) (by norm_num))
  refine rising _ others other _ (numbers (10 ^ 400)) again ?_ rfl (Int.cast_le.mpr more)
  rw [two]
  exact List.mem_cons_self

end Gauges

end Workbench
