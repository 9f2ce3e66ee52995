import Mathlib
import Workbench.Number

namespace Workbench

open Float.Model (Format UnpackedFloat)

namespace UnpackedFloat

variable {format : Format}

theorem isNaN_unpack_of_exponent (sign : UnpackedFloat.Sign) {exponent : BitVec format.exponentBits}
    (mantissa : BitVec format.mantissaBitsWithoutImplicit) (bounded : exponent ≠ -1#_) :
    (UnpackedFloat.unpack format (UnpackedFloat.packComponents format sign exponent mantissa)).isNaN = false := by
  unfold UnpackedFloat.unpack
  simp only [UnpackedFloat.unpackExponent_packComponents, if_neg bounded]
  split
  · split <;> rfl
  · rfl

theorem isNaN_unpack_infinity (sign : UnpackedFloat.Sign) :
    (UnpackedFloat.unpack format (UnpackedFloat.packedInfinity format sign)).isNaN = false := by
  simp [UnpackedFloat.packedInfinity, UnpackedFloat.unpack, UnpackedFloat.isNaN]

/-- Only not-a-number is stored as not-a-number; what is too large becomes an infinity. -/
theorem isNaN_unpack_pack (unpacked : UnpackedFloat) :
    (UnpackedFloat.unpack format (unpacked.pack format)).isNaN = unpacked.isNaN := by
  cases unpacked with
  | notANumber => rw [UnpackedFloat.pack, UnpackedFloat.unpack_packedNaN]
  | infinity sign => exact isNaN_unpack_infinity sign
  | zero sign => rw [UnpackedFloat.pack, UnpackedFloat.unpack_packedZero]
  | finite sign mantissa exponent positive =>
    unfold UnpackedFloat.pack
    dsimp only
    split
    · exact isNaN_unpack_infinity sign
    · rename_i small
      split
      · refine isNaN_unpack_of_exponent sign _ ?_
        intro full
        have filled := congrArg BitVec.toNat full
        simp only [BitVec.toNat_ofNat, BitVec.neg_one_eq_allOnes, BitVec.toNat_allOnes] at filled
        rw [Nat.mod_eq_of_lt (by omega)] at filled
        omega
      · refine isNaN_unpack_of_exponent sign _ ?_
        have wide := format.he
        simp [BitVec.zero_eq_neg_one_iff, wide.ne']

theorem isNaN_roundWithAccuracy (sign : UnpackedFloat.Sign) (mantissa : Nat) (exponent : Int)
    (accuracy : UnpackedFloat.Accuracy) :
    (UnpackedFloat.roundWithAccuracy format sign mantissa exponent accuracy).isNaN = false := by
  unfold UnpackedFloat.roundWithAccuracy
  dsimp only
  split <;> rfl

theorem isNaN_normalize (mantissa exponent : Int) (sign : UnpackedFloat.Sign) :
    (UnpackedFloat.normalize format mantissa exponent sign).isNaN = false := by
  unfold UnpackedFloat.normalize
  split
  · exact isNaN_roundWithAccuracy _ _ _ _
  · rfl
  · exact isNaN_roundWithAccuracy _ _ _ _

theorem isNaN_mul_finite {a : UnpackedFloat} (left : a.isNaN = false) (sign : UnpackedFloat.Sign) (mantissa : Nat)
    (exponent : Int) (positive : 0 < mantissa) :
    (UnpackedFloat.mul format a (.finite sign mantissa exponent positive)).isNaN = false := by
  cases a with
  | notANumber => cases left
  | infinity _ | zero _ => rfl
  | finite _ _ _ _ => exact isNaN_roundWithAccuracy _ _ _ _

theorem isNaN_finite_mul {b : UnpackedFloat} (right : b.isNaN = false) (sign : UnpackedFloat.Sign) (mantissa : Nat)
    (exponent : Int) (positive : 0 < mantissa) :
    (UnpackedFloat.mul format (.finite sign mantissa exponent positive) b).isNaN = false := by
  cases b with
  | notANumber => cases right
  | infinity _ | zero _ => rfl
  | finite _ _ _ _ => exact isNaN_roundWithAccuracy _ _ _ _

theorem isNaN_ofScientific (mantissa : Nat) (exponent : Int) :
    (UnpackedFloat.ofScientific format mantissa exponent).isNaN = false := by
  unfold UnpackedFloat.ofScientific
  split_ifs
  · rfl
  · rfl
  · rfl
  · exact isNaN_roundWithAccuracy _ _ _ _
  · exact isNaN_roundWithAccuracy _ _ _ _

theorem isNaN_neg (a : UnpackedFloat) : a.neg.isNaN = a.isNaN := by
  cases a <;> rfl

theorem isNaN_add {a b : UnpackedFloat} (left : a.isNaN = false) (right : b.isNaN = false) :
    (UnpackedFloat.add format a b).isNaN = true ↔ a.isInf = true ∧ b.isInf = true ∧ a ≠ b := by
  cases a with
  | notANumber => cases left
  | infinity one =>
    cases b with
    | notANumber => cases right
    | infinity other => cases one <;> cases other <;> simp [UnpackedFloat.add, UnpackedFloat.isNaN, UnpackedFloat.isInf]
    | zero _ | finite _ _ _ _ => simp [UnpackedFloat.add, UnpackedFloat.isNaN, UnpackedFloat.isInf]
  | zero one =>
    cases b with
    | notANumber => cases right
    | zero other => cases one <;> cases other <;> simp [UnpackedFloat.add, UnpackedFloat.isNaN, UnpackedFloat.isInf]
    | infinity _ | finite _ _ _ _ => simp [UnpackedFloat.add, UnpackedFloat.isNaN, UnpackedFloat.isInf]
  | finite _ _ _ _ =>
    cases b with
    | notANumber => cases right
    | finite _ _ _ _ => simp [UnpackedFloat.add, UnpackedFloat.isInf, isNaN_normalize]
    | infinity _ | zero _ => simp [UnpackedFloat.add, UnpackedFloat.isNaN, UnpackedFloat.isInf]

theorem apply_neg (sign : UnpackedFloat.Sign) (n : Int) : (-sign).apply n = -sign.apply n := by
  cases sign with
  | positive => rfl
  | negative => exact (Int.neg_neg n).symm

theorem sub_eq_add_neg (a b : UnpackedFloat) :
    UnpackedFloat.sub format a b = UnpackedFloat.add format a b.neg := by
  cases a with
  | finite _ _ _ _ =>
    cases b with
    | finite _ _ _ _ => simp only [UnpackedFloat.sub, UnpackedFloat.add, UnpackedFloat.neg, apply_neg, Int.sub_eq_add_neg]
    | _ => rfl
  | _ => cases b <;> rfl

theorem isNaN_sub {a b : UnpackedFloat} (left : a.isNaN = false) (right : b.isNaN = false) :
    (UnpackedFloat.sub format a b).isNaN = true ↔ a.isInf = true ∧ a = b := by
  have meet (one other : UnpackedFloat.Sign) : one ≠ -other ↔ one = other := by
    cases one <;> cases other <;> simp [Neg.neg]
  rw [sub_eq_add_neg, isNaN_add left ((isNaN_neg b).trans right)]
  cases a with
  | infinity one =>
    cases b with
    | infinity other => simpa [UnpackedFloat.neg, UnpackedFloat.isInf] using meet one other
    | _ => simp [UnpackedFloat.neg, UnpackedFloat.isInf]
  | _ => simp [UnpackedFloat.isInf]

end UnpackedFloat

namespace Float

theorem unpack_inj {a b : Float} : a.toModel.unpack = b.toModel.unpack ↔ a = b := by
  refine (UnpackedFloat.unpack_inj_of_valid a.toModel.valid b.toModel.valid).trans ?_
  rw [UInt64.toBitVec_inj]
  exact Float.toBits_inj

/-- Only opposite infinities add up to what is not a number. -/
theorem isNaN_add {a b : Float} (left : a.isNaN = false) (right : b.isNaN = false) :
    (a + b).isNaN = true ↔ a.isInf = true ∧ b.isInf = true ∧ a ≠ b := by
  have packed : (a + b).isNaN = (UnpackedFloat.add .binary64 a.toModel.unpack b.toModel.unpack).isNaN :=
    UnpackedFloat.isNaN_unpack_pack _
  rw [packed, UnpackedFloat.isNaN_add left right, Ne, unpack_inj]
  rfl

/-- Only an infinity taken from itself leaves what is not a number. -/
theorem isNaN_sub {a b : Float} (left : a.isNaN = false) (right : b.isNaN = false) :
    (a - b).isNaN = true ↔ a.isInf = true ∧ a = b := by
  have packed : (a - b).isNaN = (UnpackedFloat.sub .binary64 a.toModel.unpack b.toModel.unpack).isNaN :=
    UnpackedFloat.isNaN_unpack_pack _
  rw [packed, UnpackedFloat.isNaN_sub left right, unpack_inj]
  rfl

theorem isNaN_neg (x : Float) : (-x).isNaN = x.isNaN :=
  (UnpackedFloat.isNaN_unpack_pack _).trans (UnpackedFloat.isNaN_neg _)

theorem isNaN_ofScientific_whole (n : Nat) : (Float.ofScientific n false 0).isNaN = false := by
  unfold Float.ofScientific
  split
  · -- A small number is multiplied by the power of ten that is one.
    have unit : ∃ sign mantissa exponent positive,
        (Float.exactlyRepresentablePowersOfTen[0]).toModel.unpack = .finite sign mantissa exponent positive :=
      ⟨_, _, _, _, rfl⟩
    obtain ⟨sign, mantissa, exponent, positive, same⟩ := unit
    refine (UnpackedFloat.isNaN_unpack_pack _).trans ?_
    rw [same]
    refine UnpackedFloat.isNaN_mul_finite ?_ sign mantissa exponent positive
    exact (UnpackedFloat.isNaN_unpack_pack _).trans (UnpackedFloat.isNaN_normalize _ _ _)
  · exact (UnpackedFloat.isNaN_unpack_pack _).trans (UnpackedFloat.isNaN_ofScientific _ _)

theorem isNaN_of_isInf {x : Float} (infinite : x.isInf = true) : x.isNaN = false := by
  have unpacked : x.toModel.unpack.isInf = true := infinite
  have same : x.isNaN = x.toModel.unpack.isNaN := rfl
  rw [same]
  cases reading : x.toModel.unpack with
  | notANumber =>
    rw [reading] at unpacked
    cases unpacked
  | _ => rfl

theorem isNaN_of_isFinite {x : Float} (finite : x.isFinite = true) : x.isNaN = false := by
  have unpacked : x.toModel.unpack.isFinite = true := finite
  have same : x.isNaN = x.toModel.unpack.isNaN := rfl
  rw [same]
  cases reading : x.toModel.unpack with
  | notANumber =>
    rw [reading] at unpacked
    cases unpacked
  | _ => rfl

theorem isNaN_mul_of_isNaN {a : Float} (lost : a.isNaN = true) (b : Float) : (a * b).isNaN = true := by
  have packed : (a * b).isNaN = (UnpackedFloat.mul .binary64 a.toModel.unpack b.toModel.unpack).isNaN :=
    UnpackedFloat.isNaN_unpack_pack _
  have unpacked : a.toModel.unpack = .notANumber := UnpackedFloat.isNaN_iff.mp lost
  rw [packed, unpacked]
  rfl

theorem isNaN_one_mul {x : Float} (fine : x.isNaN = false) : (1.0 * x).isNaN = false := by
  have unit : ∃ sign mantissa exponent positive,
      (1.0 : Float).toModel.unpack = .finite sign mantissa exponent positive := ⟨_, _, _, _, rfl⟩
  obtain ⟨sign, mantissa, exponent, positive, same⟩ := unit
  refine (UnpackedFloat.isNaN_unpack_pack _).trans ?_
  rw [same]
  exact UnpackedFloat.isNaN_finite_mul fine sign mantissa exponent positive

/-- There is a number, and there is what is none, that multiplication by a number leaves such. -/
theorem exists_isNaN_mul (lost : Bool) :
    ∃ y : Float, y.isNaN = lost ∧ ∀ x : Float, x.isNaN = false → (y * x).isNaN = lost := by
  cases lost with
  | true =>
    have none : (0.0 / 0.0 : Float).isNaN = true := by decide +kernel
    exact ⟨0.0 / 0.0, none, fun x _ => isNaN_mul_of_isNaN none x⟩
  | false => exact ⟨1.0, by decide +kernel, fun _ fine => isNaN_one_mul fine⟩

theorem lt_iff {a b : Float} : a < b ↔ a.toModel.unpack.compare b.toModel.unpack = some .lt := by
  have unfolded : a < b ↔ decide (a.toModel < b.toModel) = true := Iff.rfl
  rw [unfolded, decide_eq_true_iff]
  exact beq_iff_eq

/-- What is not a number is in no order with any number. -/
theorem not_lt_of_isNaN {a b : Float} (lost : a.isNaN = true ∨ b.isNaN = true) : ¬ a < b := by
  rw [lt_iff]
  rcases lost with lost | lost
  · rw [UnpackedFloat.isNaN_iff.mp lost]
    simp [UnpackedFloat.compare]
  · rw [UnpackedFloat.isNaN_iff.mp lost]
    cases a.toModel.unpack <;> simp [UnpackedFloat.compare]

end Float

namespace Number

theorem isNaN_ofWhole {n : Int} {x : Float} (made : ofWhole n = .ok x) : x.isNaN = false := by
  unfold ofWhole at made
  dsimp only at made
  split_ifs at made
  · cases made
    exact (Float.isNaN_neg _).trans (Float.isNaN_ofScientific_whole _)
  · cases made
    exact Float.isNaN_ofScientific_whole _

theorem ofFloat_of_isNaN {x : Float} (lost : x.isNaN = true) : Decimal.Binary.ofFloat x = .nan := by
  rw [Float.isNaN_eq_decide_eq_nan, decide_eq_true_iff] at lost
  rw [lost]
  decide +kernel

theorem not_lt_of_isNaN {a b : Number} (lost : a.isNaN = true ∨ b.isNaN = true) : ¬ a < b := by
  have unrelated : below a b = false := by
    cases a with
    | whole n =>
      cases b with
      | whole m => simp [isNaN] at lost
      | real y =>
        have nan : y.isNaN = true := by simpa [isNaN] using lost
        simp only [below, ofFloat_of_isNaN nan]
    | real x =>
      cases b with
      | whole m =>
        have nan : x.isNaN = true := by simpa [isNaN] using lost
        simp only [below, ofFloat_of_isNaN nan]
      | real y => exact decide_eq_false (Float.not_lt_of_isNaN lost)
  intro less
  exact Bool.false_ne_true (unrelated.symm.trans less)

/-- A number bounded by a scale is not-a-number just when the lower end of the scale is. -/
theorem isNaN_clamp (low high value : Number) : (clamp low high value).isNaN = low.isNaN := by
  unfold clamp
  dsimp only
  generalize (if value < high then value else high) = bounded
  by_cases less : low < bounded
  · rw [if_pos less]
    have ordered : ¬ (low.isNaN = true ∨ bounded.isNaN = true) := fun lost => not_lt_of_isNaN lost less
    simp only [not_or, Bool.not_eq_true] at ordered
    rw [ordered.1, ordered.2]
  · rw [if_neg less]

end Number

end Workbench
