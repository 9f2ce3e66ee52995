import Workbench.Proofs.Decimal.Rounding

namespace Workbench

open Float.Model (Format UnpackedFloat)

namespace UnpackedFloat

/-- A number that can be stored is read back as it was stored. -/
theorem unpack_pack_finite {mantissa : ℕ} {exponent : ℤ} (canonical : Canonical mantissa exponent)
    (fits : exponent ≤ 971) (sign : UnpackedFloat.Sign) :
    UnpackedFloat.unpack .binary64 (UnpackedFloat.pack .binary64 (.finite sign mantissa exponent canonical.positive)) =
      .finite sign mantissa exponent canonical.positive := by
  have bounded := canonical.bounded
  have short := canonical.short
  have bias : (Format.binary64.exponentBias : ℤ) = 1023 := rfl
  have bits : (Format.binary64.mantissaBitsWithoutImplicit : ℤ) = 52 := rfl
  have width : Format.binary64.mantissaBits = 53 := rfl
  have biased : exponent + Format.binary64.exponentBias + Format.binary64.mantissaBitsWithoutImplicit =
      exponent + 1075 := by omega
  have room : ¬ 2 ^ Format.binary64.exponentBits ≤ (exponent + 1075).toNat + 1 := by
    have : (2 ^ Format.binary64.exponentBits : ℕ) = 2048 := rfl
    omega
  simp only [UnpackedFloat.pack, biased, if_neg room]
  by_cases normal : mantissa < 2 ^ 52
  · have least := canonical.normal normal
    have log : ¬ mantissa.log2 + 1 = Format.binary64.mantissaBits := by
      have := (Nat.log2_lt canonical.positive.ne').mpr normal
      omega
    have kept : (BitVec.ofNat Format.binary64.mantissaBitsWithoutImplicit mantissa).toNat = mantissa :=
      Nat.mod_eq_of_lt normal
    have some : BitVec.ofNat Format.binary64.mantissaBitsWithoutImplicit mantissa ≠ 0#_ := by
      intro zero
      rw [zero] at kept
      exact canonical.positive.ne kept
    have low : (0#_ : BitVec Format.binary64.exponentBits) ≠ -1#_ := by decide
    simp only [if_neg log, UnpackedFloat.unpack, UnpackedFloat.unpackExponent_packComponents,
      UnpackedFloat.unpackMantissa_packComponents, UnpackedFloat.unpackSign_packComponents,
      UnpackedFloat.Sign.ofBitVec_toBitVec, if_neg low, if_true, dif_neg some, kept]
    congr 1
    have none : ((0#11).toNat : ℤ) = 0 := rfl
    omega
  · have log : mantissa.log2 + 1 = Format.binary64.mantissaBits := by
      have := (Nat.log2_lt canonical.positive.ne').mpr short
      have := (Nat.le_log2 canonical.positive.ne').mpr (Nat.not_lt.mp normal)
      omega
    have small : (exponent + 1075).toNat < 2047 := by omega
    have kept : (BitVec.ofNat Format.binary64.exponentBits (exponent + 1075).toNat).toNat = (exponent + 1075).toNat :=
      Nat.mod_eq_of_lt (by have : (2 ^ Format.binary64.exponentBits : ℕ) = 2048 := rfl; omega)
    have finite : BitVec.ofNat Format.binary64.exponentBits (exponent + 1075).toNat ≠ -1#_ := by
      intro full
      have filled : ((-1#_ : BitVec Format.binary64.exponentBits).toNat : ℕ) = 2047 := by decide
      rw [full, filled] at kept
      omega
    have some : BitVec.ofNat Format.binary64.exponentBits (exponent + 1075).toNat ≠ 0#_ := by
      intro zero
      have none : ((0#_ : BitVec Format.binary64.exponentBits).toNat : ℕ) = 0 := rfl
      rw [zero, none] at kept
      omega
    have whole : (1#1 ++ BitVec.ofNat Format.binary64.mantissaBitsWithoutImplicit mantissa).toNat = mantissa := by
      rw [BitVec.toNat_append, ← Nat.shiftLeft_add_eq_or_of_lt (BitVec.isLt _), Nat.shiftLeft_eq]
      change 1 * 2 ^ 52 + mantissa % 2 ^ 52 = mantissa
      omega
    simp only [if_pos log, UnpackedFloat.unpack, UnpackedFloat.unpackExponent_packComponents,
      UnpackedFloat.unpackMantissa_packComponents, UnpackedFloat.unpackSign_packComponents,
      UnpackedFloat.Sign.ofBitVec_toBitVec, if_neg finite, if_neg some, kept, whole]
    congr 1
    omega

end UnpackedFloat

namespace Decimal.Binary

/-- The sign of a number in the terms of its storage. -/
def signOf (negative : Bool) : UnpackedFloat.Sign :=
  if negative then .negative else .positive

variable (vec : BitVec Format.binary64.numBits)

theorem toNat_unpackExponent : (UnpackedFloat.unpackExponent vec).toNat = vec.toNat / Nat.pow 2 52 % 2048 := by
  rw [UnpackedFloat.unpackExponent_def, BitVec.extractLsb'_toNat, Nat.shiftRight_eq_div_pow]
  rfl

theorem unpackExponent_eq_full_iff :
    UnpackedFloat.unpackExponent vec = -1#_ ↔ vec.toNat / Nat.pow 2 52 % 2048 = 2047 := by
  rw [← toNat_unpackExponent, ← BitVec.toNat_inj]
  rfl

theorem unpackExponent_eq_zero_iff :
    UnpackedFloat.unpackExponent vec = 0#_ ↔ vec.toNat / Nat.pow 2 52 % 2048 = 0 := by
  rw [← toNat_unpackExponent, ← BitVec.toNat_inj]
  rfl

theorem toNat_unpackMantissa : (UnpackedFloat.unpackMantissa vec).toNat = vec.toNat % Nat.pow 2 52 := by
  rw [UnpackedFloat.unpackMantissa_def, BitVec.extractLsb'_toNat, Nat.shiftRight_zero]
  rfl

theorem unpackMantissa_eq_zero_iff :
    UnpackedFloat.unpackMantissa vec = 0#_ ↔ vec.toNat % Nat.pow 2 52 = 0 := by
  rw [← toNat_unpackMantissa, ← BitVec.toNat_inj]
  rfl

theorem sign_unpackSign :
    UnpackedFloat.Sign.ofBitVec (UnpackedFloat.unpackSign vec) = signOf (vec.toNat / Nat.pow 2 63 % 2 == 1) := by
  have bit : (UnpackedFloat.unpackSign vec).toNat = vec.toNat / Nat.pow 2 63 % 2 := by
    rw [UnpackedFloat.unpackSign_def, BitVec.extractLsb'_toNat, Nat.shiftRight_eq_div_pow]
    rfl
  have zero : UnpackedFloat.unpackSign vec = 0#1 ↔ vec.toNat / Nat.pow 2 63 % 2 = 0 := by
    rw [← bit, ← BitVec.toNat_inj]
    rfl
  rcases Nat.mod_two_eq_zero_or_one (vec.toNat / Nat.pow 2 63) with clear | set
  · rw [UnpackedFloat.Sign.ofBitVec, if_pos (zero.mpr clear), clear]
    rfl
  · have some : UnpackedFloat.unpackSign vec ≠ 0#1 := fun none => by
      rw [zero.mp none] at set
      cases set
    rw [UnpackedFloat.Sign.ofBitVec, if_neg some, set]
    rfl

/-- Three cases of storage: what is not finite, the numbers below all others, and the rest. -/
theorem unpack_of_ofBits {negative : Bool} {mantissa : ℕ} {exponent : ℤ}
    (parts : ofBits vec.toNat = .finite negative mantissa exponent) :
    mantissa = 0 ∧ UnpackedFloat.unpack .binary64 vec = .zero (signOf negative) ∨
      ∃ canonical : UnpackedFloat.Canonical mantissa exponent, exponent ≤ 971 ∧
        UnpackedFloat.unpack .binary64 vec = .finite (signOf negative) mantissa exponent canonical.positive := by
  have power := toNat_unpackExponent vec
  have fraction := toNat_unpackMantissa vec
  have sign := sign_unpackSign vec
  have size : (2 : ℕ).pow 52 = 4503599627370496 := by decide
  have full := unpackExponent_eq_full_iff vec
  have none := unpackExponent_eq_zero_iff vec
  have empty := unpackMantissa_eq_zero_iff vec
  have bias : (Format.binary64.exponentBias : ℤ) = 1023 := rfl
  have bits : (Format.binary64.mantissaBitsWithoutImplicit : ℤ) = 52 := rfl
  unfold UnpackedFloat.unpack
  unfold ofBits at parts
  dsimp only at parts ⊢
  by_cases infinite : vec.toNat / Nat.pow 2 52 % 2048 = 2047
  · rw [if_pos infinite] at parts
    split at parts <;> cases parts
  · rw [if_neg infinite] at parts
    rw [if_neg (full.not.mpr infinite)]
    by_cases least : vec.toNat / Nat.pow 2 52 % 2048 = 0
    · rw [if_pos least] at parts
      cases parts
      rw [if_pos (none.mpr least), sign]
      by_cases zero : vec.toNat % Nat.pow 2 52 = 0
      · exact Or.inl ⟨zero, dif_pos (empty.mpr zero)⟩
      · have small : vec.toNat % Nat.pow 2 52 < Nat.pow 2 52 := Nat.mod_lt _ (by rw [size]; decide)
        refine Or.inr ⟨⟨Nat.pos_of_ne_zero zero, ?_, le_rfl, fun _ => rfl⟩, by decide, ?_⟩
        · rw [size] at small ⊢
          omega
        · rw [dif_neg (empty.not.mpr zero)]
          congr 1
          rw [power, least]
          omega
    · rw [if_neg least] at parts
      cases parts
      rw [if_neg (none.not.mpr least), sign]
      have small : vec.toNat % Nat.pow 2 52 < Nat.pow 2 52 := Nat.mod_lt _ (by rw [size]; decide)
      have most : vec.toNat / Nat.pow 2 52 % 2048 < 2048 := Nat.mod_lt _ (by decide)
      have mantissa : (1#1 ++ UnpackedFloat.unpackMantissa vec).toNat = vec.toNat % Nat.pow 2 52 + Nat.pow 2 52 := by
        rw [BitVec.toNat_append, ← Nat.shiftLeft_add_eq_or_of_lt (BitVec.isLt _), Nat.shiftLeft_eq, fraction]
        have one : (1#1).toNat * 2 ^ Format.binary64.mantissaBitsWithoutImplicit = Nat.pow 2 52 := rfl
        rw [one, Nat.add_comm]
      refine Or.inr ⟨⟨?_, ?_, ?_, ?_⟩, ?_, ?_⟩
      · omega
      · rw [size] at small ⊢
        omega
      · omega
      · rw [size]
        omega
      · omega
      · simp only [mantissa]
        congr 1
        rw [power]
        omega

/-- The parts of a number are those under which it is stored. -/
theorem unpack_of_ofFloat {x : Float} {negative : Bool} {mantissa : ℕ} {exponent : ℤ}
    (parts : ofFloat x = .finite negative mantissa exponent) :
    mantissa = 0 ∧ x.toModel.unpack = .zero (signOf negative) ∨
      ∃ canonical : UnpackedFloat.Canonical mantissa exponent, exponent ≤ 971 ∧
        x.toModel.unpack = .finite (signOf negative) mantissa exponent canonical.positive :=
  unpack_of_ofBits x.toModel.toBits.toBitVec parts

/-- A finite number has a mantissa and an exponent. -/
theorem exists_ofFloat {x : Float} (finite : x.isFinite = true) :
    ∃ negative mantissa exponent, ofFloat x = .finite negative mantissa exponent := by
  let vec : BitVec Format.binary64.numBits := x.toModel.toBits.toBitVec
  have unpacked : (UnpackedFloat.unpack .binary64 vec).isFinite = true := finite
  change ∃ negative mantissa exponent, ofBits vec.toNat = .finite negative mantissa exponent
  unfold ofBits
  dsimp only
  by_cases infinite : vec.toNat / Nat.pow 2 52 % 2048 = 2047
  · have full := (unpackExponent_eq_full_iff vec).mpr infinite
    unfold UnpackedFloat.unpack at unpacked
    dsimp only at unpacked
    rw [if_pos full] at unpacked
    split at unpacked <;> cases unpacked
  · rw [if_neg infinite]
    split <;> exact ⟨_, _, _, rfl⟩

end Decimal.Binary

end Workbench
