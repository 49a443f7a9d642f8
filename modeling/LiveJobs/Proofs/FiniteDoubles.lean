import LiveJobs.Json.Basic
import Mathlib

/-!
# Finite doubles

A double is finite unless its exponent has all bits set, which is what an exponent above 971 is
packed into. A whole number of 64 bits comes nowhere near that: its exponent is at most 52 before it
is rounded, and rounding adds little. So every number that is read from a value is finite.
-/

namespace LiveJobs.Json

open Float.Model (Format UnpackedFloat totalExponent)
open Float.Model.UnpackedFloat

/-- Whether a double in its parts is finite and its exponent is not too large to be packed. -/
def IsPackable : UnpackedFloat → Prop
  | .infinity _ => False
  | .notANumber => False
  | .zero _ => True
  | .finite _ _ exponent _ => exponent ≤ 971

/-! ## Packing -/

theorem isFinite_unpack {bits : BitVec Format.binary64.numBits}
    (ordinary : unpackExponent bits ≠ (-1#_)) : (unpack Format.binary64 bits).isFinite = true := by
  rw [unpack]
  simp only [ordinary, if_false]
  split
  · split
    · rfl
    · rfl
  · rfl

theorem isFinite_unpack_pack {value : UnpackedFloat} (packable : IsPackable value) :
    (unpack Format.binary64 (pack Format.binary64 value)).isFinite = true := by
  apply isFinite_unpack
  cases value with
  | infinity sign => cases packable
  | notANumber => cases packable
  | zero sign =>
      rw [pack, packedZero, unpackExponent_packComponents]
      decide
  | finite sign mantissa exponent positive =>
      have small : exponent ≤ 971 := packable
      have bias : Format.binary64.exponentBias = 1023 := rfl
      rw [pack]
      dsimp only
      rw [if_neg (by rw [bias]; omega)]
      split
      · rw [unpackExponent_packComponents]
        intro same
        have biased := congrArg BitVec.toNat same
        rw [bias] at biased
        simp at biased
        omega
      · rw [unpackExponent_packComponents]
        decide

theorem isPackable_unpack {bits : BitVec Format.binary64.numBits}
    (finite : (unpack Format.binary64 bits).isFinite = true) :
    IsPackable (unpack Format.binary64 bits) := by
  have bias : Format.binary64.exponentBias = 1023 := rfl
  have short := (unpackExponent bits).isLt
  rw [unpack] at finite ⊢
  dsimp only at finite short ⊢
  split
  · rename_i special
    rw [if_pos special] at finite
    split at finite
    · cases finite
    · cases finite
  · split
    · split
      · trivial
      · rename_i zero _
        rw [zero, IsPackable, bias]
        decide
    · rename_i ordinary _
      have small : (unpackExponent bits).toNat ≠ 2047 :=
        fun same => ordinary (BitVec.eq_of_toNat_eq same)
      rw [IsPackable, bias]
      omega

theorem isPackable_neg {value : UnpackedFloat} (packable : IsPackable value) :
    IsPackable value.neg := by
  cases value with
  | infinity sign => cases packable
  | notANumber => cases packable
  | zero sign => exact packable
  | finite sign mantissa exponent positive => exact packable

/-! ## Rounding -/

theorem mantissa_shiftRight_le (extended : ExtendedMantissa) (amount : Nat) :
    (extended >>> amount).mantissa ≤ extended.mantissa := by
  show (amount.repeat ExtendedMantissa.shiftRightOne extended).mantissa ≤ extended.mantissa
  induction amount with
  | zero => exact Nat.le_refl _
  | succ amount ih => exact Nat.le_trans (Nat.div_le_self _ 2) ih

theorem roundToNearestEven_le (mantissa : Nat) (accuracy : Accuracy) :
    accuracy.roundToNearestEven mantissa ≤ mantissa + 1 := by
  cases accuracy with
  | exact => exact Nat.le_succ _
  | inexact half =>
      cases half with
      | lt => exact Nat.le_succ _
      | eq =>
          have odd := Nat.mod_lt mantissa (show 2 > 0 by decide)
          rw [Accuracy.roundToNearestEven]
          omega
      | gt => exact Nat.le_refl _

theorem mantissa_shiftToTargetExponent_le (mantissa : Nat) (exponent : Int) (accuracy : Accuracy) :
    (shiftToTargetExponent Format.binary64 mantissa exponent accuracy).1.mantissa ≤ mantissa := by
  rw [shiftToTargetExponent, shiftToExponent]
  refine Nat.le_trans (mantissa_shiftRight_le _ _) ?_
  cases accuracy with
  | exact => exact Nat.le_refl _
  | inexact half => cases half <;> exact Nat.le_refl _

theorem exponent_shiftToTargetExponent (mantissa : Nat) (exponent : Int) (accuracy : Accuracy) :
    (shiftToTargetExponent Format.binary64 mantissa exponent accuracy).2 =
      max exponent (max (mantissa.log2 + exponent - 52) (-1074)) := by
  have target : Format.binary64.targetExponent (totalExponent mantissa exponent) =
      max (mantissa.log2 + exponent - 52) (-1074) := by
    have bits : Format.binary64.mantissaBits = 53 := rfl
    have least : Format.binary64.minExponent = -1074 := rfl
    rw [Format.targetExponent, totalExponent, bits, least]
    omega
  rw [shiftToTargetExponent, shiftToExponent]
  dsimp only
  rw [target]
  omega

theorem log2_le_of_lt {value bits : Nat} (short : value < 2 ^ (bits + 1)) : value.log2 ≤ bits := by
  by_cases zero : value = 0
  · rw [zero]
    exact Nat.zero_le bits
  · exact Nat.le_of_lt_succ ((Nat.log2_lt zero).2 short)

/-- The mantissa is shifted twice, since rounding can add a bit. The bound is a generous one. -/
theorem isPackable_roundWithAccuracy {mantissa : Nat} {exponent : Int} (sign : Sign)
    (accuracy : Accuracy) (short : mantissa < 2 ^ 200) (low : exponent ≤ 0) :
    IsPackable (roundWithAccuracy Format.binary64 sign mantissa exponent accuracy) := by
  rw [roundWithAccuracy]
  dsimp only
  split
  · trivial
  · rw [IsPackable, exponent_shiftToTargetExponent, exponent_shiftToTargetExponent]
    have kept := mantissa_shiftToTargetExponent_le mantissa exponent accuracy
    have rounded : (shiftToTargetExponent Format.binary64 mantissa exponent
        accuracy).1.roundedMantissa ≤ mantissa + 1 :=
      Nat.le_trans (roundToNearestEven_le _ _) (Nat.succ_le_succ kept)
    have before : mantissa.log2 ≤ 200 := log2_le_of_lt (by omega)
    have after : (shiftToTargetExponent Format.binary64 mantissa exponent
        accuracy).1.roundedMantissa.log2 ≤ 200 := log2_le_of_lt (by omega)
    omega

theorem isPackable_round {mantissa : Nat} (sign : Sign) (short : mantissa < 2 ^ 64) :
    IsPackable (UnpackedFloat.round Format.binary64 sign mantissa 0) := by
  have target : -52 ≤ Format.binary64.targetExponent (totalExponent mantissa 0) := by
    have bits : Format.binary64.mantissaBits = 53 := rfl
    rw [Format.targetExponent, totalExponent, bits]
    omega
  rw [UnpackedFloat.round]
  dsimp only [decreaseExponent]
  apply isPackable_roundWithAccuracy
  · have shift : (0 - Format.binary64.targetExponent (totalExponent mantissa 0)).toNat ≤ 52 := by
      omega
    calc
      _ = mantissa * 2 ^ (0 - Format.binary64.targetExponent (totalExponent mantissa 0)).toNat :=
        Nat.shiftLeft_eq _ _
      _ < 2 ^ 64 * 2 ^ 52 :=
        Nat.mul_lt_mul_of_lt_of_le short (Nat.pow_le_pow_right (by decide) shift) (by decide)
      _ ≤ 2 ^ 200 := by decide
  · omega

/-! ## Numbers -/

theorem isFinite_toFloat (value : UInt64) : value.toFloat.isFinite = true := by
  show (unpack Format.binary64 (pack Format.binary64
    (UnpackedFloat.ofNat Format.binary64 value.toNat))).isFinite = true
  have short := value.toNat_lt
  apply isFinite_unpack_pack
  rw [UnpackedFloat.ofNat, UnpackedFloat.ofInt, UnpackedFloat.normalize]
  split
  · exact isPackable_round _ (by omega)
  · trivial
  · exact isPackable_round _ (by omega)

theorem isFinite_neg {value : Float} (finite : value.isFinite = true) :
    (-value).isFinite = true := by
  show (unpack Format.binary64 (pack Format.binary64
    (unpack Format.binary64 value.toModel.toBits.toBitVec).neg)).isFinite = true
  exact isFinite_unpack_pack (isPackable_neg (isPackable_unpack finite))

/-- Every number that is read is finite. -/
theorem isFinite_of_float? {value : Json} {number : Float} (read : value.float? = some number) :
    number.isFinite = true := by
  cases value with
  | int whole =>
      rw [float?] at read
      split at read
      · cases read
        exact isFinite_toFloat _
      · cases read
        exact isFinite_neg (isFinite_toFloat _)
  | float double =>
      rw [float?, Option.ite_none_right_eq_some] at read
      cases read.2
      exact read.1
  | null => cases read
  | bool truth => cases read
  | str text => cases read
  | arr items => cases read
  | obj members => cases read

end LiveJobs.Json
