import Mathlib
import CallContracts.Json.Basic

/-!
# Finite numbers

A finite number is canonical: its significand has all the digits, unless the exponent is the least
one. Canonical numbers are the ones that packing keeps. Finite numbers are equal if they are the
same number or zeros of either sign.
-/

namespace CallContracts.Number

open Float.Model Float.Model.UnpackedFloat

/-! ## Canonical numbers -/

theorem exponentBias_eq : ((Format.binary64.exponentBias : Nat) : Int) = 1023 := by decide

theorem mantissaBits_eq : ((Format.binary64.mantissaBits : Nat) : Int) = 53 := by decide

theorem minExponent_eq : Format.binary64.minExponent = -1074 := by decide

theorem isFinite_unpack_iff (bits : BitVec Format.binary64.numBits) :
    (unpack .binary64 bits).isFinite = true ↔ unpackExponent bits ≠ -1#_ := by
  unfold UnpackedFloat.unpack
  dsimp only
  repeat' split
  all_goals simp_all [UnpackedFloat.isFinite]

/-- A finite number whose significand has all its digits unless the exponent is the least one. -/
def IsCanonical : UnpackedFloat → Prop
  | .notANumber => False
  | .infinity _ => False
  | .zero _ => True
  | .finite _ significand exponent _ =>
    significand < 2 ^ 53 ∧ -1074 ≤ exponent ∧ exponent ≤ 971 ∧
      (2 ^ 52 ≤ significand ∨ exponent = -1074)

theorem toNat_one_append (digits : BitVec 52) : (1#1 ++ digits).toNat = 2 ^ 52 + digits.toNat := by
  rw [BitVec.toNat_append, ← Nat.shiftLeft_add_eq_or_of_lt digits.isLt]
  rfl

theorem isCanonical_unpack {bits : BitVec Format.binary64.numBits}
    (isFinite : (unpack .binary64 bits).isFinite = true) :
    IsCanonical (unpack .binary64 bits) := by
  have notLast := (isFinite_unpack_iff bits).mp isFinite
  have below : (unpackExponent bits).toNat < 2047 := by
    have bounded : (unpackExponent bits).toNat < 2 ^ 11 := (unpackExponent bits).isLt
    have differs : (unpackExponent bits).toNat ≠ 2047 := fun same =>
      notLast (BitVec.eq_of_toNat_eq (by rw [same]; rfl))
    omega
  have short : (unpackMantissa bits).toNat < 2 ^ 52 := (unpackMantissa bits).isLt
  unfold UnpackedFloat.unpack
  dsimp only
  rw [if_neg notLast]
  split
  · rename_i isFirst
    split
    · trivial
    · simp only [IsCanonical, isFirst, exponentBias_eq]
      exact ⟨by omega, by simp, by simp, Or.inr (by simp)⟩
  · rename_i notFirst
    have positive : 0 < (unpackExponent bits).toNat := by
      refine Nat.pos_of_ne_zero fun zero => notFirst ?_
      exact BitVec.eq_of_toNat_eq zero
    have digits := toNat_one_append (unpackMantissa bits)
    simp only [IsCanonical, exponentBias_eq]
    exact ⟨by omega, by omega, by omega, Or.inl (by omega)⟩

/-- The significand of a number with a biased exponent has another digit in front. -/
theorem unpack_of_biased (sign : Sign) (digits : BitVec 52) {biased : Nat} (positive : 0 < biased)
    (small : biased < 2047) :
    unpack .binary64 (packComponents .binary64 sign (BitVec.ofNat 11 biased) digits) =
      .finite sign (2 ^ 52 + digits.toNat) (biased - 1075) (by omega) := by
  have kept : (BitVec.ofNat 11 biased).toNat = biased := by
    rw [BitVec.toNat_ofNat, Nat.mod_eq_of_lt (by omega)]
  have notLast : BitVec.ofNat 11 biased ≠ -1#11 := by
    intro last
    have same := kept.symm.trans (congrArg BitVec.toNat last)
    have last : (-1#11).toNat = 2047 := rfl
    omega
  have notFirst : BitVec.ofNat 11 biased ≠ 0#11 := by
    intro first
    have same := kept.symm.trans (congrArg BitVec.toNat first)
    have first : (0#11).toNat = 0 := rfl
    omega
  unfold UnpackedFloat.unpack
  simp only [unpackExponent_packComponents, unpackMantissa_packComponents,
    unpackSign_packComponents, Sign.ofBitVec_toBitVec, if_neg notLast, if_neg notFirst,
    toNat_one_append, kept, exponentBias_eq]
  rfl

theorem unpack_of_least (sign : Sign) {digits : BitVec 52} (positive : 0 < digits.toNat) :
    unpack .binary64 (packComponents .binary64 sign 0#11 digits) =
      .finite sign digits.toNat (-1074) positive := by
  have nonzero : digits ≠ 0#52 := by
    rintro rfl
    exact absurd positive (by decide)
  have notLast : 0#11 ≠ -1#11 := by decide
  unfold UnpackedFloat.unpack
  simp only [unpackExponent_packComponents, unpackMantissa_packComponents,
    unpackSign_packComponents, Sign.ofBitVec_toBitVec, if_neg notLast, if_true, dif_neg nonzero]
  rfl

theorem unpack_pack {number : UnpackedFloat} (isCanonical : IsCanonical number) :
    unpack .binary64 (number.pack .binary64) = number := by
  cases number with
  | notANumber => cases isCanonical
  | infinity sign => cases isCanonical
  | zero sign => exact unpack_packedZero
  | finite sign significand exponent positive =>
      rcases isCanonical with ⟨short, least, most, normal⟩
      have notLast : ¬2 ^ Format.binary64.exponentBits ≤
          (exponent + 1023 + (52 : Nat)).toNat + 1 := by
        have bits : 2 ^ Format.binary64.exponentBits = 2048 := rfl
        omega
      have kept : (BitVec.ofNat 52 significand).toNat = significand % 2 ^ 52 :=
        BitVec.toNat_ofNat _ _
      rw [UnpackedFloat.pack]
      simp only [exponentBias_eq, if_neg notLast]
      by_cases full : 2 ^ 52 ≤ significand
      · have digits : significand.log2 + 1 = Format.binary64.mantissaBits := by
          rw [(Nat.log2_eq_iff positive.ne').mpr ⟨full, short⟩]
          rfl
        rw [if_pos digits]
        refine (unpack_of_biased sign _ (by omega) (by omega)).trans ?_
        congr 1 <;> omega
      · have digits : significand.log2 + 1 ≠ Format.binary64.mantissaBits := by
          have few := (Nat.log2_lt positive.ne').mpr (Nat.lt_of_not_le full)
          have all : Format.binary64.mantissaBits = 53 := rfl
          omega
        rw [if_neg digits]
        refine (unpack_of_least sign (by omega)).trans ?_
        congr 1 <;> omega

theorem isCanonical_neg {number : UnpackedFloat} (isCanonical : IsCanonical number) :
    IsCanonical number.neg := by
  cases number <;> exact isCanonical

theorem isFinite_of_isCanonical {number : UnpackedFloat} (isCanonical : IsCanonical number) :
    number.isFinite = true := by
  cases number with
  | notANumber => cases isCanonical
  | infinity sign => cases isCanonical
  | _ => rfl

/-- Negation changes the sign and nothing else. -/
theorem unpack_neg {number : Float} (isFinite : number.isFinite = true) :
    (-number).toModel.unpack = number.toModel.unpack.neg := by
  have isCanonical : IsCanonical number.toModel.unpack := isCanonical_unpack isFinite
  exact unpack_pack (isCanonical_neg isCanonical)

theorem isFinite_neg {number : Float} (isFinite : number.isFinite = true) :
    (-number).isFinite = true := by
  have isCanonical : IsCanonical number.toModel.unpack := isCanonical_unpack isFinite
  have negated := isFinite_of_isCanonical (isCanonical_neg isCanonical)
  rwa [← unpack_neg isFinite] at negated

/-! ## Equality of finite numbers -/

/-- Zero of either sign. -/
def IsZero (number : Float) : Prop :=
  number = 0 ∨ number = -0

theorem ne_nan_of_isFinite {number : Float} (isFinite : number.isFinite = true) :
    number ≠ .nan := by
  rintro rfl
  cases isFinite

theorem beq_iff_of_isFinite {left right : Float} (isFinite : left.isFinite = true) :
    (left == right) = true ↔ left = right ∨ IsZero left ∧ IsZero right := by
  have isNumber := ne_nan_of_isFinite isFinite
  rw [Float.beq_iff_ne_nan_and_eq]
  constructor
  · rintro ⟨-, -, same | ⟨left, right⟩ | ⟨left, right⟩⟩
    · exact Or.inl same
    · exact Or.inr ⟨Or.inl left, Or.inr right⟩
    · exact Or.inr ⟨Or.inr left, Or.inl right⟩
  · rintro (rfl | ⟨rfl | rfl, rfl | rfl⟩)
    · exact ⟨isNumber, isNumber, Or.inl rfl⟩
    all_goals decide

end CallContracts.Number
