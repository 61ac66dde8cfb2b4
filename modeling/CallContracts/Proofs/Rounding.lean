import CallContracts.Proofs.Doubles
import CallContracts.Proofs.Numbers

/-!
# Rounded whole numbers

Finite floating-point numbers stand for doubles, and they are equal if they stand for the same one.
Whole numbers of 64 bits become the doubles that they are rounded to: shifting keeps track of where
the number lies behind the last digit, which decides how the digits are rounded.
-/

namespace CallContracts.Number

open Float.Model Float.Model.UnpackedFloat

/-! ## Finite numbers as doubles -/

/-- The rational number that a finite number stands for. -/
def unpackedValue : UnpackedFloat → ℚ
  | .finite sign significand exponent _ => sign.apply significand * 2 ^ exponent
  | _ => 0

@[inherit_doc unpackedValue]
def value (number : Float) : ℚ :=
  unpackedValue number.toModel.unpack

theorem unpackedValue_neg (number : UnpackedFloat) :
    unpackedValue number.neg = -unpackedValue number := by
  cases number with
  | finite sign significand exponent positive =>
      have opposite : ((-sign).apply significand : ℤ) = -sign.apply significand := by
        cases sign
        · exact (neg_neg _).symm
        · rfl
      simp only [UnpackedFloat.neg, unpackedValue, opposite]
      push_cast
      ring
  | _ => simp [UnpackedFloat.neg, unpackedValue]

theorem value_neg {number : Float} (isFinite : number.isFinite = true) :
    value (-number) = -value number := by
  rw [value, unpack_neg isFinite, unpackedValue_neg, value]

theorem abs_apply (sign : Sign) (significand : Nat) : |sign.apply significand| = significand := by
  cases sign <;> simp [Sign.apply]

theorem isDouble_unpackedValue {number : UnpackedFloat} (isCanonical : IsCanonical number) :
    IsDouble (unpackedValue number) := by
  cases number with
  | finite sign significand exponent positive =>
      rcases isCanonical with ⟨short, least, most, -⟩
      refine ⟨sign.apply significand, exponent, ⟨?_, least, most, rfl⟩⟩
      rw [abs_apply]
      exact_mod_cast short
  | _ => exact ⟨0, 0, ⟨by decide, by decide, by decide, by simp [unpackedValue]⟩⟩

theorem mul_two_zpow_pos {significand : Nat} (positive : 0 < significand) (exponent : ℤ) :
    (0 : ℚ) < significand * 2 ^ exponent :=
  mul_pos (Nat.cast_pos.mpr positive) (two_zpow_pos exponent)

theorem unpackedValue_zero (sign : Sign) : unpackedValue (.zero sign) = 0 := rfl

theorem unpackedValue_ne_zero (sign : Sign) {significand : Nat} (positive : 0 < significand)
    (exponent : ℤ) : unpackedValue (.finite sign significand exponent positive) ≠ 0 := by
  cases sign <;> simp [unpackedValue, Sign.apply, positive.ne', (two_zpow_pos exponent).ne']

/-- A larger exponent would take more digits than there are. -/
theorem exponent_le_of_eq {left right : Nat} {low high : ℤ} (short : left < 2 ^ 53)
    (normal : 2 ^ 52 ≤ right ∨ high = -1074) (least : -1074 ≤ low)
    (same : (left : ℚ) * 2 ^ low = right * 2 ^ high) : high ≤ low := by
  by_contra above
  rw [not_le] at above
  have full : (2 : ℚ) ^ 52 ≤ right := by exact_mod_cast normal.resolve_right (by omega)
  have few : (left : ℚ) < 2 ^ 53 := by exact_mod_cast short
  have less : (left : ℚ) * 2 ^ low < right * 2 ^ high :=
    calc (left : ℚ) * 2 ^ low < 2 ^ 52 * 2 ^ high := mul_zpow_lt_of_lt few above
      _ ≤ right * 2 ^ high := mul_le_mul_of_nonneg_right full (two_zpow_pos high).le
  exact absurd same less.ne

theorem eq_of_unpackedValue_eq {sign otherSign : Sign} {left right : Nat} {low high : ℤ}
    {leftPositive : 0 < left} {rightPositive : 0 < right}
    (leftCanonical : IsCanonical (.finite sign left low leftPositive))
    (rightCanonical : IsCanonical (.finite otherSign right high rightPositive))
    (same : unpackedValue (.finite sign left low leftPositive) =
      unpackedValue (.finite otherSign right high rightPositive)) :
    UnpackedFloat.finite sign left low leftPositive =
      .finite otherSign right high rightPositive := by
  rcases leftCanonical with ⟨leftShort, leftLeast, -, leftNormal⟩
  rcases rightCanonical with ⟨rightShort, rightLeast, -, rightNormal⟩
  have leftAbove := mul_two_zpow_pos leftPositive low
  have rightAbove := mul_two_zpow_pos rightPositive high
  have alike : sign = otherSign ∧ (left : ℚ) * 2 ^ low = right * 2 ^ high := by
    cases sign <;> cases otherSign <;> simp [unpackedValue, Sign.apply] at same ⊢
    all_goals linarith
  have exponents : low = high :=
    le_antisymm (exponent_le_of_eq rightShort leftNormal rightLeast alike.2.symm)
      (exponent_le_of_eq leftShort rightNormal leftLeast alike.2)
  rcases alike with ⟨rfl, magnitudes⟩
  subst exponents
  have significands : left = right := by
    exact_mod_cast mul_right_cancel₀ (two_zpow_pos low).ne' magnitudes
  subst significands
  rfl

theorem beq_iff_unpackedValue_eq {left right : UnpackedFloat} (leftCanonical : IsCanonical left)
    (rightCanonical : IsCanonical right) :
    left.beq right = true ↔ unpackedValue left = unpackedValue right := by
  rw [beq_iff_ne_notANumber_and_eq]
  cases left with
  | notANumber => cases leftCanonical
  | infinity sign => cases leftCanonical
  | zero sign =>
      cases right with
      | notANumber => cases rightCanonical
      | infinity sign => cases rightCanonical
      | zero otherSign => cases sign <;> cases otherSign <;> simp [unpackedValue]
      | finite otherSign right high rightPositive =>
          have differs := unpackedValue_ne_zero otherSign rightPositive high
          simp [differs.symm, unpackedValue_zero]
  | finite sign left low leftPositive =>
      cases right with
      | notANumber => cases rightCanonical
      | infinity sign => cases rightCanonical
      | zero otherSign =>
          have differs := unpackedValue_ne_zero sign leftPositive low
          simp [differs, unpackedValue_zero]
      | finite otherSign right high rightPositive =>
          constructor
          · rintro ⟨-, -, same | ⟨isZero, -⟩ | ⟨isZero, -⟩⟩
            · rw [same]
            · cases isZero
            · cases isZero
          · intro same
            have equal := eq_of_unpackedValue_eq leftCanonical rightCanonical same
            exact ⟨nofun, nofun, Or.inl equal⟩

/-- Finite numbers are equal if they stand for the same rational number. -/
theorem beq_iff_value_eq {left right : Float} (leftFinite : left.isFinite = true)
    (rightFinite : right.isFinite = true) :
    (left == right) = true ↔ value left = value right :=
  beq_iff_unpackedValue_eq (isCanonical_unpack leftFinite) (isCanonical_unpack rightFinite)

/-! ## Whole numbers of 64 bits -/

/-- Where a number lies, by the mantissa and the two bits behind it. -/
inductive LiesAt : ExtendedMantissa → ℚ → Prop where
  | exact (mantissa : Nat) : LiesAt ⟨mantissa, false, false⟩ mantissa
  | low {mantissa : Nat} {number : ℚ} (above : mantissa < number)
      (below : number < mantissa + 1 / 2) : LiesAt ⟨mantissa, false, true⟩ number
  | half (mantissa : Nat) : LiesAt ⟨mantissa, true, false⟩ (mantissa + 1 / 2)
  | high {mantissa : Nat} {number : ℚ} (above : mantissa + 1 / 2 < number)
      (below : number < mantissa + 1) : LiesAt ⟨mantissa, true, true⟩ number

theorem shiftRightOne_even (half : Nat) (roundBit stickyBit : Bool) :
    ExtendedMantissa.shiftRightOne ⟨2 * half, roundBit, stickyBit⟩ =
      ⟨half, false, roundBit || stickyBit⟩ := by
  simp [ExtendedMantissa.shiftRightOne]

theorem shiftRightOne_odd (half : Nat) (roundBit stickyBit : Bool) :
    ExtendedMantissa.shiftRightOne ⟨2 * half + 1, roundBit, stickyBit⟩ =
      ⟨half, true, roundBit || stickyBit⟩ := by
  have halved : (2 * half + 1) / 2 = half := by omega
  simp [ExtendedMantissa.shiftRightOne, halved]

namespace LiesAt

variable {extended : ExtendedMantissa} {number : ℚ}

theorem shiftRightOne (liesAt : LiesAt extended number) :
    LiesAt extended.shiftRightOne (number / 2) := by
  cases liesAt with
  | exact mantissa =>
      rcases Nat.even_or_odd' mantissa with ⟨half, rfl | rfl⟩
      · have halved : ((2 * half : Nat) : ℚ) / 2 = half := by push_cast; ring
        rw [shiftRightOne_even, halved]
        exact .exact half
      · have halved : ((2 * half + 1 : Nat) : ℚ) / 2 = half + 1 / 2 := by push_cast; ring
        rw [shiftRightOne_odd, halved]
        exact .half half
  | @low mantissa _ above below =>
      rcases Nat.even_or_odd' mantissa with ⟨half, rfl | rfl⟩ <;> push_cast at above below
      · rw [shiftRightOne_even]
        exact .low (by linarith) (by linarith)
      · rw [shiftRightOne_odd]
        exact .high (by linarith) (by linarith)
  | half mantissa =>
      rcases Nat.even_or_odd' mantissa with ⟨half, rfl | rfl⟩
      · rw [shiftRightOne_even]
        exact .low (by push_cast; linarith) (by push_cast; linarith)
      · rw [shiftRightOne_odd]
        exact .high (by push_cast; linarith) (by push_cast; linarith)
  | @high mantissa _ above below =>
      rcases Nat.even_or_odd' mantissa with ⟨half, rfl | rfl⟩ <;> push_cast at above below
      · rw [shiftRightOne_even]
        exact .low (by linarith) (by linarith)
      · rw [shiftRightOne_odd]
        exact .high (by linarith) (by linarith)

theorem shiftRight (liesAt : LiesAt extended number) (places : Nat) :
    LiesAt (extended >>> places) (number / 2 ^ places) := by
  induction places with
  | zero => rwa [pow_zero, div_one]
  | succ places ih =>
      rw [pow_succ, ← div_div]
      exact ih.shiftRightOne

/-- Rounding goes to a nearest whole number, and halfway to the even one. -/
theorem roundedMantissa (liesAt : LiesAt extended number) :
    |(extended.roundedMantissa : ℚ) - number| ≤ 1 / 2 ∧
      (|(extended.roundedMantissa : ℚ) - number| = 1 / 2 → Even extended.roundedMantissa) := by
  cases liesAt with
  | exact mantissa =>
      have rounded : ExtendedMantissa.roundedMantissa ⟨mantissa, false, false⟩ = mantissa := rfl
      rw [rounded, sub_self, abs_zero]
      exact ⟨by norm_num, fun halfway => absurd halfway (by norm_num)⟩
  | @low mantissa _ above below =>
      have rounded : ExtendedMantissa.roundedMantissa ⟨mantissa, false, true⟩ = mantissa := rfl
      have near : |(mantissa : ℚ) - number| < 1 / 2 :=
        abs_lt.mpr ⟨by linarith, by linarith⟩
      rw [rounded]
      exact ⟨near.le, fun halfway => absurd halfway near.ne⟩
  | half mantissa =>
      have rounded : ExtendedMantissa.roundedMantissa ⟨mantissa, true, false⟩ =
        mantissa + mantissa % 2 := rfl
      have even : Even (mantissa + mantissa % 2) := by
        rw [Nat.even_iff]
        omega
      rw [rounded]
      refine ⟨?_, fun _ => even⟩
      rcases Nat.mod_two_eq_zero_or_one mantissa with remainder | remainder <;>
        rw [remainder, abs_le] <;> push_cast <;> constructor <;> linarith
  | @high mantissa _ above below =>
      have rounded : ExtendedMantissa.roundedMantissa ⟨mantissa, true, true⟩ = mantissa + 1 := rfl
      have near : |((mantissa + 1 : Nat) : ℚ) - number| < 1 / 2 := by
        push_cast
        exact abs_lt.mpr ⟨by linarith, by linarith⟩
      rw [rounded]
      exact ⟨near.le, fun halfway => absurd halfway near.ne⟩

end LiesAt

/-- Digits behind the first 53 are shifted out. -/
theorem shiftToTargetExponent_eq {mantissa places : Nat} {exponent : ℤ}
    (digits : mantissa.log2 = 52 + places) (least : -1074 ≤ exponent) :
    shiftToTargetExponent .binary64 mantissa exponent .exact =
      ((⟨mantissa, false, false⟩ : ExtendedMantissa) >>> places, exponent + places) := by
  have target : Format.binary64.targetExponent (totalExponent mantissa exponent) =
      exponent + places := by
    simp only [Format.targetExponent, totalExponent, mantissaBits_eq, minExponent_eq]
    omega
  rw [shiftToTargetExponent, target, shiftToExponent, add_sub_cancel_left]
  rfl

theorem roundWithAccuracy_eq {mantissa significand : Nat} {exponent first own : ℤ}
    {extended settled : ExtendedMantissa} (positive : 0 < significand)
    (shifted : shiftToTargetExponent .binary64 mantissa exponent .exact = (extended, first))
    (adjusted : shiftToTargetExponent .binary64 extended.roundedMantissa first .exact =
      (settled, own)) (kept : settled.mantissa = significand) :
    roundWithAccuracy .binary64 .positive mantissa exponent .exact =
      .finite .positive significand own positive := by
  subst kept
  unfold roundWithAccuracy
  simp only [shifted, adjusted, dif_neg positive.ne']

/-- A canonical number that stands for what the rational number is rounded to. -/
def IsRounded (number : ℚ) (rounded : UnpackedFloat) : Prop :=
  IsCanonical rounded ∧ RoundsTo number (unpackedValue rounded)

section Shifted

variable {mantissa : Nat} {exponent first : ℤ} {extended : ExtendedMantissa}

/-- The rounded digits are kept, and a digit too many goes to the exponent. -/
theorem isCanonical_roundWithAccuracy
    (shifted : shiftToTargetExponent .binary64 mantissa exponent .exact = (extended, first))
    (least : -1074 ≤ first) (most : first ≤ 970) (large : 2 ^ 52 ≤ extended.roundedMantissa)
    (small : extended.roundedMantissa ≤ 2 ^ 53) :
    IsCanonical (roundWithAccuracy .binary64 .positive mantissa exponent .exact) ∧
      unpackedValue (roundWithAccuracy .binary64 .positive mantissa exponent .exact) =
        extended.roundedMantissa * 2 ^ first := by
  rcases lt_or_eq_of_le small with less | carried
  · have digits : extended.roundedMantissa.log2 = 52 + 0 :=
      (Nat.log2_eq_iff (by omega)).mpr ⟨large, less⟩
    have positive : 0 < extended.roundedMantissa := by omega
    have rounded := roundWithAccuracy_eq positive shifted (shiftToTargetExponent_eq digits least)
      rfl
    rw [rounded, Nat.cast_zero, add_zero]
    exact ⟨⟨less, least, by omega, Or.inl large⟩, rfl⟩
  · have digits : extended.roundedMantissa.log2 = 52 + 1 := by rw [carried, Nat.log2_two_pow]
    have halved : ((⟨extended.roundedMantissa, false, false⟩ : ExtendedMantissa) >>> 1).mantissa =
        2 ^ 52 := by
      rw [carried]
      rfl
    have rounded := roundWithAccuracy_eq (by decide) shifted (shiftToTargetExponent_eq digits least)
      halved
    rw [rounded, carried]
    refine ⟨⟨by decide, by omega, by omega, Or.inl (le_refl _)⟩, ?_⟩
    rw [unpackedValue, Sign.apply]
    exact_mod_cast (two_pow_mul_zpow first).symm

theorem isRounded_of_liesAt {number : ℚ} (liesAt : LiesAt extended number)
    (shifted : shiftToTargetExponent .binary64 mantissa exponent .exact = (extended, first))
    (least : -1074 ≤ first) (most : first ≤ 970) (large : 2 ^ 52 ≤ number)
    (small : number < 2 ^ 53) :
    IsRounded (number * 2 ^ first)
      (roundWithAccuracy .binary64 .positive mantissa exponent .exact) := by
  rcases liesAt.roundedMantissa with ⟨close, even⟩
  have both := abs_le.mp close
  have above : 2 ^ 52 - 1 < (extended.roundedMantissa : ℤ) := by
    exact_mod_cast (by linarith : (2 ^ 52 - 1 : ℚ) < extended.roundedMantissa)
  have below : extended.roundedMantissa < 2 ^ 53 + 1 := by
    exact_mod_cast (by linarith : (extended.roundedMantissa : ℚ) < 2 ^ 53 + 1)
  rcases isCanonical_roundWithAccuracy shifted least most (by omega) (by omega) with
    ⟨isCanonical, stands⟩
  have rounds : RoundsTo (number * 2 ^ first) ((extended.roundedMantissa : ℤ) * 2 ^ first) :=
    roundsTo_of_unit least most large small (by exact_mod_cast close) (by exact_mod_cast even)
  rw [Int.cast_natCast, ← stands] at rounds
  exact ⟨isCanonical, rounds⟩

theorem isRounded_roundWithAccuracy (digits : 52 ≤ mantissa.log2) (least : -1074 ≤ exponent)
    (most : mantissa.log2 + exponent ≤ 1000) :
    IsRounded (mantissa * 2 ^ exponent)
      (roundWithAccuracy .binary64 .positive mantissa exponent .exact) := by
  have nonzero : mantissa ≠ 0 := by
    rintro rfl
    exact absurd digits (by decide)
  rcases Nat.exists_eq_add_of_le digits with ⟨places, split⟩
  have above : 2 ^ (52 + places) ≤ mantissa := split ▸ Nat.log2_self_le nonzero
  have below : mantissa < 2 ^ (53 + places) := by
    rw [Nat.add_right_comm 52 1 places, ← split]
    exact Nat.lt_log2_self
  have large : (2 : ℚ) ^ 52 ≤ mantissa / 2 ^ places := by
    rw [le_div_iff₀ (by positivity), ← pow_add]
    exact_mod_cast above
  have small : (mantissa : ℚ) / 2 ^ places < 2 ^ 53 := by
    rw [div_lt_iff₀ (by positivity), ← pow_add]
    exact_mod_cast below
  have rounded := isRounded_of_liesAt ((LiesAt.exact mantissa).shiftRight places)
    (shiftToTargetExponent_eq split least) (by omega) (by omega) large small
  have unscaled : (mantissa : ℚ) / 2 ^ places * 2 ^ (exponent + places) =
      mantissa * 2 ^ exponent := by
    rw [zpow_add₀ two_ne_zero, zpow_natCast]
    field_simp
  rwa [unscaled] at rounded

end Shifted

theorem log2_shiftLeft {whole : Nat} (positive : 0 < whole) (places : Nat) :
    (whole <<< places).log2 = whole.log2 + places := by
  have nonzero : whole <<< places ≠ 0 := by
    rw [Nat.shiftLeft_eq]
    positivity
  rw [Nat.log2_eq_iff nonzero, Nat.shiftLeft_eq, add_right_comm, pow_add, pow_add _ _ places]
  exact ⟨Nat.mul_le_mul_right _ (Nat.log2_self_le positive.ne'),
    Nat.mul_lt_mul_of_pos_right Nat.lt_log2_self (by positivity)⟩

theorem isRounded_round {whole : Nat} (positive : 0 < whole) (below : whole < 2 ^ 64) :
    IsRounded whole (UnpackedFloat.round .binary64 .positive whole 0) := by
  have most := (Nat.log2_lt positive.ne').mpr below
  unfold UnpackedFloat.round decreaseExponent
  dsimp only
  have places : (0 - Format.binary64.targetExponent (totalExponent whole 0)).toNat =
      52 - whole.log2 := by
    simp only [Format.targetExponent, totalExponent, mantissaBits_eq, minExponent_eq]
    omega
  rw [places]
  have digits := log2_shiftLeft positive (52 - whole.log2)
  have unscaled : (whole : ℚ) =
      (whole <<< (52 - whole.log2) : Nat) * 2 ^ (0 - ((52 - whole.log2 : Nat) : ℤ)) := by
    rw [Nat.shiftLeft_eq, zero_sub, zpow_neg, zpow_natCast]
    push_cast
    field_simp
  rw [unscaled]
  exact isRounded_roundWithAccuracy (by omega) (by omega) (by omega)

theorem isRounded_unpack_toFloat (whole : UInt64) :
    IsRounded whole.toNat whole.toFloat.toModel.unpack := by
  have rounded : IsRounded whole.toNat
      (UnpackedFloat.normalize .binary64 (whole.toNat : Int) 0 .positive) := by
    have below := whole.toNat_lt
    unfold UnpackedFloat.normalize
    split
    case h_1 negative =>
      rw [Int.compare_eq_lt] at negative
      omega
    case h_2 zero =>
      rw [Int.compare_eq_eq] at zero
      have isCanonical : IsCanonical (.zero .positive) := trivial
      rw [Int.natCast_eq_zero.mp zero, Nat.cast_zero]
      exact ⟨isCanonical, roundsTo_self (isDouble_unpackedValue isCanonical)⟩
    case h_3 positive =>
      rw [Int.compare_eq_gt] at positive
      exact isRounded_round (by omega) below
  have unpacked : whole.toFloat.toModel.unpack =
      UnpackedFloat.normalize .binary64 (whole.toNat : Int) 0 .positive := unpack_pack rounded.1
  rwa [unpacked]

theorem isFinite_toFloat (whole : UInt64) : whole.toFloat.isFinite = true :=
  isFinite_of_isCanonical (isRounded_unpack_toFloat whole).1

/-- Whole numbers of 64 bits become the doubles that they are rounded to. -/
theorem roundsTo_value_toFloat (whole : UInt64) : RoundsTo whole.toNat (value whole.toFloat) :=
  (isRounded_unpack_toFloat whole).2

end CallContracts.Number
