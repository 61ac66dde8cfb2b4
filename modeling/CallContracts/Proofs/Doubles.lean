import Mathlib

/-!
# Rounding to doubles

A double is a rational number with a significand of at most 53 binary digits and an exponent within
the range. A rational number is rounded to the nearest double, and to one with an even significand
if there are two. This leaves no choice, because a double lies between any two even ones.

Rounding to the nearest multiple of a unit comes to the same where the unit is that of the doubles.
-/

namespace CallContracts.Number

/-! ## Doubles -/

/-- The significand and the exponent are within their ranges and make up the number. -/
structure Spells (significand exponent : ℤ) (number : ℚ) : Prop where
  short : |significand| < 2 ^ 53
  least : -1074 ≤ exponent
  most : exponent ≤ 971
  eq : number = significand * 2 ^ exponent

/-- A number that is kept without rounding. -/
def IsDouble (number : ℚ) : Prop :=
  ∃ significand exponent, Spells significand exponent number

/-- A double whose last digit is zero. -/
def IsEvenDouble (number : ℚ) : Prop :=
  ∃ significand exponent, Even significand ∧ Spells significand exponent number

/-- The double that the number is rounded to: none is nearer, and one of two is even. -/
structure RoundsTo (number rounded : ℚ) : Prop where
  isDouble : IsDouble rounded
  nearest (double : ℚ) (isDouble : IsDouble double) : |rounded - number| ≤ |double - number|
  even (double : ℚ) (isDouble : IsDouble double) (differs : double ≠ rounded)
    (tie : |rounded - number| = |double - number|) : IsEvenDouble rounded

theorem two_zpow_pos (exponent : ℤ) : (0 : ℚ) < 2 ^ exponent :=
  zpow_pos two_pos exponent

/-- Numbers with the smaller exponent include those with the larger one. -/
theorem two_zpow_eq {low high : ℤ} (order : low ≤ high) :
    (2 : ℚ) ^ high = (2 ^ (high - low).toNat : ℤ) * 2 ^ low := by
  have split : high = (high - low).toNat + low := by omega
  conv_lhs => rw [split, zpow_add₀ two_ne_zero, zpow_natCast]
  push_cast
  rfl

theorem two_pow_mul_zpow (exponent : ℤ) :
    (2 : ℚ) ^ 53 * 2 ^ exponent = 2 ^ 52 * 2 ^ (exponent + 1) := by
  rw [zpow_add_one₀ two_ne_zero]
  ring

/-- A number of at most 53 digits is below those of 53 digits with a larger exponent. -/
theorem mul_zpow_lt_of_lt {number : ℚ} {low high : ℤ} (short : number < 2 ^ 53)
    (order : low < high) : number * 2 ^ low < 2 ^ 52 * 2 ^ high :=
  calc number * 2 ^ low < 2 ^ 53 * 2 ^ low := mul_lt_mul_of_pos_right short (two_zpow_pos low)
    _ = 2 ^ 52 * 2 ^ (low + 1) := two_pow_mul_zpow low
    _ ≤ 2 ^ 52 * 2 ^ high :=
      mul_le_mul_of_nonneg_left (zpow_le_zpow_right₀ one_le_two order) (by positivity)

section Negation

variable {number rounded : ℚ}

theorem Spells.neg {significand exponent : ℤ} (spells : Spells significand exponent number) :
    Spells (-significand) exponent (-number) where
  short := by rw [abs_neg]; exact spells.short
  least := spells.least
  most := spells.most
  eq := by rw [spells.eq]; push_cast; ring

theorem IsDouble.neg (isDouble : IsDouble number) : IsDouble (-number) := by
  rcases isDouble with ⟨significand, exponent, spells⟩
  exact ⟨-significand, exponent, spells.neg⟩

theorem IsEvenDouble.neg (isEven : IsEvenDouble number) : IsEvenDouble (-number) := by
  rcases isEven with ⟨significand, exponent, even, spells⟩
  exact ⟨-significand, exponent, even.neg, spells.neg⟩

theorem RoundsTo.neg (rounds : RoundsTo number rounded) : RoundsTo (-number) (-rounded) := by
  have mirrored (double : ℚ) : |double - -number| = |-double - number| := by
    rw [← abs_neg]
    congr 1
    ring
  refine ⟨rounds.isDouble.neg, fun double isDouble => ?_, fun double isDouble differs tie => ?_⟩
  · rw [mirrored, mirrored, neg_neg]
    exact rounds.nearest _ isDouble.neg
  · rw [mirrored, mirrored, neg_neg] at tie
    exact (rounds.even _ isDouble.neg (fun same => differs (by rw [← same, neg_neg])) tie).neg

end Negation

theorem roundsTo_self {number : ℚ} (isDouble : IsDouble number) : RoundsTo number number where
  isDouble := isDouble
  nearest double _ := by simp
  even double _ differs tie := by
    rw [sub_self, abs_zero, eq_comm, abs_eq_zero, sub_eq_zero] at tie
    exact absurd tie differs

/-! ## Rounding leaves no choice -/

/-- The double above an even one with the same exponent. -/
theorem Spells.isDouble_succ {significand exponent : ℤ} {number : ℚ} (even : Even significand)
    (spells : Spells significand exponent number) : IsDouble (number + 2 ^ exponent) := by
  have short := abs_lt.mp spells.short
  rcases even with ⟨half, rfl⟩
  refine ⟨half + half + 1, exponent, ⟨abs_lt.mpr ⟨by omega, by omega⟩, spells.least, spells.most,
    ?_⟩⟩
  rw [spells.eq]
  push_cast
  ring

theorem exists_isDouble_between_of_le {left right : ℚ} {significand other low high : ℤ}
    (even : Even significand) (spells : Spells significand low left) (otherEven : Even other)
    (otherSpells : Spells other high right) (order : low ≤ high) (less : left < right) :
    ∃ double, IsDouble double ∧ left < double ∧ double < right := by
  refine ⟨left + 2 ^ low, spells.isDouble_succ even, by linarith [two_zpow_pos low], ?_⟩
  -- Both numbers are multiples of twice the unit, so they are at least that far apart.
  rcases even with ⟨half, rfl⟩
  rcases otherEven with ⟨otherHalf, rfl⟩
  have rightEq := otherSpells.eq
  rw [two_zpow_eq order, ← mul_assoc, ← Int.cast_mul, add_mul] at rightEq
  generalize otherHalf * 2 ^ (high - low).toNat = multiple at rightEq
  rw [spells.eq, rightEq, mul_lt_mul_iff_of_pos_right (two_zpow_pos low), Int.cast_lt] at less
  have apart : half + half + 1 < multiple + multiple := by omega
  rw [spells.eq, rightEq, ← add_one_mul, mul_lt_mul_iff_of_pos_right (two_zpow_pos low)]
  exact_mod_cast apart

theorem exists_isDouble_between {left right : ℚ} (leftEven : IsEvenDouble left)
    (rightEven : IsEvenDouble right) (less : left < right) :
    ∃ double, IsDouble double ∧ left < double ∧ double < right := by
  rcases leftEven with ⟨significand, low, even, spells⟩
  rcases rightEven with ⟨other, high, otherEven, otherSpells⟩
  rcases le_total low high with order | order
  · exact exists_isDouble_between_of_le even spells otherEven otherSpells order less
  · rcases exists_isDouble_between_of_le otherEven.neg otherSpells.neg even.neg spells.neg order
      (neg_lt_neg less) with ⟨double, isDouble, above, below⟩
    exact ⟨-double, isDouble.neg, by linarith, by linarith⟩

theorem RoundsTo.not_lt {number left right : ℚ} (leftRounds : RoundsTo number left)
    (rightRounds : RoundsTo number right) : ¬left < right := by
  intro less
  have tie : |left - number| = |right - number| :=
    le_antisymm (leftRounds.nearest _ rightRounds.isDouble)
      (rightRounds.nearest _ leftRounds.isDouble)
  have leftEven := leftRounds.even _ rightRounds.isDouble (ne_of_gt less) tie
  have rightEven := rightRounds.even _ leftRounds.isDouble (ne_of_lt less) tie.symm
  rcases exists_isDouble_between leftEven rightEven less with ⟨double, isDouble, above, below⟩
  -- The number is halfway between both, so the double between them is nearer.
  have halfway : number - left = right - number := by
    rcases abs_eq_abs.mp tie with same | opposite
    · linarith
    · linarith
  have nearer : |double - number| < |left - number| := by
    have positive : left - number ≤ 0 := by linarith
    rw [abs_of_nonpos positive, abs_lt]
    constructor <;> linarith
  exact absurd (leftRounds.nearest double isDouble) (not_le.mpr nearer)

theorem RoundsTo.unique {number left right : ℚ} (leftRounds : RoundsTo number left)
    (rightRounds : RoundsTo number right) : left = right := by
  rcases lt_trichotomy left right with less | same | less
  · exact absurd less (leftRounds.not_lt rightRounds)
  · exact same
  · exact absurd less (rightRounds.not_lt leftRounds)

/-! ## Rounding to a unit -/

/-- Above the power of two a double is a multiple of the unit. -/
theorem IsDouble.multiple_or_lt {double : ℚ} (isDouble : IsDouble double) (exponent : ℤ) :
    (∃ multiple : ℤ, double = multiple * 2 ^ exponent) ∨ double < 2 ^ 52 * 2 ^ exponent := by
  rcases isDouble with ⟨significand, own, spells⟩
  rcases le_or_gt exponent own with order | order
  · refine Or.inl ⟨significand * 2 ^ (own - exponent).toNat, ?_⟩
    rw [spells.eq, two_zpow_eq order]
    push_cast
    ring
  · have short : (significand : ℚ) < 2 ^ 53 := by exact_mod_cast (abs_lt.mp spells.short).2
    rw [spells.eq]
    exact Or.inr (mul_zpow_lt_of_lt short order)

section Unit

variable {number : ℚ} {rounded : ℤ}

/-- No other whole number is nearer, and none is as near unless the number is halfway. -/
theorem nearest_whole (close : |rounded - number| ≤ 1 / 2) (other : ℤ) :
    |rounded - number| ≤ |other - number| ∧
      (other ≠ rounded → |rounded - number| = |other - number| → |rounded - number| = 1 / 2) := by
  rcases eq_or_ne other rounded with rfl | differs
  · exact ⟨le_refl _, fun differs => absurd rfl differs⟩
  · have apart : (1 : ℚ) ≤ |(other : ℚ) - rounded| := by
      exact_mod_cast Int.one_le_abs (sub_ne_zero.mpr differs)
    have between : |(other : ℚ) - rounded| ≤ |other - number| + |rounded - number| := by
      rw [abs_sub_comm (rounded : ℚ)]
      exact abs_sub_le _ _ _
    exact ⟨by linarith, fun _ tie => by linarith⟩

/-- A number below the power of two is farther away than the power itself. -/
theorem abs_sub_lt_of_lt (large : 2 ^ 52 ≤ number) (close : |rounded - number| ≤ 1 / 2)
    {other : ℚ} (below : other < 2 ^ 52) : |rounded - number| < |other - number| := by
  have power : ((2 ^ 52 : ℤ) : ℚ) = 2 ^ 52 := by norm_cast
  calc |rounded - number| ≤ |2 ^ 52 - number| := power ▸ (nearest_whole close (2 ^ 52)).1
    _ = number - 2 ^ 52 := by rw [abs_sub_comm, abs_of_nonneg (by linarith)]
    _ < number - other := by linarith
    _ ≤ |other - number| := by rw [← neg_sub]; exact neg_le_abs _

/-- A significand with a digit too many is a power of two, so the next exponent takes it. -/
theorem exists_spells {exponent : ℤ} (least : -1074 ≤ exponent) (most : exponent ≤ 970)
    (positive : 0 < rounded) (small : rounded ≤ 2 ^ 53) :
    ∃ significand own : ℤ, (Even rounded → Even significand) ∧
      Spells significand own (rounded * 2 ^ exponent) := by
  rcases lt_or_eq_of_le small with less | rfl
  · exact ⟨rounded, exponent, id, ⟨abs_lt.mpr ⟨by omega, less⟩, least, by omega, rfl⟩⟩
  · refine ⟨2 ^ 52, exponent + 1, fun _ => by decide, ⟨by decide, by omega, by omega, ?_⟩⟩
    exact_mod_cast two_pow_mul_zpow exponent

/-- Rounding to the nearest multiple of a unit is rounding to the nearest double where the unit is
that of the doubles. -/
theorem roundsTo_of_unit {exponent : ℤ} (least : -1074 ≤ exponent) (most : exponent ≤ 970)
    (large : 2 ^ 52 ≤ number) (small : number < 2 ^ 53)
    (close : |rounded - number| ≤ 1 / 2) (even : |rounded - number| = 1 / 2 → Even rounded) :
    RoundsTo (number * 2 ^ exponent) (rounded * 2 ^ exponent) := by
  have unit := two_zpow_pos exponent
  have distance (multiple : ℚ) : |multiple * 2 ^ exponent - number * 2 ^ exponent| =
      |multiple - number| * 2 ^ exponent := by
    rw [← sub_mul, abs_mul, abs_of_pos unit]
  have bounds : 0 < rounded ∧ rounded < 2 ^ 53 + 1 := by
    have both := abs_le.mp close
    constructor
    · exact_mod_cast (by linarith : (0 : ℚ) < rounded)
    · exact_mod_cast (by linarith : (rounded : ℚ) < 2 ^ 53 + 1)
  rcases exists_spells least most bounds.1 (Int.lt_add_one_iff.mp bounds.2) with
    ⟨significand, own, keepsEven, spells⟩
  have beside (double : ℚ) (isDouble : IsDouble double) :
      |rounded * 2 ^ exponent - number * 2 ^ exponent| ≤ |double - number * 2 ^ exponent| ∧
        (double ≠ rounded * 2 ^ exponent →
          |rounded * 2 ^ exponent - number * 2 ^ exponent| = |double - number * 2 ^ exponent| →
            |rounded - number| = 1 / 2) := by
    rcases isDouble.multiple_or_lt exponent with ⟨multiple, rfl⟩ | below
    · rcases nearest_whole close multiple with ⟨near, halfway⟩
      rw [distance, distance, mul_left_inj' unit.ne']
      refine ⟨mul_le_mul_of_nonneg_right near unit.le, fun differs tie => halfway ?_ tie⟩
      rintro rfl
      exact differs rfl
    · have scaled : double = double / 2 ^ exponent * 2 ^ exponent :=
        (div_mul_cancel₀ double unit.ne').symm
      have farther := abs_sub_lt_of_lt large close ((div_lt_iff₀ unit).mpr below)
      rw [scaled, distance, distance, mul_left_inj' unit.ne']
      exact ⟨mul_le_mul_of_nonneg_right farther.le unit.le, fun _ tie => absurd tie farther.ne⟩
  refine ⟨⟨significand, own, spells⟩, fun double isDouble => (beside double isDouble).1,
    fun double isDouble differs tie => ?_⟩
  exact ⟨significand, own, keepsEven (even ((beside double isDouble).2 differs tie)), spells⟩

end Unit

end CallContracts.Number
