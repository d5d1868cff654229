import Mathlib
import RoutingPlane.Decimal.Binary64

/-!
The exact values of numbers in double precision. The parts of a finite number are canonical: its
significand has full precision unless the exponent is the least one. So the parts tell the bits of
a number, and apart from the two zeros different numbers have different values: two numbers are
equal exactly if both are defined and have the same exact value.
-/

namespace RoutingPlane.Decimal

/-- The exact value of a number that is defined. -/
inductive Exact where
  | finite (value : ℚ)
  | infinite (negative : Bool)

/-- The number for which a significand, an exponent and a sign stand. -/
def Dyadic.rational (value : Dyadic) : ℚ :=
  value.signed * (2 : ℚ) ^ value.exponent

def Binary64.exactValue? : Binary64 → Option Exact
  | .finite value => some (.finite value.rational)
  | .infinite negative => some (.infinite negative)
  | .undefined => none

namespace Binary64

variable {x y : Float} {value : Dyadic} {negative : Bool}

/-! ## Bits -/

theorem bits_of_infinite (isInfinite : ofFloat x = .infinite negative) :
    decide (x.toBits.toNat >>> 63 = 1) = negative ∧ (x.toBits.toNat >>> 52) % 2048 = 2047 ∧
      x.toBits.toNat % (1 <<< 52) = 0 := by
  rw [ofFloat] at isInfinite
  split at isInfinite
  case isTrue isTop =>
    split at isInfinite
    case isTrue isWhole => exact ⟨Binary64.infinite.inj isInfinite, isTop, isWhole⟩
    case isFalse => cases isInfinite
  case isFalse => split at isInfinite <;> cases isInfinite

/-- The leading bit of a significand is left out, unless the exponent is the least one. -/
theorem bits_of_finite (isFinite : ofFloat x = .finite value) :
    decide (x.toBits.toNat >>> 63 = 1) = value.negative ∧
      ((x.toBits.toNat >>> 52) % 2048 = 0 ∧ value.exponent = -1074 ∧
          value.significand = x.toBits.toNat % (1 <<< 52) ∨
        0 < (x.toBits.toNat >>> 52) % 2048 ∧
          value.exponent = ((x.toBits.toNat >>> 52) % 2048 : Nat) - 1075 ∧
          value.significand = x.toBits.toNat % (1 <<< 52) + 1 <<< 52) := by
  rw [ofFloat] at isFinite
  split at isFinite
  case isTrue => split at isFinite <;> cases isFinite
  case isFalse =>
    split at isFinite
    case isTrue isBottom =>
      cases isFinite
      exact ⟨rfl, .inl ⟨isBottom, rfl, rfl⟩⟩
    case isFalse notBottom =>
      cases isFinite
      exact ⟨rfl, .inr ⟨Nat.pos_of_ne_zero notBottom, rfl, rfl⟩⟩

/-- There is only one undefined number. -/
theorem eq_nan_of_undefined (isUndefined : ofFloat x = .undefined) : x = Float.nan := by
  rw [ofFloat] at isUndefined
  split at isUndefined
  case isFalse => split at isUndefined <;> cases isUndefined
  case isTrue isTop =>
    split at isUndefined
    case isTrue => cases isUndefined
    case isFalse notWhole =>
      rw [← Float.toBits_inj, ← UInt64.toBitVec_inj]
      apply x.toModel.valid.eq_packedNaN
      · rw [← BitVec.toNat_inj]
        simp only [Float.Model.UnpackedFloat.unpackExponent, BitVec.toNat_cast,
          BitVec.extractLsb_toNat]
        exact isTop
      · rw [ne_eq, ← BitVec.toNat_inj]
        simp only [Float.Model.UnpackedFloat.unpackMantissa, BitVec.toNat_cast,
          BitVec.extractLsb_toNat]
        exact notWhole

theorem eq_of_sameBits
    (sameSign : decide (x.toBits.toNat >>> 63 = 1) = decide (y.toBits.toNat >>> 63 = 1))
    (sameExponent : (x.toBits.toNat >>> 52) % 2048 = (y.toBits.toNat >>> 52) % 2048)
    (sameFraction : x.toBits.toNat % (1 <<< 52) = y.toBits.toNat % (1 <<< 52)) : x = y := by
  have leftBounded := x.toBits.toNat_lt
  have rightBounded := y.toBits.toNat_lt
  rw [← Float.toBits_inj, ← UInt64.toNat_inj]
  simp only [decide_eq_decide, Nat.shiftRight_eq_div_pow, Nat.one_shiftLeft] at *
  omega

/-- The parts of a number that is defined tell the number. -/
theorem eq_of_ofFloat_eq (same : ofFloat x = ofFloat y) (isDefined : ofFloat x ≠ .undefined) :
    x = y := by
  cases isLeft : ofFloat x with
  | undefined => exact absurd isLeft isDefined
  | infinite negative =>
      obtain ⟨leftSign, leftTop, leftWhole⟩ := bits_of_infinite isLeft
      obtain ⟨rightSign, rightTop, rightWhole⟩ := bits_of_infinite (same.symm.trans isLeft)
      exact eq_of_sameBits (leftSign.trans rightSign.symm) (leftTop.trans rightTop.symm)
        (leftWhole.trans rightWhole.symm)
  | finite value =>
      obtain ⟨leftSign, leftParts⟩ := bits_of_finite isLeft
      obtain ⟨rightSign, rightParts⟩ := bits_of_finite (same.symm.trans isLeft)
      have leftBounded : x.toBits.toNat % (1 <<< 52) < 1 <<< 52 := Nat.mod_lt _ (by decide)
      have rightBounded : y.toBits.toNat % (1 <<< 52) < 1 <<< 52 := Nat.mod_lt _ (by decide)
      apply eq_of_sameBits (leftSign.trans rightSign.symm)
      · omega
      · omega

end Binary64

namespace Dyadic

variable {left right value : Dyadic}

/-! ## Canonical parts -/

/-- The significand has full precision unless the exponent is the least one. -/
structure IsCanonical (value : Dyadic) : Prop where
  bounded : value.significand < 2 ^ 53
  least : -1074 ≤ value.exponent
  full : value.exponent = -1074 ∨ 2 ^ 52 ≤ value.significand

theorem isCanonical_of_ofFloat {x : Float} (isFinite : Binary64.ofFloat x = .finite value) :
    value.IsCanonical := by
  have bounded : x.toBits.toNat % (1 <<< 52) < 2 ^ 52 := Nat.mod_lt _ (by decide)
  obtain ⟨_, ⟨_, isLeast, isFraction⟩ | ⟨_, isAbove, isFull⟩⟩ := Binary64.bits_of_finite isFinite
  · exact ⟨by omega, by omega, .inl isLeast⟩
  · exact ⟨by omega, by omega, .inr (by omega)⟩

theorem natAbs_signed (value : Dyadic) : value.signed.natAbs = value.significand := by
  rw [signed]
  split <;> simp

theorem rational_eq_zero_iff : value.rational = 0 ↔ value.significand = 0 := by
  have nonzero : (2 : ℚ) ^ value.exponent ≠ 0 := zpow_ne_zero _ two_ne_zero
  rw [rational, mul_eq_zero, or_iff_left nonzero, Int.cast_eq_zero, ← Int.natAbs_eq_zero,
    natAbs_signed]

/-- Of two forms of one number neither has the greater exponent. It would not be the least one, and
then its significand cannot be doubled. -/
theorem exponent_le_of_rational_eq (leftCanonical : left.IsCanonical)
    (rightCanonical : right.IsCanonical) (same : left.rational = right.rational) :
    right.exponent ≤ left.exponent := by
  by_contra less
  rw [not_le] at less
  obtain ⟨shift, isShift⟩ := Int.le.dest less.le
  have scaled : left.signed = right.signed * 2 ^ shift := by
    rw [rational, rational, ← isShift, zpow_add₀ two_ne_zero, zpow_natCast,
      mul_comm (2 ^ left.exponent), ← mul_assoc,
      mul_left_inj' (zpow_ne_zero _ two_ne_zero)] at same
    exact_mod_cast same
  have significands : left.significand = right.significand * 2 ^ shift := by
    have sameSize := congrArg Int.natAbs scaled
    rwa [Int.natAbs_mul, natAbs_signed, natAbs_signed, Int.natAbs_pow] at sameSize
  have isFull := rightCanonical.full.resolve_left (by have := leftCanonical.least; omega)
  have isDoubled : 2 ≤ 2 ^ shift := Nat.le_self_pow (by omega) 2
  have tooLarge := Nat.mul_le_mul isFull isDoubled
  have bounded := leftCanonical.bounded
  omega

/-- Only zero has different parts. -/
theorem eq_of_rational_eq (leftCanonical : left.IsCanonical) (rightCanonical : right.IsCanonical)
    (nonzero : left.rational ≠ 0) (same : left.rational = right.rational) : left = right := by
  have sameExponent : left.exponent = right.exponent :=
    le_antisymm (exponent_le_of_rational_eq rightCanonical leftCanonical same.symm)
      (exponent_le_of_rational_eq leftCanonical rightCanonical same)
  have sameSigned : left.signed = right.signed := by
    rw [rational, rational, sameExponent, mul_left_inj' (zpow_ne_zero _ two_ne_zero)] at same
    exact_mod_cast same
  rw [ne_eq, rational_eq_zero_iff] at nonzero
  obtain ⟨leftNegative, leftSignificand, leftExponent⟩ := left
  obtain ⟨rightNegative, rightSignificand, rightExponent⟩ := right
  simp only [signed] at sameSigned
  simp only [mk.injEq]
  cases leftNegative <;> cases rightNegative <;> simp_all

/-! ## Rounding down -/

/-- The floor that is taken on the digits is that of the number. -/
theorem floor_eq (value : Dyadic) : value.floor = ⌊value.rational⌋ := by
  obtain ⟨negative, significand, exponent⟩ := value
  cases exponent with
  | ofNat shift =>
      have isWhole : rational ⟨negative, significand, .ofNat shift⟩ =
          (floor ⟨negative, significand, .ofNat shift⟩ : ℚ) := by
        simp [rational, floor, Nat.shiftLeft_eq, signed]
      rw [isWhole, Int.floor_intCast]
  | negSucc shift =>
      have isQuotient : rational ⟨negative, significand, .negSucc shift⟩ =
          (signed ⟨negative, significand, .negSucc shift⟩ : ℚ) /
            ((1 <<< (shift + 1) : Nat) : ℚ) := by
        simp [rational, Nat.shiftLeft_eq, zpow_negSucc, div_eq_mul_inv, signed]
      rw [isQuotient, Rat.floor_intCast_div_natCast]
      exact Int.fdiv_eq_ediv_of_nonneg _ (Int.natCast_nonneg _)

theorem rational_negated (value : Dyadic) :
    rational { value with negative := !value.negative } = -value.rational := by
  rw [rational, rational, ← neg_mul, ← Int.cast_neg, signed, signed]
  cases value.negative <;> simp

/-- Rounding down and rounding up give a whole number exactly if it is the value. -/
theorem isWhole_iff {n : Int} :
    value.floor = n ∧ -floor { value with negative := !value.negative } = n ↔
      value.rational = n := by
  rw [floor_eq, floor_eq, rational_negated, Int.floor_neg, neg_neg]
  constructor
  · rintro ⟨isFloor, isCeil⟩
    apply le_antisymm
    · rw [← isCeil]
      exact Int.le_ceil _
    · rw [← isFloor]
      exact Int.floor_le _
  · intro isWhole
    rw [isWhole]
    exact ⟨Int.floor_intCast n, Int.ceil_intCast n⟩

end Dyadic

namespace Binary64

variable {x y : Float} {value : Dyadic}

/-! ## Comparison -/

theorem ofFloat_zero : ofFloat 0 = .finite ⟨false, 0, -1074⟩ := rfl

theorem ofFloat_negative_zero : ofFloat (-0) = .finite ⟨true, 0, -1074⟩ := rfl

theorem ofFloat_nan : ofFloat Float.nan = .undefined := rfl

theorem exists_exactValue_iff :
    (∃ exact, (ofFloat x).exactValue? = some exact) ↔ x ≠ Float.nan := by
  constructor
  · rintro ⟨exact, isExact⟩ rfl
    rw [ofFloat_nan] at isExact
    cases isExact
  · intro isDefined
    cases parts : ofFloat x with
    | finite value => exact ⟨_, rfl⟩
    | infinite negative => exact ⟨_, rfl⟩
    | undefined => exact absurd (eq_nan_of_undefined parts) isDefined

/-- Only the two zeros have the value zero. -/
theorem eq_zero_of_rational (isFinite : ofFloat x = .finite value) (isZero : value.rational = 0) :
    x = 0 ∨ x = -0 := by
  have canonical := Dyadic.isCanonical_of_ofFloat isFinite
  rw [Dyadic.rational_eq_zero_iff] at isZero
  have isLeast : value.exponent = -1074 := canonical.full.resolve_right (by omega)
  have isDefined : ofFloat x ≠ .undefined := by
    rw [isFinite]
    exact Binary64.noConfusion
  obtain ⟨negative, significand, exponent⟩ := value
  obtain rfl : significand = 0 := isZero
  obtain rfl : exponent = -1074 := isLeast
  cases negative with
  | false => exact .inl (eq_of_ofFloat_eq (isFinite.trans ofFloat_zero.symm) isDefined)
  | true => exact .inr (eq_of_ofFloat_eq (isFinite.trans ofFloat_negative_zero.symm) isDefined)

theorem exactValue_eq_finite_iff {number : Binary64} {rational : ℚ} :
    number.exactValue? = some (.finite rational) ↔
      ∃ value, number = .finite value ∧ value.rational = rational := by
  cases number <;> simp [exactValue?]

theorem exactValue_eq_infinite_iff {number : Binary64} {negative : Bool} :
    number.exactValue? = some (.infinite negative) ↔ number = .infinite negative := by
  cases number <;> simp [exactValue?]

/-- Numbers with the same exact value are the same, up to the sign of zero. -/
theorem eq_or_zeros_of_exactValue_eq {exact : Exact}
    (isLeft : (ofFloat x).exactValue? = some exact)
    (isRight : (ofFloat y).exactValue? = some exact) : x = y ∨ x = 0 ∧ y = -0 ∨ x = -0 ∧ y = 0 := by
  cases exact with
  | infinite negative =>
      rw [exactValue_eq_infinite_iff] at isLeft isRight
      refine .inl (eq_of_ofFloat_eq (isLeft.trans isRight.symm) ?_)
      rw [isLeft]
      exact Binary64.noConfusion
  | finite rational =>
      obtain ⟨value, leftParts, rfl⟩ := exactValue_eq_finite_iff.1 isLeft
      obtain ⟨other, rightParts, same⟩ := exactValue_eq_finite_iff.1 isRight
      by_cases isZero : value.rational = 0
      · have left := eq_zero_of_rational leftParts isZero
        have right := eq_zero_of_rational rightParts (same.trans isZero)
        rcases left with rfl | rfl <;> rcases right with rfl | rfl
        · exact .inl rfl
        · exact .inr (.inl ⟨rfl, rfl⟩)
        · exact .inr (.inr ⟨rfl, rfl⟩)
        · exact .inl rfl
      · have sameParts : value = other :=
          Dyadic.eq_of_rational_eq (Dyadic.isCanonical_of_ofFloat leftParts)
            (Dyadic.isCanonical_of_ofFloat rightParts) isZero same.symm
        refine .inl (eq_of_ofFloat_eq (leftParts.trans (sameParts ▸ rightParts.symm)) ?_)
        rw [leftParts]
        exact Binary64.noConfusion

theorem exactValue_zero : (ofFloat 0).exactValue? = some (.finite 0) := by
  rw [ofFloat_zero, exactValue?, Dyadic.rational_eq_zero_iff.2 rfl]

theorem exactValue_negative_zero : (ofFloat (-0)).exactValue? = some (.finite 0) := by
  rw [ofFloat_negative_zero, exactValue?, Dyadic.rational_eq_zero_iff.2 rfl]

end Binary64

/-- Two numbers are equal exactly if both are defined and have the same exact value. -/
theorem beq_eq_true_iff {x y : Float} : (x == y) = true ↔
    ∃ exact, (Binary64.ofFloat x).exactValue? = some exact ∧
      (Binary64.ofFloat y).exactValue? = some exact := by
  rw [Float.beq_iff_ne_nan_and_eq]
  constructor
  · rintro ⟨isDefined, _, rfl | ⟨rfl, rfl⟩ | ⟨rfl, rfl⟩⟩
    · obtain ⟨exact, isExact⟩ := Binary64.exists_exactValue_iff.2 isDefined
      exact ⟨exact, isExact, isExact⟩
    · exact ⟨_, Binary64.exactValue_zero, Binary64.exactValue_negative_zero⟩
    · exact ⟨_, Binary64.exactValue_negative_zero, Binary64.exactValue_zero⟩
  · rintro ⟨exact, isLeft, isRight⟩
    exact ⟨Binary64.exists_exactValue_iff.1 ⟨exact, isLeft⟩,
      Binary64.exists_exactValue_iff.1 ⟨exact, isRight⟩,
      Binary64.eq_or_zeros_of_exactValue_eq isLeft isRight⟩

end RoutingPlane.Decimal
