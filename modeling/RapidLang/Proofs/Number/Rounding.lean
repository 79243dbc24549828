import Mathlib.Algebra.Group.Nat.Defs
import RapidLang.Number.Binary64

/-!
# Rounding quotients

The number nearest to a quotient depends on the quotient alone. It is in normal form, and a
quotient that is such a number is left as it is.
-/

set_option autoImplicit false

namespace RapidLang

variable {numerator denominator factor significand exponent : Nat} {negative : Bool}

theorem twoPower_eq (exponent : Nat) : twoPower exponent = 2 ^ exponent := rfl

theorem twoPower_pos (exponent : Nat) : 0 < twoPower exponent := Nat.two_pow_pos exponent

theorem twoPower_le {small large : Nat} (below : small ≤ large) :
    twoPower small ≤ twoPower large :=
  Nat.pow_le_pow_right (by decide) below

/-! ## Rounding to a natural number -/

theorem roundHalfEven_mul (positive : 0 < factor) (numerator denominator : Nat) :
    roundHalfEven (factor * numerator) (factor * denominator) =
      roundHalfEven numerator denominator := by
  have less : ∀ left right : Nat, 2 * (factor * left) < factor * right ↔ 2 * left < right := by
    intro left right
    rw [Nat.mul_left_comm, Nat.mul_lt_mul_left positive]
  have greater : ∀ left right : Nat, factor * right < 2 * (factor * left) ↔ right < 2 * left := by
    intro left right
    rw [Nat.mul_left_comm, Nat.mul_lt_mul_left positive]
  simp only [roundHalfEven, Nat.mul_div_mul_left _ _ positive, Nat.mul_mod_mul_left, less, greater]

theorem le_roundHalfEven (numerator denominator : Nat) :
    numerator / denominator ≤ roundHalfEven numerator denominator := by
  simp only [roundHalfEven]
  split
  · exact Nat.le_refl _
  split
  · exact Nat.le_succ _
  split
  · exact Nat.le_refl _
  · exact Nat.le_succ _

theorem roundHalfEven_le (numerator denominator : Nat) :
    roundHalfEven numerator denominator ≤ numerator / denominator + 1 := by
  simp only [roundHalfEven]
  split
  · exact Nat.le_succ _
  split
  · exact Nat.le_refl _
  split
  · exact Nat.le_succ _
  · exact Nat.le_refl _

theorem roundHalfEven_exact (positive : 0 < denominator) (quotient : Nat) :
    roundHalfEven (quotient * denominator) denominator = quotient := by
  simp [roundHalfEven, Nat.mul_div_cancel _ positive, positive]

/-! ## Numbers in normal form -/

namespace Binary64

/-- The significand has 53 bits, or fewer if the exponent is zero, and the exponent is in range. -/
structure Normal (significand exponent : Nat) : Prop where
  below : significand < 2 ^ 53
  filled : exponent = 0 ∨ 2 ^ 52 ≤ significand
  inRange : exponent ≤ maxExponent

theorem ofQuotient_mul (positive : 0 < factor) (negative : Bool) (numerator denominator : Nat) :
    ofQuotient negative (factor * numerator) (factor * denominator) =
      ofQuotient negative numerator denominator := by
  simp only [ofQuotient, Nat.mul_assoc, Nat.mul_div_mul_left _ _ positive,
    roundHalfEven_mul positive]

/-- A quotient scaled down by the exponent it is rounded with has at most 53 bits, and as many
unless the exponent is zero. -/
theorem scaled_bounds (quotient : Nat) :
    quotient / 2 ^ (quotient.log2 - 52) < 2 ^ 53 ∧
      (quotient.log2 - 52 = 0 ∨ 2 ^ 52 ≤ quotient / 2 ^ (quotient.log2 - 52)) := by
  refine ⟨?_, ?_⟩
  · refine Nat.div_lt_of_lt_mul (Nat.lt_of_lt_of_le Nat.lt_log2_self ?_)
    rw [← Nat.pow_add]
    exact Nat.pow_le_pow_right (by decide) (by omega)
  · by_cases small : quotient.log2 - 52 = 0
    · exact .inl small
    · refine .inr ((Nat.le_div_iff_mul_le (Nat.two_pow_pos _)).mpr ?_)
      have some : quotient ≠ 0 := by
        rintro rfl
        simp at small
      rw [← Nat.pow_add]
      refine Nat.le_trans (Nat.pow_le_pow_right (by decide) ?_) (Nat.log2_self_le some)
      omega

/-- A quotient is rounded to an infinite number or to one in normal form, with the given sign. -/
theorem ofQuotient_cases (negative : Bool) (numerator denominator : Nat) :
    ofQuotient negative numerator denominator = .infinite negative ∨
      ∃ significand exponent, Normal significand exponent ∧
        ofQuotient negative numerator denominator = .finite negative significand exponent := by
  simp only [ofQuotient]
  generalize numerator * twoPower 1074 = scaled
  obtain ⟨below, filled⟩ := scaled_bounds (scaled / denominator)
  generalize (scaled / denominator).log2 - 52 = shift at below filled ⊢
  have low := le_roundHalfEven scaled (denominator * twoPower shift)
  have high := roundHalfEven_le scaled (denominator * twoPower shift)
  rw [← Nat.div_div_eq_div_mul, twoPower_eq shift] at low high
  rw [twoPower_eq shift]
  generalize roundHalfEven scaled (denominator * 2 ^ shift) = nearest at low high ⊢
  generalize scaled / denominator / 2 ^ shift = floor at below filled low high
  have carry : twoPower 53 = 2 * twoPower 52 := rfl
  have power : twoPower 52 = 2 ^ 52 := rfl
  by_cases carried : nearest = twoPower 53
  · simp only [carried, if_true]
    split
    · exact .inl rfl
    next inRange =>
      refine .inr ⟨_, _, ⟨?_, .inr (Nat.le_of_eq power.symm), Nat.not_lt.mp inRange⟩, rfl⟩
      rw [power]
      decide
  · simp only [carried, if_false]
    split
    · exact .inl rfl
    next inRange =>
      refine .inr ⟨_, _, ⟨by omega, ?_, Nat.not_lt.mp inRange⟩, rfl⟩
      rcases filled with same | filled
      · exact .inl same
      · exact .inr (Nat.le_trans filled low)

/-- A number in normal form is the nearest one to itself. -/
theorem ofQuotient_exact (normal : Normal significand exponent) (some : significand ≠ 0)
    (negative : Bool) :
    ofQuotient negative (significand * 2 ^ exponent) (twoPower 1074) =
      .finite negative significand exponent := by
  obtain ⟨below, filled, inRange⟩ := normal
  have positive := twoPower_pos 1074
  unfold ofQuotient
  generalize twoPower 1074 = unit at positive ⊢
  have whole : significand * 2 ^ exponent * unit / unit = significand * 2 ^ exponent :=
    Nat.mul_div_cancel _ positive
  have shift : (significand * 2 ^ exponent).log2 - 52 = exponent := by
    rcases filled with rfl | filled
    · have := (Nat.log2_lt some).mpr below
      rw [Nat.pow_zero, Nat.mul_one]
      omega
    · have nonzero : significand * 2 ^ exponent ≠ 0 :=
        Nat.mul_ne_zero some (Nat.pos_iff_ne_zero.mp (Nat.two_pow_pos exponent))
      have size : (significand * 2 ^ exponent).log2 = 52 + exponent := by
        refine (Nat.log2_eq_iff nonzero).mpr ⟨?_, ?_⟩
        · rw [Nat.pow_add]
          exact Nat.mul_le_mul_right _ filled
        · rw [Nat.add_right_comm, Nat.pow_add]
          exact Nat.mul_lt_mul_of_pos_right below (Nat.two_pow_pos _)
      omega
  have kept : roundHalfEven (significand * 2 ^ exponent * unit) (unit * 2 ^ exponent) =
      significand := by
    rw [Nat.mul_assoc, Nat.mul_comm (2 ^ exponent)]
    exact roundHalfEven_exact (Nat.mul_pos positive (Nat.two_pow_pos _)) _
  have uncarried : significand ≠ 2 ^ 53 := Nat.ne_of_lt below
  simp only [twoPower_eq, whole, shift, kept, uncarried, if_false]
  exact if_neg (Nat.not_lt.mpr inRange)

end Binary64

end RapidLang
