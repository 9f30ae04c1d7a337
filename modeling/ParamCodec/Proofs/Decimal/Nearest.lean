import ParamCodec.Decimal.Shortest
import ParamCodec.Proofs.Decimal.Narrowing

namespace ParamCodec

/-- What a division leaves, as a part of the divisor. -/
theorem div_eq_quotient_add {numerator denominator : Nat} (positive : denominator ≠ 0) :
    (numerator : ℚ) / denominator =
      (numerator / denominator : Nat) + ((numerator % denominator : Nat) : ℚ) / denominator := by
  have divisor : (denominator : ℚ) ≠ 0 := Nat.cast_ne_zero.mpr positive
  have whole : (numerator : ℚ) =
      denominator * (numerator / denominator : Nat) + (numerator % denominator : Nat) := by
    exact_mod_cast (Nat.div_add_mod numerator denominator).symm
  rw [eq_comm, eq_div_iff divisor, add_mul, div_mul_cancel₀ _ divisor, mul_comm]
  exact whole.symm

/-- The part that a division leaves decides between the two integers around a quotient. -/
theorem roundHalfEven_eq_ite {numerator denominator : Nat} (positive : denominator ≠ 0) :
    roundHalfEven numerator denominator =
      if ((numerator % denominator : Nat) : ℚ) / denominator < 1 / 2 then numerator / denominator
      else if 1 / 2 < ((numerator % denominator : Nat) : ℚ) / denominator then numerator / denominator + 1
      else numerator / denominator + numerator / denominator % 2 := by
  have divisor : (0 : ℚ) < denominator := Nat.cast_pos.mpr (Nat.pos_of_ne_zero positive)
  have below : ((numerator % denominator : Nat) : ℚ) / denominator < 1 / 2 ↔
      2 * (numerator % denominator) < denominator := by
    rw [div_lt_div_iff₀ divisor two_pos, one_mul, mul_comm]
    exact_mod_cast Iff.rfl
  have above : 1 / 2 < ((numerator % denominator : Nat) : ℚ) / denominator ↔
      denominator < 2 * (numerator % denominator) := by
    rw [div_lt_div_iff₀ two_pos divisor, one_mul, mul_comm]
    exact_mod_cast Iff.rfl
  simp only [below, above]
  rfl

/-- A quotient is rounded to an integer that is no further away than a half, to an odd one only if it is
nearer than that. -/
theorem roundHalfEven_eq {numerator denominator nearest : Nat} (positive : denominator ≠ 0)
    (lower : (nearest : ℚ) - 1 / 2 ≤ numerator / denominator)
    (upper : (numerator : ℚ) / denominator ≤ nearest + 1 / 2)
    (inside : nearest % 2 = 1 → (nearest : ℚ) - 1 / 2 < numerator / denominator ∧
      (numerator : ℚ) / denominator < nearest + 1 / 2) :
    roundHalfEven numerator denominator = nearest := by
  have divisor : (0 : ℚ) < denominator := Nat.cast_pos.mpr (Nat.pos_of_ne_zero positive)
  have small : ((numerator % denominator : Nat) : ℚ) / denominator < 1 :=
    (div_lt_one divisor).mpr (Nat.cast_lt.mpr (Nat.mod_lt _ (Nat.pos_of_ne_zero positive)))
  have nonneg : (0 : ℚ) ≤ ((numerator % denominator : Nat) : ℚ) / denominator := by positivity
  rw [roundHalfEven_eq_ite positive]
  rw [div_eq_quotient_add positive] at lower upper inside
  generalize ((numerator % denominator : Nat) : ℚ) / denominator = part at *
  generalize numerator / denominator = quotient at *
  -- The integer is the one below the quotient or the one above it; only a part of a half leaves a choice.
  have least : quotient ≤ nearest := by
    by_contra! larger
    have larger : (nearest : ℚ) + 1 ≤ quotient := by exact_mod_cast larger
    linarith
  have greatest : nearest ≤ quotient + 1 := by
    by_contra! larger
    have larger : (quotient : ℚ) + 2 ≤ nearest := by exact_mod_cast larger
    linarith
  rcases least.eq_or_lt with rfl | larger
  · have half : part ≤ 1 / 2 := by linarith
    by_cases short : part < 1 / 2
    · rw [if_pos short]
    · have even : quotient % 2 = 0 := by
        by_contra odd
        have strict := inside (by omega)
        exact short (by linarith [strict.2])
      rw [if_neg short, if_neg (not_lt.mpr half), even, Nat.add_zero]
  · obtain rfl : nearest = quotient + 1 := by omega
    push_cast at lower inside
    have half : 1 / 2 ≤ part := by linarith
    rw [if_neg (not_lt.mpr half)]
    by_cases long : 1 / 2 < part
    · rw [if_pos long]
    · have odd : quotient % 2 = 1 := by
        by_contra even
        have strict := inside (by omega)
        exact long (by linarith [strict.1])
      rw [if_neg long, odd]

namespace BinaryFormat

variable {format : BinaryFormat} {numerator denominator : Nat} {magnitude : Magnitude}

/-- The part of the last place by which the numbers that round to a magnitude reach below it. -/
def reachBelow (format : BinaryFormat) (magnitude : Magnitude) : ℚ :=
  if Shortest.isNarrowBelow format magnitude then 1 / 4 else 1 / 2

/-- The numbers that round to a magnitude, from the middle of the gap below it to the middle of the gap
above it. Both middles belong to an even significand. -/
structure Identifies (format : BinaryFormat) (value : ℚ) (magnitude : Magnitude) : Prop where
  lower : (magnitude.significand - format.reachBelow magnitude) * 2 ^ magnitude.exponent ≤ value
  upper : value ≤ (magnitude.significand + 1 / 2) * 2 ^ magnitude.exponent
  inside : magnitude.significand % 2 = 1 →
    (magnitude.significand - format.reachBelow magnitude) * 2 ^ magnitude.exponent < value ∧
      value < (magnitude.significand + 1 / 2) * 2 ^ magnitude.exponent

/-- Above a power of two the gap below a magnitude is half as wide, unless it has the least exponent.
-/
theorem reachBelow_cases (format : BinaryFormat) (magnitude : Magnitude) :
    (magnitude.significand = 2 ^ (format.precision - 1) ∧ format.leastExponent < magnitude.exponent ∧
      format.reachBelow magnitude = 1 / 4) ∨
    (¬ (magnitude.significand = 2 ^ (format.precision - 1) ∧ format.leastExponent < magnitude.exponent) ∧
      format.reachBelow magnitude = 1 / 2) := by
  have narrow : Shortest.isNarrowBelow format magnitude = true ↔
      magnitude.significand = 2 ^ (format.precision - 1) ∧ format.leastExponent < magnitude.exponent := by
    rw [Shortest.isNarrowBelow, Bool.and_eq_true, beq_iff_eq, decide_eq_true_eq, Nat.pow_eq]
  unfold reachBelow
  split_ifs with below
  · exact .inl ⟨(narrow.mp below).1, (narrow.mp below).2, rfl⟩
  · exact .inr ⟨narrow.not.mp below, rfl⟩

/-- Below a magnitude the numbers that round to it reach half of its last place at most. -/
theorem reachBelow_le (format : BinaryFormat) (magnitude : Magnitude) :
    format.reachBelow magnitude ≤ 1 / 2 := by
  rcases format.reachBelow_cases magnitude with ⟨_, _, reach⟩ | ⟨_, reach⟩ <;> rw [reach]
  norm_num

/-- The widest significand at one exponent less is half as much as at the exponent. -/
theorem half_scale (wide : 0 < format.precision) (exponent : Int) :
    (2 : ℚ) ^ format.precision * 2 ^ (exponent - 1) = 2 ^ (format.precision - 1) * 2 ^ exponent := by
  rw [scale_succ wide, Int.sub_add_cancel]

/-- The exponent for a quotient is the one at which it fits and has a significand of full width. -/
theorem exponentOf_eq {exponent : Int} (wide : 0 < format.precision) (nonzero : numerator ≠ 0)
    (positive : denominator ≠ 0) (least : format.leastExponent ≤ exponent)
    (fits : (numerator : ℚ) / denominator < 2 ^ format.precision * 2 ^ exponent)
    (full : exponent = format.leastExponent ∨
      2 ^ (format.precision - 1) * 2 ^ exponent ≤ (numerator : ℚ) / denominator) :
    format.exponentOf numerator denominator = exponent := by
  refine le_antisymm (exponentOf_le wide nonzero positive least ((fitsAt_iff positive).mpr fits)) ?_
  rcases full with rfl | full
  · exact le_max_right _ _
  · by_contra! below
    have smaller : format.FitsAt numerator denominator (exponent - 1) :=
      (fitsAt_exponentOf wide positive).mono (by omega)
    rw [fitsAt_iff positive, half_scale wide] at smaller
    exact absurd smaller (not_lt.mpr full)

/-- Scaling a quotient by a power of two divides it by that power. -/
theorem scaled_div (positive : denominator ≠ 0) (exponent : Int) :
    ((numerator * 2 ^ (-exponent).toNat : Nat) : ℚ) / (denominator * 2 ^ exponent.toNat : Nat) =
      numerator / denominator / 2 ^ exponent := by
  have divisor : (denominator : ℚ) ≠ 0 := Nat.cast_ne_zero.mpr positive
  rw [zpow_eq_toNat]
  push_cast
  field_simp

/-- A quotient is rounded to the significand next to it at its exponent. -/
theorem round_eq_nearest {exponent : Int} (nearest : Nat) (positive : denominator ≠ 0)
    (chosen : format.exponentOf numerator denominator = exponent)
    (lower : ((nearest : ℚ) - 1 / 2) * 2 ^ exponent ≤ numerator / denominator)
    (upper : (numerator : ℚ) / denominator ≤ (nearest + 1 / 2) * 2 ^ exponent)
    (inside : nearest % 2 = 1 → ((nearest : ℚ) - 1 / 2) * 2 ^ exponent < numerator / denominator ∧
      (numerator : ℚ) / denominator < (nearest + 1 / 2) * 2 ^ exponent) :
    format.round numerator denominator =
      let rounded : Magnitude :=
        if nearest = 2 ^ format.precision then ⟨2 ^ (format.precision - 1), exponent + 1⟩
        else ⟨nearest, exponent⟩
      if rounded.exponent ≤ format.greatestExponent then some rounded else none := by
  have power : (0 : ℚ) < 2 ^ exponent := by positivity
  have divisor : denominator * 2 ^ exponent.toNat ≠ 0 :=
    Nat.mul_ne_zero positive (Nat.two_pow_pos _).ne'
  have significand : roundHalfEven (numerator * 2 ^ (-exponent).toNat) (denominator * 2 ^ exponent.toNat) =
      nearest := by
    apply roundHalfEven_eq divisor <;> rw [scaled_div positive]
    · exact (le_div_iff₀ power).mpr lower
    · exact (div_le_iff₀ power).mpr upper
    · exact fun odd => ⟨(lt_div_iff₀ power).mpr (inside odd).1, (div_lt_iff₀ power).mpr (inside odd).2⟩
  simp only [round, chosen, Nat.pow_eq, significand]

/-- Below a power of two the quotient gets the next smaller exponent, and is rounded up to the power. -/
theorem Identifies.round_eq_carried (wide : 0 < format.precision) (nonzero : numerator ≠ 0)
    (positive : denominator ≠ 0)
    (identifies : format.Identifies ((numerator : ℚ) / denominator) magnitude)
    (first : magnitude.significand = 2 ^ (format.precision - 1))
    (least : format.leastExponent < magnitude.exponent)
    (greatest : magnitude.exponent ≤ format.greatestExponent)
    (reach : format.reachBelow magnitude = 1 / 4)
    (below : (numerator : ℚ) / denominator < 2 ^ (format.precision - 1) * 2 ^ magnitude.exponent) :
    format.round numerator denominator = some magnitude := by
  obtain ⟨significand, exponent⟩ := magnitude
  dsimp only at first least greatest below
  have lower : ((significand : ℚ) - format.reachBelow ⟨significand, exponent⟩) * 2 ^ exponent ≤
      numerator / denominator := identifies.lower
  rw [reach, first] at lower
  push_cast at lower
  have power : (0 : ℚ) < 2 ^ (exponent - 1) := by positivity
  have shift : (2 : ℚ) ^ exponent = 2 ^ (exponent - 1) * 2 := by
    rw [← zpow_add_one₀ two_ne_zero, Int.sub_add_cancel]
  have width : (2 : ℚ) ^ format.precision = 2 ^ (format.precision - 1) * 2 := by
    rw [← pow_succ, Nat.sub_add_cancel wide]
  have one : (1 : ℚ) ≤ 2 ^ (format.precision - 1) := one_le_pow₀ one_le_two
  have half : ((2 : ℚ) ^ format.precision - 1 / 2) * 2 ^ (exponent - 1) ≤ numerator / denominator := by
    calc ((2 : ℚ) ^ format.precision - 1 / 2) * 2 ^ (exponent - 1)
        = (2 ^ (format.precision - 1) - 1 / 4) * 2 ^ exponent := by
          rw [shift, width]
          ring
      _ ≤ numerator / denominator := lower
  have chosen : format.exponentOf numerator denominator = exponent - 1 := by
    refine exponentOf_eq wide nonzero positive (by omega) ?_ (.inr ?_)
    · rwa [half_scale wide]
    · refine le_trans (mul_le_mul_of_nonneg_right ?_ power.le) half
      linarith
  -- The rounded significand is a power of two: even, so it may be reached from a half away.
  have even : ¬ 2 ^ format.precision % 2 = 1 := by
    rw [Nat.pow_mod, Nat.mod_self, Nat.zero_pow wide]
    decide
  have upper : (numerator : ℚ) / denominator ≤ ((2 : ℚ) ^ format.precision + 1 / 2) * 2 ^ (exponent - 1) := by
    refine (half_scale wide exponent ▸ below).le.trans (mul_le_mul_of_nonneg_right ?_ power.le)
    linarith
  have rounded := round_eq_nearest (2 ^ format.precision) positive chosen
    (by exact_mod_cast half) (by exact_mod_cast upper) (fun odd => absurd odd even)
  rw [rounded]
  dsimp only
  rw [if_pos rfl, Int.sub_add_cancel, if_pos greatest, first]

/-- What is around a magnitude up to the middles of the gaps is rounded to it. -/
theorem Identifies.round_eq (wide : 0 < format.precision) (form : format.IsCanonical magnitude)
    (nonzero : numerator ≠ 0) (positive : denominator ≠ 0)
    (identifies : format.Identifies ((numerator : ℚ) / denominator) magnitude) :
    format.round numerator denominator = some magnitude := by
  have power : (0 : ℚ) < 2 ^ magnitude.exponent := by positivity
  have narrow : (magnitude.significand : ℚ) + 1 ≤ 2 ^ format.precision := by
    exact_mod_cast form.narrow
  have fits : (numerator : ℚ) / denominator < 2 ^ format.precision * 2 ^ magnitude.exponent :=
    identifies.upper.trans_lt (mul_lt_mul_of_pos_right (by linarith) power)
  have lowerEnd : ((magnitude.significand : ℚ) - 1 / 2) * 2 ^ magnitude.exponent ≤
      (magnitude.significand - format.reachBelow magnitude) * 2 ^ magnitude.exponent :=
    mul_le_mul_of_nonneg_right (sub_le_sub_left (format.reachBelow_le magnitude) _) power.le
  have nearest : format.exponentOf numerator denominator = magnitude.exponent →
      format.round numerator denominator = some magnitude := by
    intro chosen
    have rounded := round_eq_nearest magnitude.significand positive chosen
      (lowerEnd.trans identifies.lower) identifies.upper
      fun odd => ⟨lowerEnd.trans_lt (identifies.inside odd).1, (identifies.inside odd).2⟩
    rw [rounded]
    dsimp only
    rw [if_neg form.narrow.ne, if_pos form.greatest]
  -- Only below a power of two can the quotient get another exponent than the magnitude has.
  rcases format.reachBelow_cases magnitude with ⟨first, least, reach⟩ | ⟨notFirst, reach⟩
  · rcases lt_or_ge ((numerator : ℚ) / denominator)
      (2 ^ (format.precision - 1) * 2 ^ magnitude.exponent) with below | above
    · exact identifies.round_eq_carried wide nonzero positive first least form.greatest reach below
    · exact nearest (exponentOf_eq wide nonzero positive form.least fits (.inr above))
  · refine nearest (exponentOf_eq wide nonzero positive form.least fits ?_)
    rcases form.least.eq_or_lt with least | greater
    · exact .inl least.symm
    · have full := form.full.resolve_left greater.ne'
      have larger : 2 ^ (format.precision - 1) < magnitude.significand :=
        lt_of_le_of_ne full fun same => notFirst ⟨same.symm, greater⟩
      have larger : (2 : ℚ) ^ (format.precision - 1) + 1 ≤ magnitude.significand := by
        exact_mod_cast larger
      refine .inr (le_trans (mul_le_mul_of_nonneg_right ?_ power.le) identifies.lower)
      rw [reach]
      linarith

end BinaryFormat

end ParamCodec
