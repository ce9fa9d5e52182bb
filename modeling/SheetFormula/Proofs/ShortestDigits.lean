import SheetFormula.Decimal.Numeral
import SheetFormula.Proofs.DecimalText

namespace SheetFormula.Decimal

/-!
# The shortest digits are not zero

The decimal that is written for a double has the digit zero only if the double is a zero, so that
the laid out digits never start with a superfluous zero.

* `digitCount` counts: a number with `k` digits lies in `[10 ^ (k - 1), 10 ^ k)`.
* `Target.denominator_le_numerator` — a target is not smaller than the unit of its first digit.
* `Target.digits_shortest_ne_zero` and `shortest_digits` — the digits that are found.
-/

variable {n step : Nat} {d : Decimal}

/-! ### Digits -/

theorem digitCount_pos (n : Nat) : 0 < digitCount n := Nat.length_toDigits_pos

/-- A number is below the power of ten that has one digit more. -/
theorem lt_pow_digitCount (n : Nat) : n < Nat.pow 10 (digitCount n) :=
  (Nat.length_toDigits_le_iff (by decide) (digitCount_pos n)).mp (Nat.le_refl _)

/-- A number without zeros in front is at least the power of ten with as many digits. -/
theorem pow_digitCount_le (h : n ≠ 0) : Nat.pow 10 (digitCount n - 1) ≤ n := by
  by_cases hone : digitCount n - 1 = 0
  · rw [hone]
    exact Nat.pos_of_ne_zero h
  · refine Nat.not_lt.mp fun hlt => ?_
    have hshort : digitCount n ≤ digitCount n - 1 :=
      (Nat.length_toDigits_le_iff (by decide) (Nat.pos_of_ne_zero hone)).mpr hlt
    omega

/-- Dropping zeros at the end does not make a number zero. -/
theorem digits_dropZeros_ne_zero (h : d.digits ≠ 0) : (dropZeros n d).digits ≠ 0 := by
  -- By induction on the number of digits that may still be dropped.
  induction n generalizing d with
  | zero => exact h
  | succ n ih =>
    unfold dropZeros
    split
    · next hten =>
      refine ih ?_
      show d.digits / 10 ≠ 0
      omega
    · exact h

namespace Target

variable {t : Target} {tie : Tie} {step : Int}

theorem scale_pos (t : Target) (step : Int) : 0 < t.scale step :=
  Nat.mul_pos (Nat.pow_pos (by decide)) (Nat.pow_pos (by decide))

/-- The nearer of two neighbours is the number itself or the next one. -/
theorem le_closer (t : Target) (tie : Tie) (step : Int) (n : Nat) : n ≤ t.closer tie step n := by
  unfold closer
  dsimp only
  repeat' split
  all_goals omega

section
variable (ht : t.significand ≠ 0)
include ht

/-! ### Rounding to zero -/

/-- Half the distance to a neighbour does not reach to zero. -/
theorem readsBack_zero : t.readsBack step 0 = false := by
  have hscale := t.scale_pos step
  have hvalue : t.scale step ≤ t.numerator step := Nat.le_mul_of_pos_left _ (by omega)
  have hbelow : (if t.narrowBelow then 1 else 2) * t.scale step ≤ 2 * t.scale step :=
    Nat.mul_le_mul_right _ (by split <;> omega)
  unfold readsBack
  dsimp only
  rw [Nat.zero_mul]
  generalize (if t.narrowBelow then 1 else 2) * t.scale step = below at hbelow ⊢
  split <;> simp only [Bool.and_eq_false_iff, decide_eq_false_iff_not] <;> exact .inl (by omega)

/-- Zero is never taken as a candidate. -/
theorem digits_onGrid?_ne_zero (h : t.onGrid? tie step = some d) : d.digits ≠ 0 := by
  -- Zero does not round to the target, so the lower grid point is no zero if it does.
  have hlower : ∀ {n : Nat}, t.readsBack step n = true → n ≠ 0 := by
    rintro n hn rfl
    rw [readsBack_zero ht] at hn
    cases hn
  unfold onGrid? at h
  dsimp only at h
  split at h
  · next hback _ =>
    cases h
    have hpos := Nat.pos_of_ne_zero (hlower hback)
    exact Nat.ne_of_gt (Nat.lt_of_lt_of_le hpos (t.le_closer tie step _))
  · next hback _ =>
    cases h
    exact hlower hback
  · cases h
    exact Nat.succ_ne_zero _
  · cases h

/-! ### The leading digit -/

/-- Below the point of the number a step goes into it at least once. -/
theorem denominator_le_numerator (h : step < t.point) :
    t.denominator step ≤ t.numerator step := by
  have hten : ∀ {j k : Nat}, j ≤ k → Nat.pow 10 j ≤ Nat.pow 10 k :=
    fun hjk => Nat.pow_le_pow_right (by decide) hjk
  unfold point at h
  unfold denominator numerator scale
  rw [← Nat.mul_assoc]
  generalize hN : t.significand * Nat.pow 2 t.exponent.toNat = N at h ⊢
  generalize hD : Nat.pow 2 (-t.exponent).toNat = D at h ⊢
  have hNpos : 0 < N := hN ▸ Nat.mul_pos (Nat.pos_of_ne_zero ht) (Nat.pow_pos (by decide))
  have hDpos : 0 < D := hD ▸ Nat.pow_pos (by decide)
  dsimp only at h
  split at h
  · next hle =>
    -- The target has `digitCount (N / D)` digits before its point.
    have hquotient : N / D ≠ 0 := Nat.ne_of_gt (Nat.div_pos hle hDpos)
    have hdigits : D * Nat.pow 10 step.toNat ≤ N := calc
      D * Nat.pow 10 step.toNat
        ≤ D * Nat.pow 10 (digitCount (N / D) - 1) := Nat.mul_le_mul_left D (hten (by omega))
      _ ≤ D * (N / D) := Nat.mul_le_mul_left D (pow_digitCount_le hquotient)
      _ ≤ N := Nat.mul_div_le N D
    exact Nat.le_trans hdigits (Nat.le_mul_of_pos_right N (Nat.pow_pos (by decide)))
  · next hlt =>
    -- It is smaller than one, but not by more than `digitCount (D / N)` digits.
    have hwhole : step.toNat = 0 := by omega
    have hdigits : D ≤ N * Nat.pow 10 (digitCount (D / N)) := calc
      D ≤ N * (D / N + 1) := Nat.le_of_lt (Nat.lt_mul_div_succ D hNpos)
      _ ≤ N * Nat.pow 10 (digitCount (D / N)) := Nat.mul_le_mul_left N (lt_pow_digitCount _)
    rw [hwhole]
    calc D * Nat.pow 10 0
        = D := Nat.mul_one D
      _ ≤ N * Nat.pow 10 (digitCount (D / N)) := hdigits
      _ ≤ N * Nat.pow 10 (-step).toNat := Nat.mul_le_mul_left N (hten (by omega))

/-- The digits that are found, or the first seventeen if none were, are not zero. -/
theorem digits_shortest_ne_zero : (t.shortest tie).digits ≠ 0 := by
  unfold shortest
  refine digits_dropZeros_ne_zero ?_
  -- Some length reads back, or all seventeen digits are taken.
  cases hfound : lengths.findSome? fun (n : Nat) => t.onGrid? tie (t.point - n) with
  | some d =>
    obtain ⟨n, -, hn⟩ := List.exists_of_findSome?_eq_some hfound
    exact digits_onGrid?_ne_zero ht hn
  | none =>
    have hpos : 0 < t.denominator (t.point - 17) :=
      Nat.mul_pos (Nat.pow_pos (by decide)) (Nat.pow_pos (by decide))
    exact Nat.ne_of_gt (Nat.div_pos (denominator_le_numerator ht (by omega)) hpos)

end

end Target

/-! ### Doubles -/

/-- A number other than zero has a significand other than zero. -/
theorem significand_ne_zero {x : Float} (h : Binary64.isZero x = false) :
    Binary64.significand x ≠ 0 := by
  have hmagnitude : Binary64.magnitude x ≠ 0 := by
    simpa only [Binary64.isZero, beq_eq_false_iff_ne] using h
  unfold Binary64.significand Binary64.biasedExponent
  dsimp only
  -- A normal number has its leading bit, and a subnormal one its magnitude.
  split
  · next hsubnormal =>
    unfold Binary64.leadingBit at *
    omega
  · unfold Binary64.leadingBit
    omega

/-- **The digits of a double** are zero only for a zero, which has the exponent zero. -/
theorem shortest_digits (tie : Tie) (x : Float) :
    (shortest tie x).digits ≠ 0 ∨ shortest tie x = ⟨0, 0⟩ := by
  unfold shortest
  split
  · exact .inr rfl
  · next h => exact .inl (Target.digits_shortest_ne_zero (significand_ne_zero (by simpa using h)))

end SheetFormula.Decimal
