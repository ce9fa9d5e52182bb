import SheetFormula.Number.Basic

namespace SheetFormula.Number

/-!
# Exact arithmetic

Arithmetic of integers gives the exact result whenever that is a 64-bit integer.

* `Fits` — the integers that a 64-bit integer can hold; `fit?` finds them
  (`fit?_eq_some_iff`).
* `fit?_boundedPower` — the power that is computed fits exactly if the true power does, and then
  they are equal, however large the exponent.
* `IsExactly` — a number that is an integer with a given value.  Sums, differences, products,
  negatives and powers of such numbers are exact as long as their values fit.
-/

variable {a b m n : Int} {x y : Number} {i : Int64} {k : Nat}

/-! ### Integers that fit -/

/-- Is there a 64-bit integer with this value? -/
def Fits (n : Int) : Prop := Int64.minValue.toInt ≤ n ∧ n ≤ Int64.maxValue.toInt

instance : DecidablePred Fits := fun n =>
  inferInstanceAs (Decidable (Int64.minValue.toInt ≤ n ∧ n ≤ Int64.maxValue.toInt))

/-- The bounds as numerals. -/
theorem fits_iff : Fits n ↔ -9223372036854775808 ≤ n ∧ n ≤ 9223372036854775807 := Iff.rfl

theorem fits_toInt (i : Int64) : Fits i.toInt := ⟨i.minValue_le_toInt, i.toInt_le⟩

/-- An integer in the range is kept by narrowing. -/
theorem toInt_ofInt_of_fits (h : Fits n) : (Int64.ofInt n).toInt = n := by
  rw [fits_iff] at h
  exact Int64.toInt_ofInt_of_le (by omega) (by omega)

theorem toInt_ofNat_of_fits (h : Fits k) : (Int64.ofNat k).toInt = k := by
  rw [fits_iff] at h
  exact Int64.toInt_ofNat_of_lt (by omega)

/-- A natural number fits if a larger one does. -/
theorem fits_of_le {j : Nat} (h : Fits k) (hj : j ≤ k) : Fits j := by
  rw [fits_iff] at h ⊢
  omega

/-- The smaller of two 64-bit integers is the smaller of the integers they stand for. -/
theorem toInt_min (i j : Int64) : (min i j).toInt = min i.toInt j.toInt := by
  show (if i ≤ j then i else j).toInt = _
  rw [Int.min_def, apply_ite Int64.toInt]
  by_cases h : i ≤ j
  · rw [if_pos h, if_pos (Int64.le_iff_toInt_le.mp h)]
  · rw [if_neg h, if_neg fun h' => h (Int64.le_iff_toInt_le.mpr h')]

/-- Narrowing gives the 64-bit integer with the same value, if there is one. -/
theorem fit?_eq_some_iff : fit? n = some i ↔ i.toInt = n := by
  unfold fit?
  split
  · next h =>
    rw [Option.some.injEq, ← Int64.toInt_inj, toInt_ofInt_of_fits h, eq_comm]
  · next h =>
    refine iff_of_false nofun ?_
    rintro rfl
    exact h (fits_toInt i)

theorem exists_fit? (h : Fits n) : ∃ i, fit? n = some i ∧ i.toInt = n :=
  ⟨Int64.ofInt n, if_pos h, toInt_ofInt_of_fits h⟩

theorem fit?_eq_none (h : ¬ Fits n) : fit? n = none := if_neg h

/-! ### Powers -/

/-- The recursion of powers, for `Int.pow` by its own name. -/
theorem pow_succ (b : Int) (k : Nat) : b.pow (k + 1) = b.pow k * b := Int.pow_succ b k

/-- The size of a power is the power of the size. -/
theorem natAbs_pow (b : Int) (k : Nat) : (b.pow k).natAbs = b.natAbs.pow k := Int.natAbs_pow b k

/-- A large power of a number that is not `-1`, `0` or `1` does not fit. -/
theorem not_fits_pow (hb : 1 < b.natAbs) (hk : 64 ≤ k) : ¬ Fits (b.pow k) := by
  have hbase : Nat.pow 2 k ≤ b.natAbs.pow k := Nat.pow_le_pow_left hb k
  have hexponent : Nat.pow 2 64 ≤ Nat.pow 2 k := Nat.pow_le_pow_right (by decide) hk
  have hsize : 18446744073709551616 ≤ (b.pow k).natAbs := by
    rw [natAbs_pow]
    exact Nat.le_trans hexponent hbase
  rw [fits_iff]
  omega

/-- The powers of `-1`, `0` and `1` repeat with period two, from the first one on. -/
theorem pow_add_two_mul (hb : b.natAbs ≤ 1) (hk : 0 < k) (j : Nat) :
    b.pow (k + 2 * j) = b.pow k := by
  -- The base is its own cube, so two more factors make no difference.
  have hcube : b * b * b = b := by
    have hcases : b = -1 ∨ b = 0 ∨ b = 1 := by omega
    rcases hcases with rfl | rfl | rfl <;> rfl
  have hperiod : ∀ l, 0 < l → b.pow (l + 2) = b.pow l := by
    intro l hl
    obtain ⟨l, rfl⟩ : ∃ l', l = l' + 1 := ⟨l - 1, by omega⟩
    have hone : b.pow (l + 1) = b.pow l * b := pow_succ b l
    have hthree : b.pow (l + 1 + 2) = b.pow l * (b * b * b) := by
      rw [pow_succ b (l + 2), pow_succ b (l + 1), hone, Int.mul_assoc, Int.mul_assoc, Int.mul_assoc]
    rw [hthree, hone, hcube]
  induction j with
  | zero => rfl
  | succ j ih =>
    have hstep : k + 2 * (j + 1) = k + 2 * j + 2 := by omega
    rw [hstep, hperiod _ (by omega), ih]

/-- **The computed power.** It fits if and only if the exact power does, and is equal to it then. -/
theorem fit?_boundedPower (b : Int) (k : Nat) : fit? (boundedPower b k) = fit? (b.pow k) := by
  unfold boundedPower
  split
  · rfl
  · next hk =>
    split
    · next hb =>
      have hbounded : ¬ Fits (b.pow 64) := not_fits_pow hb (Nat.le_refl 64)
      have hexact : ¬ Fits (b.pow k) := not_fits_pow hb (by omega)
      rw [fit?_eq_none hbounded, fit?_eq_none hexact]
    · next hb =>
      -- The exponents differ by an even number.
      have hexponent : k = 64 + k % 2 + 2 * ((k - 64) / 2) := by omega
      have hpow := pow_add_two_mul (b := b) (by omega) (k := 64 + k % 2) (by omega) ((k - 64) / 2)
      rw [← hexponent] at hpow
      rw [hpow]

/-! ### Exact results -/

/-- Is the number the 64-bit integer with this value? -/
def IsExactly (n : Int) (x : Number) : Prop := ∃ i : Int64, x = .int i ∧ i.toInt = n

/-- An integer number is exactly the integer it holds. -/
theorem isExactly_int (i : Int64) : IsExactly i.toInt (.int i) := ⟨i, rfl, rfl⟩

/-- A count within the range is exactly itself. -/
theorem isExactly_ofNat (h : Fits k) : IsExactly k (.int (Int64.ofNat k)) :=
  ⟨_, rfl, toInt_ofNat_of_fits h⟩

/-- An operation that falls back to doubles is exact where the exact result fits. -/
theorem isExactly_intOr (h : Fits n) (z : Float) : IsExactly n (intOr n z) := by
  obtain ⟨i, hi, hn⟩ := exists_fit? h
  unfold intOr
  rw [hi]
  exact ⟨i, rfl, hn⟩

namespace IsExactly

/-- What is exactly an integer is finite. -/
theorem isFinite (h : IsExactly n x) : x.isFinite = true := by
  obtain ⟨i, rfl, -⟩ := h
  rfl

/-- **Sums** in the range are computed without rounding. -/
theorem add (hx : IsExactly a x) (hy : IsExactly b y) (h : Fits (a + b)) :
    IsExactly (a + b) (x + y) := by
  obtain ⟨i, rfl, rfl⟩ := hx
  obtain ⟨j, rfl, rfl⟩ := hy
  exact isExactly_intOr h _

/-- **Differences** in the range are computed without rounding. -/
theorem sub (hx : IsExactly a x) (hy : IsExactly b y) (h : Fits (a - b)) :
    IsExactly (a - b) (x - y) := by
  obtain ⟨i, rfl, rfl⟩ := hx
  obtain ⟨j, rfl, rfl⟩ := hy
  exact isExactly_intOr h _

/-- **Products** in the range are computed without rounding. -/
theorem mul (hx : IsExactly a x) (hy : IsExactly b y) (h : Fits (a * b)) :
    IsExactly (a * b) (x * y) := by
  obtain ⟨i, rfl, rfl⟩ := hx
  obtain ⟨j, rfl, rfl⟩ := hy
  exact isExactly_intOr h _

/-- **Negation** in the range is exact; only the least integer has no counterpart. -/
theorem neg (hx : IsExactly a x) (h : Fits (-a)) : IsExactly (-a) (-x) := by
  obtain ⟨i, rfl, rfl⟩ := hx
  exact isExactly_intOr h _

/-- **Powers** in the range are computed without rounding, if the exponent is a natural number of 32
    bits. -/
theorem pow (hx : IsExactly a x) (hy : IsExactly b y) (hb : 0 ≤ b) (hsize : b.toNat < UInt32.size)
    (h : Fits (a.pow b.toNat)) : IsExactly (a.pow b.toNat) (x ^ y) := by
  obtain ⟨i, rfl, rfl⟩ := hx
  obtain ⟨j, rfl, rfl⟩ := hy
  obtain ⟨r, hr, hvalue⟩ := exists_fit? h
  -- The exponent is small enough for the exact power, and its result fits.
  have hpower : exactPower? i.toInt j.toInt = some r := by
    unfold exactPower?
    rw [if_pos ⟨hb, hsize⟩, fit?_boundedPower, hr]
  refine ⟨r, ?_, hvalue⟩
  show Number.pow (.int i) (.int j) = .int r
  simp only [Number.pow, hpower, Option.map_some, Option.getD_some]

end IsExactly

end SheetFormula.Number
