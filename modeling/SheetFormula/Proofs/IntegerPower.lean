import SheetFormula.Proofs.ExactArithmetic

namespace SheetFormula.Number

/-!
# Powers of integers

A power of two integers is the exact integer if the exponent is an unsigned 32-bit integer and the
exact power a 64-bit one, and a double otherwise.  Where the exponent is larger, the exact power is
a 64-bit integer for the bases `-1`, `0` and `1` only; these are the powers that could be integers
and are not.

* `exactPower?_eq_some_iff` — when the power is computed in integers, and what it is then.
* `fits_pow_iff` — the bases all of whose large powers fit.
* `power_of_integers` — what a power of two integers is.
* `power_forgets_parity` — a large exponent is rounded to a double, so that the power of `-1` can
  have the wrong sign.
-/

variable {b e : Int} {i : Int64} {k : Nat}

/-! ### Exact powers -/

/-- A power is computed exactly if the exponent has 32 bits and no sign, and then it is the
    power. -/
theorem exactPower?_eq_some_iff :
    exactPower? b e = some i ↔ 0 ≤ e ∧ e < UInt32.size ∧ i.toInt = b.pow e.toNat := by
  unfold exactPower?
  split
  · next h =>
    rw [fit?_boundedPower, fit?_eq_some_iff]
    have hsize : e < UInt32.size := by omega
    exact ⟨fun hi => ⟨h.1, hsize, hi⟩, fun hi => hi.2.2⟩
  · next h =>
    refine iff_of_false nofun ?_
    rintro ⟨hnonneg, hsize, -⟩
    exact h ⟨hnonneg, by omega⟩

/-- It is not computed exactly for any other exponent, or where the power does not fit. -/
theorem exactPower?_eq_none_iff :
    exactPower? b e = none ↔ ¬ (0 ≤ e ∧ e < UInt32.size ∧ Fits (b.pow e.toNat)) := by
  rw [Option.eq_none_iff_forall_not_mem]
  simp only [Option.mem_def, exactPower?_eq_some_iff]
  constructor
  · rintro h ⟨hnonneg, hsize, hfits⟩
    exact h _ ⟨hnonneg, hsize, toInt_ofInt_of_fits hfits⟩
  · rintro h i ⟨hnonneg, hsize, hi⟩
    exact h ⟨hnonneg, hsize, hi ▸ fits_toInt i⟩

/-- **Large powers that fit.**  From exponent 64 on they are the powers of `-1`, `0` and `1`. -/
theorem fits_pow_iff (hk : 64 ≤ k) : Fits (b.pow k) ↔ b.natAbs ≤ 1 := by
  constructor
  · intro h
    exact Nat.not_lt.mp fun hb => not_fits_pow hb hk h
  · intro hb
    -- Powers of the three small bases stay as small as their base.
    have hsize : (b.pow k).natAbs ≤ Nat.pow 1 k := by
      rw [natAbs_pow]
      exact Nat.pow_le_pow_left hb k
    have hone : Nat.pow 1 k = 1 := Nat.one_pow k
    rw [fits_iff]
    omega

/-- A power of integers is the exact one if there is one, and otherwise that of the two doubles. -/
theorem pow_int_int (x y : Int64) :
    pow (.int x) (.int y) = ((exactPower? x.toInt y.toInt).map .int).getD
      (.float (Float.pow (toFloat (.int x)) (toFloat (.int y)))) := rfl

/-- A power of integers is an integer only if it is computed exactly. -/
theorem pow_eq_int_iff {x y : Int64} :
    pow (.int x) (.int y) = .int i ↔ exactPower? x.toInt y.toInt = some i := by
  rw [pow_int_int]
  cases exactPower? x.toInt y.toInt with
  | none => simp
  | some j => simp

/-- Where no exact power is computed, the doubles are raised. -/
theorem pow_eq_float {x y : Int64}
    (h : ¬ (0 ≤ y.toInt ∧ y.toInt < UInt32.size ∧ Fits (x.toInt.pow y.toInt.toNat))) :
    pow (.int x) (.int y) = .float (Float.pow (toFloat (.int x)) (toFloat (.int y))) := by
  rw [pow_int_int, exactPower?_eq_none_iff.mpr h]
  rfl

/-! ### The power of two integers -/

/-- **Powers of integers.**  The power is an integer exactly if the exponent lies between zero and
    the largest unsigned 32-bit integer and the exact power fits 64 bits, and then it is the exact
    power.  Otherwise it is the power of the two doubles.  With an exponent above this limit the
    exact power still fits if the base is `-1`, `0` or `1`, and for no other base. -/
theorem power_of_integers (x y : Int64) :
    (∀ i : Int64, pow (.int x) (.int y) = .int i ↔
      0 ≤ y.toInt ∧ y.toInt < UInt32.size ∧ i.toInt = x.toInt.pow y.toInt.toNat) ∧
    (¬ (0 ≤ y.toInt ∧ y.toInt < UInt32.size ∧ Fits (x.toInt.pow y.toInt.toNat)) →
      pow (.int x) (.int y) = .float (Float.pow (toFloat (.int x)) (toFloat (.int y)))) ∧
    (UInt32.size ≤ y.toInt →
      (Fits (x.toInt.pow y.toInt.toNat) ↔ x.toInt ∈ [-1, 0, 1])) := by
  refine ⟨fun i => pow_eq_int_iff.trans exactPower?_eq_some_iff, pow_eq_float, fun h => ?_⟩
  -- The exponent is far above 64, where only three bases have powers that fit.
  have hsize : (UInt32.size : Int) = 4294967296 := rfl
  rw [fits_pow_iff (by omega)]
  simp only [List.mem_cons, List.not_mem_nil, or_false]
  omega

/-- The smallest integer is a power of `-2`, and the next power of it is none. -/
theorem power_of_integers_smallest :
    pow (.int (-2)) (.int 63) = .int Int64.minValue ∧
      pow (.int (-2)) (.int 65) = .float (Float.pow (toFloat (.int (-2))) (toFloat (.int 65))) :=
  ⟨((power_of_integers (-2) 63).1 Int64.minValue).mpr (by decide),
    (power_of_integers (-2) 65).2.1 (by decide)⟩

/-- **Large exponents lose their parity.**  The exponent `2 ^ 53 + 1` is odd, so the exact power of
    `-1` is `-1`, a 64-bit integer.  The power is not this integer but the same double as for the
    even exponent before it. -/
theorem power_forgets_parity :
    (9007199254740993 : Int64).toInt = 9007199254740993 ∧
      Int.pow (-1) (9007199254740993 : Int64).toInt.toNat = -1 ∧ Fits (-1) ∧
      ¬ IsExactly (-1) (pow (.int (-1)) (.int 9007199254740993)) ∧
      pow (.int (-1)) (.int 9007199254740993) = pow (.int (-1)) (.int 9007199254740992) := by
  have hodd : (9007199254740993 : Int64).toInt = 9007199254740993 := by decide
  have heven : (9007199254740992 : Int64).toInt = 9007199254740992 := by decide
  have hpower : Int.pow (-1) (9007199254740993 : Int64).toInt.toNat = -1 := by
    have hexponent : (9007199254740993 : Int64).toInt.toNat = 1 + 2 * 4503599627370496 := by
      rw [hodd]
      rfl
    rw [hexponent, pow_add_two_mul (by decide) Nat.one_pos]
    rfl
  have hlarge : (UInt32.size : Int) = 4294967296 := rfl
  have hfloat := pow_eq_float (x := -1) (y := 9007199254740993) fun h => by omega
  have hfloat' := pow_eq_float (x := -1) (y := 9007199254740992) fun h => by omega
  -- Both exponents become the same double.
  have hrounded : toFloat (.int 9007199254740993) = toFloat (.int 9007199254740992) := by
    decide +kernel
  refine ⟨hodd, hpower, by decide, ?_, by rw [hfloat, hfloat', hrounded]⟩
  rintro ⟨i, hi, -⟩
  rw [hfloat] at hi
  cases hi

end SheetFormula.Number
