import SheetFormula.Number.Text
import SheetFormula.Proofs.ExactArithmetic

namespace SheetFormula

/-!
# Decimal integers read back

An integer that is written in decimal digits is read as the same integer.

* `Decimal.ofDigits_digitsOf` — the digits of a natural number denote it.
* `Decimal.head_digitsOf_ne_zero` — they do not start with a superfluous zero.
* `Number.ofText?_intText` — a text number that spells a 64-bit integer is that integer, from the
  smallest one to the largest.
-/

/-! ### Digits -/

namespace Decimal

variable {c : Char} {n : Nat}

/-- A natural number is printed in digits and nothing else. -/
theorem isDigit_of_mem_digitsOf (h : c ∈ digitsOf n) : c.isDigit = true :=
  Nat.isDigit_of_mem_toDigits (by decide) (by decide) h

theorem digitsOf_ne_nil (n : Nat) : digitsOf n ≠ [] := Nat.toDigits_ne_nil

/-- A number other than zero has no zero in front. -/
theorem head_digitsOf_ne_zero (h : n ≠ 0) : (digitsOf n).head? ≠ some '0' := by
  -- The first digit of a number is that of the number without its last digit.
  induction n using Nat.strongRecOn with
  | ind n ih =>
    unfold digitsOf
    by_cases hn : n < 10
    · rw [Nat.toDigits_of_lt_base hn]
      have hdigit : ∀ k : Fin 10, (k : Nat) ≠ 0 → [(k : Nat).digitChar].head? ≠ some '0' := by
        decide
      exact hdigit ⟨n, hn⟩ h
    · have hrest := ih (n / 10) (by omega) (by omega)
      obtain ⟨c, cs, hcs⟩ := List.exists_cons_of_ne_nil (digitsOf_ne_nil (n / 10))
      rw [hcs] at hrest
      rw [Nat.toDigits_of_base_le (by decide) (by omega),
        show Nat.toDigits 10 (n / 10) = c :: cs from hcs]
      exact hrest

/-- The digits of a number denote it. -/
theorem ofDigits_digitsOf (n : Nat) : ofDigits (digitsOf n) = n := by
  rw [ofDigits, ← Nat.ofDigitChars_eq_foldl]
  exact Nat.ofDigitChars_ten_toDigits

/-- The characters of an integer are digits, after a minus sign. -/
theorem mem_ofInt {k : Int} (h : c ∈ ofInt k) : c = '-' ∨ c.isDigit = true := by
  unfold ofInt at h
  split at h
  · rcases List.mem_cons.mp h with hc | hc
    · exact .inl hc
    · exact .inr (isDigit_of_mem_digitsOf hc)
  · exact .inr (isDigit_of_mem_digitsOf h)

end Decimal

/-! ### Blanks -/

namespace Text

/-- No blank is a digit or a minus sign. -/
theorem isBlank_eq_false {c : Char} (h : c = '-' ∨ c.isDigit = true) : isBlank c = false := by
  rcases h with rfl | h
  · decide
  · have hrange : 48 ≤ c.toNat ∧ c.toNat ≤ 57 := by
      simp only [Char.isDigit, Bool.and_eq_true, decide_eq_true_eq, UInt32.le_iff_toNat_le,
        ge_iff_le] at h
      exact h
    simp only [isBlank, CharSet.contains, blanks, List.any_cons, List.any_nil, Bool.or_false,
      Bool.or_eq_false_iff, Bool.and_eq_false_iff, decide_eq_false_iff_not]
    omega

/-- A text without blanks stays as it is. -/
theorem trim_eq_self {cs : List Char} (h : ∀ c ∈ cs, isBlank c = false) : trim cs = cs := by
  have hkeep : ∀ ds : List Char, (∀ c ∈ ds, isBlank c = false) → ds.dropWhile isBlank = ds := by
    intro ds hds
    cases ds with
    | nil => rfl
    | cons d ds => exact List.dropWhile_cons_of_neg (by simp [hds d List.mem_cons_self])
  have hreverse : ∀ c ∈ cs.reverse, isBlank c = false := fun c hc => h c (List.mem_reverse.mp hc)
  rw [trim, hkeep cs h, hkeep cs.reverse hreverse, List.reverse_reverse]

end Text

/-! ### Integers -/

namespace Number

theorem splitSign_of_isDigit {cs : List Char} (h : ∀ c ∈ cs, c.isDigit = true) :
    splitSign cs = (false, cs) := by
  unfold splitSign
  split
  · exact absurd (h '-' List.mem_cons_self) (by decide)
  · exact absurd (h '+' List.mem_cons_self) (by decide)
  · rfl

section
variable {ds : List Char} (hne : ds ≠ []) (hds : ∀ c ∈ ds, c.isDigit = true)
include hne hds

/-- Digits are read as the number that they denote, if it fits. -/
theorem intOfText?_digits : intOfText? ds = fit? (Decimal.ofDigits ds) := by
  unfold intOfText?
  rw [splitSign_of_isDigit hds]
  exact if_pos ⟨hne, List.all_eq_true.mpr hds⟩

/-- A minus sign in front of digits negates the number, as far as it fits. -/
theorem intOfText?_minus : intOfText? ('-' :: ds) = fit? (-(Decimal.ofDigits ds : Int)) := by
  show (if ds ≠ [] ∧ ds.all Char.isDigit then fit? (-(Decimal.ofDigits ds : Int)) else none) = _
  exact if_pos ⟨hne, List.all_eq_true.mpr hds⟩

end

/-- An integer that fits is read from its digits. -/
theorem intOfText?_ofInt (i : Int64) : intOfText? (Decimal.ofInt i.toInt) = some i := by
  have hds : ∀ c ∈ Decimal.digitsOf i.toInt.natAbs, c.isDigit = true :=
    fun c hc => Decimal.isDigit_of_mem_digitsOf hc
  have hne := Decimal.digitsOf_ne_nil i.toInt.natAbs
  unfold Decimal.ofInt
  by_cases hneg : i.toInt < 0
  · have habs : -(i.toInt.natAbs : Int) = i.toInt := by omega
    rw [if_pos hneg, intOfText?_minus hne hds, Decimal.ofDigits_digitsOf, habs]
    exact fit?_eq_some_iff.mpr rfl
  · have habs : (i.toInt.natAbs : Int) = i.toInt := by omega
    rw [if_neg hneg, intOfText?_digits hne hds, Decimal.ofDigits_digitsOf, habs]
    exact fit?_eq_some_iff.mpr rfl

/-- **Integers read back**: the decimal text of a 64-bit integer is a number text for it. -/
theorem ofText?_intText (i : Int64) : ofText? (Decimal.intText i.toInt) = some (.int i) := by
  have htrim : Text.trim (Decimal.ofInt i.toInt) = Decimal.ofInt i.toInt :=
    Text.trim_eq_self fun c hc => Text.isBlank_eq_false (Decimal.mem_ofInt hc)
  unfold ofText? Decimal.intText
  dsimp only
  rw [String.toList_ofList, htrim, intOfText?_ofInt]
  rfl

end Number

end SheetFormula
