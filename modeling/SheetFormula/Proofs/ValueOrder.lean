import SheetFormula.Proofs.Comparisons

namespace SheetFormula

/-!
# The order of values

`<=` is meant to order the values that are no errors and no NaNs, and `=` to be an equality of them.
Any two of these values are ordered by `<=`, and every value is equal to itself.  Both are
transitive, but for one exception among numbers: a double can stand between two different integers
that both become this double when they are compared with it.  Such integers are at least `2 ^ 53` in
size.

* `Comparand.atMost_trans_iff` — transitivity of the order, as the order sees the values.
* `Token.sameValue_trans_iff` — transitivity of equality.
* `Operator.order_of_values` — all of this about the operators themselves.
-/

/-! ### The order -/

namespace Comparand

variable {x y z : Comparand}

/-- Does the value come before the other one, or at the same place? -/
def atMost (x y : Comparand) : Bool := (x.compare? y).any Ordering.isLE

/-- Are the outer values integers that both become the double between them? -/
inductive RoundedTogether : Comparand → Comparand → Comparand → Prop
  | numbers {x y z : Number} (h : Number.RoundedTogether x y z) :
    RoundedTogether (.number x) (.number y) (.number z)

/-- Any two values are comparable, apart from NaN. -/
theorem atMost_total (hx : x.isNaN = false) (hy : y.isNaN = false) :
    x.atMost y = true ∨ y.atMost x = true := by
  -- Only two numbers can fail to be comparable, if one of them is NaN.
  have hsome : x.compare? y ≠ none := by
    cases x <;> cases y
    case number.number a b =>
      rw [compare?, ne_eq, Number.compare?_eq_none_iff]
      exact not_or.mpr ⟨Bool.eq_false_iff.mp hx, Bool.eq_false_iff.mp hy⟩
    all_goals rintro ⟨⟩
  obtain ⟨o, ho⟩ := Option.ne_none_iff_exists'.mp hsome
  unfold atMost
  rw [compare?_swap x y, ho]
  cases o <;> decide

/-- **The order is transitive** but for integers that become the same double. -/
theorem atMost_trans_iff (hx : x.isNaN = false) (hy : y.isNaN = false) (hz : z.isNaN = false)
    (hxy : x.atMost y = true) (hyz : y.atMost z = true) :
    x.atMost z = true ↔ ¬ RoundedTogether x y z := by
  cases x <;> cases y <;> cases z
  case number.number.number x y z =>
    refine (Number.atMost_trans_iff hx hy hz hxy hyz).trans (not_congr ⟨.numbers, ?_⟩)
    rintro ⟨h⟩
    exact h
  case text.text.text x y z =>
    exact iff_of_true (Std.TransOrd.isLE_trans hxy hyz) (by rintro ⟨⟩)
  case logical.logical.logical x y z =>
    exact iff_of_true (Std.TransOrd.isLE_trans hxy hyz) (by rintro ⟨⟩)
  -- Values of different kinds are ordered by their kinds.
  all_goals
    first
    | exact iff_of_true rfl (by rintro ⟨⟩)
    | exact absurd hxy Bool.false_ne_true
    | exact absurd hyz Bool.false_ne_true

end Comparand

/-! ### Equality -/

namespace Token

variable {a b c : Token}

/-- Is the token a value that the order is about: no error and no NaN? -/
def isOrdered (t : Token) : Bool := t.isComparable && !t.isNaN

/-- Are the outer tokens integers that both become the double between them? -/
inductive RoundedTogether : Token → Token → Token → Prop
  | numbers {x y z : Number} (h : Number.RoundedTogether x y z) :
    RoundedTogether (.number x) (.number y) (.number z)

/-- Two integers that become the same double are at least `2 ^ 53` in size. -/
theorem RoundedTogether.exists_ofInt (h : RoundedTogether a b c) :
    ∃ i k, a = .ofInt i ∧ c = .ofInt k ∧ Nat.pow 2 53 ≤ i.toInt.natAbs ∧
      Nat.pow 2 53 ≤ k.toInt.natAbs := by
  obtain ⟨h⟩ := h
  have hinteger := h
  obtain ⟨-, -, -⟩ := hinteger
  exact ⟨_, _, rfl, rfl, h.size⟩

/-- Values are equal if they are numbers with the same value, or otherwise the same. -/
theorem sameValue_eq_true_iff (ha : a.isComparable = true) :
    a.sameValue b = true ↔
      (∃ m n, a = .number m ∧ b = .number n ∧ m.sameValue n = true) ∨
        a.number? = none ∧ a = b := by
  cases a with
  | number _ | logical _ | text _ | omitted =>
    cases b <;> simp [sameValue, isOperand, equals, number?]
  | _ => cases ha

/-- NaN is the one comparable value without a place in the order. -/
theorem isOrdered_iff : a.isOrdered = true ↔ a.isComparable = true ∧ a.isNaN = false := by
  simp [isOrdered]

/-- A value with a place in the order is the same as itself. -/
theorem sameValue_self (ha : a.isOrdered = true) : a.sameValue a = true := by
  obtain ⟨hcomparable, hnan⟩ := isOrdered_iff.mp ha
  rw [sameValue_eq_true_iff hcomparable]
  cases a with
  | number n =>
    have hle : n.atMost n = true := (Number.atMost_total hnan hnan).elim id id
    exact .inl ⟨n, n, rfl, rfl, Number.sameValue_iff.mpr ⟨hle, hle⟩⟩
  | _ => exact .inr ⟨rfl, rfl⟩

/-- **Equality is transitive** but for integers that become the same double. -/
theorem sameValue_trans_iff (ha : a.isOrdered = true) (hb : b.isOrdered = true)
    (hc : c.isOrdered = true) (hab : a.sameValue b = true) (hbc : b.sameValue c = true) :
    a.sameValue c = true ↔ ¬ RoundedTogether a b c ∧ ¬ RoundedTogether c b a := by
  obtain ⟨hacomparable, hanan⟩ := isOrdered_iff.mp ha
  obtain ⟨hbcomparable, hbnan⟩ := isOrdered_iff.mp hb
  obtain ⟨-, hcnan⟩ := isOrdered_iff.mp hc
  -- Values that are the same are two numbers, or the same token.
  rcases (sameValue_eq_true_iff hacomparable).mp hab with ⟨x, y, rfl, rfl, hxy⟩ | ⟨hnone, rfl⟩
  · rcases (sameValue_eq_true_iff hbcomparable).mp hbc with ⟨_, z, ⟨⟩, rfl, hyz⟩ | ⟨⟨⟩, -⟩
    refine (Number.sameValue_trans_iff hanan hbnan hcnan hxy hyz).trans
      (and_congr (not_congr ⟨.numbers, ?_⟩) (not_congr ⟨.numbers, ?_⟩))
    · rintro ⟨h⟩
      exact h
    · rintro ⟨h⟩
      exact h
  · refine iff_of_true hbc ⟨?_, ?_⟩
    · rintro ⟨-⟩
      cases hnone
    · rintro ⟨-⟩
      cases hnone

end Token

/-! ### The operators -/

namespace Operator

variable {a b c : Token} {x y z : Comparand}

/-- Does `<=` say that the first value comes before the other one, or at the same place? -/
def Precedes (a b : Token) : Prop := lessOrEqual a b = .logical true

/-- Does `=` say that the values are the same? -/
def Same (a b : Token) : Prop := equal a b = .logical true

instance : Decidable (Precedes a b) := inferInstanceAs (Decidable (_ = _))

instance : Decidable (Same a b) := inferInstanceAs (Decidable (_ = _))

theorem isNaN_comparand (hx : a.comparand? = some x) : x.isNaN = a.isNaN := by
  cases a <;> cases hx <;> rfl

/-- `<=` compares what the tokens are compared by. -/
theorem precedes_iff (hx : a.comparand? = some x) (hy : b.comparand? = some y) :
    Precedes a b ↔ x.atMost y = true := by
  unfold Precedes lessOrEqual Comparand.atMost
  rw [ordered_eq hx hy]
  cases x.compare? y with
  | none => exact iff_of_false (by rintro ⟨⟩) (by decide)
  | some o => exact iff_of_eq (Token.logical.injEq _ _)

/-- `=` agrees with the equality of the tokens. -/
theorem same_iff (hx : a.comparand? = some x) (hy : b.comparand? = some y) :
    Same a b ↔ a.sameValue b = true := by
  rw [Same, equal_eq hx hy, Token.logical.injEq]

/-- The order sees a number in no other token, but zero in an omitted argument. -/
theorem eq_of_comparand?_number {n : Number} (h : a.comparand? = some (.number n))
    (hn : n ≠ .int 0) : a = .number n := by
  cases a <;> cases h
  · rfl
  · exact absurd rfl hn

/-- Rounding is the same for the tokens and for what they are compared by. -/
theorem roundedTogether_iff (hx : a.comparand? = some x) (hy : b.comparand? = some y)
    (hz : c.comparand? = some z) :
    x.RoundedTogether y z ↔ a.RoundedTogether b c := by
  constructor
  · rintro ⟨h⟩
    -- An omitted argument counts as zero, which is too small to be rounded.
    have hsize := h
    obtain ⟨-, -, -⟩ := hsize
    obtain ⟨hi, hk⟩ := h.size
    rw [eq_of_comparand?_number hx (by rintro ⟨⟩; cases hi),
      eq_of_comparand?_number hy (by rintro ⟨⟩),
      eq_of_comparand?_number hz (by rintro ⟨⟩; cases hk)]
    exact ⟨h⟩
  · rintro ⟨h⟩
    cases hx
    cases hy
    cases hz
    exact ⟨h⟩

/-- **Values are ordered**, except for numbers that only rounding makes equal.  Any two values that
    are no errors and no NaNs are ordered by `<=`, which is transitive, unless the first and the
    last are integers that both become the double between them.  `=` is reflexive and symmetric, and
    under the same condition it is transitive. -/
theorem order_of_values (ha : a.isOrdered = true) (hb : b.isOrdered = true)
    (hc : c.isOrdered = true) :
    (Precedes a b ∨ Precedes b a) ∧
      (Precedes a b → Precedes b c → (Precedes a c ↔ ¬ a.RoundedTogether b c)) ∧
      Same a a ∧ (Same a b → Same b a) ∧
      (Same a b → Same b c → (Same a c ↔ ¬ a.RoundedTogether b c ∧ ¬ c.RoundedTogether b a)) ∧
      (a.RoundedTogether b c → ∃ i k, a = .ofInt i ∧ c = .ofInt k ∧
        Nat.pow 2 53 ≤ i.toInt.natAbs ∧ Nat.pow 2 53 ≤ k.toInt.natAbs) := by
  obtain ⟨hacomparable, hanan⟩ := Token.isOrdered_iff.mp ha
  obtain ⟨hbcomparable, hbnan⟩ := Token.isOrdered_iff.mp hb
  obtain ⟨hccomparable, hcnan⟩ := Token.isOrdered_iff.mp hc
  obtain ⟨x, hx⟩ := exists_comparand hacomparable
  obtain ⟨y, hy⟩ := exists_comparand hbcomparable
  obtain ⟨z, hz⟩ := exists_comparand hccomparable
  rw [← isNaN_comparand hx] at hanan
  rw [← isNaN_comparand hy] at hbnan
  rw [← isNaN_comparand hz] at hcnan
  -- All clauses are about what the tokens are compared by.
  rw [precedes_iff hx hy, precedes_iff hy hx, precedes_iff hy hz, precedes_iff hx hz,
    same_iff hx hx, same_iff hx hy, same_iff hy hx, same_iff hy hz, same_iff hx hz]
  refine ⟨Comparand.atMost_total hanan hbnan, fun hxy hyz => ?_, Token.sameValue_self ha,
    fun h => ?_, Token.sameValue_trans_iff ha hb hc, Token.RoundedTogether.exists_ofInt⟩
  · rw [← roundedTogether_iff hx hy hz]
    exact Comparand.atMost_trans_iff hanan hbnan hcnan hxy hyz
  · rwa [Token.sameValue_comm]

namespace ValueOrderExample

/-- The first integer that is no double. -/
def wide : Token := .ofInt 9007199254740993

/-- The double it becomes. -/
def double : Token := .number (.float 9007199254740992)

/-- The integer that is this double. -/
def narrow : Token := .ofInt 9007199254740992

end ValueOrderExample

open ValueOrderExample in
/-- Rounding takes the wide integer to the narrow one, though it is larger. -/
theorem order_of_values_wide :
    wide.isOrdered = true ∧ double.isOrdered = true ∧ narrow.isOrdered = true ∧
      wide.RoundedTogether double narrow ∧ ¬ Precedes wide narrow := by
  have hwide : wide.isOrdered = true := by decide +kernel
  have hdouble : double.isOrdered = true := by decide +kernel
  have hnarrow : narrow.isOrdered = true := by decide +kernel
  have hrounded : wide.RoundedTogether double narrow :=
    ⟨⟨by decide, by decide +kernel, by decide +kernel⟩⟩
  obtain ⟨-, htrans, -⟩ := order_of_values hwide hdouble hnarrow
  refine ⟨hwide, hdouble, hnarrow, hrounded, fun h => ?_⟩
  exact (htrans (by decide +kernel) (by decide +kernel)).mp h hrounded

open ValueOrderExample in
/-- Neither the order nor equality is transitive on all values. -/
theorem order_not_transitive :
    (wide.isOrdered = true ∧ double.isOrdered = true ∧ narrow.isOrdered = true) ∧
      (Precedes wide double ∧ Precedes double narrow ∧ ¬ Precedes wide narrow) ∧
      (Same wide double ∧ Same double narrow ∧ ¬ Same wide narrow) := by
  decide +kernel

end Operator

end SheetFormula
