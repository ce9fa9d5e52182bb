import SheetFormula.Operator.Basic
import SheetFormula.Proofs.NumberOrder

namespace SheetFormula

/-!
# Comparisons

The six comparison operators on values that are no errors.  Equality takes the values as they are.
The order takes an omitted argument for zero and a text in lower case, so it may put values in the
same place that are not equal, but it never tells equal ones apart.

* `Comparand` — a value as the order sees it; `Comparand.compare?` is the order, as
  `Operator.order?_eq` says.
* `Operator.Unordered` — two operands without an order, since one of them is a NaN.
* `Operator.Answers` — what the four order operators say about a pair.
* `Operator.comparisons_agree` — what the six operators say about a pair fits together.
-/

/-! ### Operands of comparisons -/

namespace Token

/-- Is the token a value other than an error? -/
def isComparable (t : Token) : Bool := t.isValue && !t.isError

/-- Is the token a number, or an omitted argument, which counts as the number zero? -/
def isNumberOrOmitted : Token → Bool
  | number _ | omitted => true
  | _ => false

def isNaN : Token → Bool
  | number n => n.isNaN
  | _ => false

/-- Is the token an error with this code that a computation has made? -/
def IsFailure (t : Token) (code : ErrorCode) : Prop := ∃ message, t = failure code message

end Token

/-! ### Values as the order sees them -/

inductive Comparand
  | number (n : Number)
  /-- A text in lower case. -/
  | text (folded : String)
  | logical (b : Bool)

/-- What the order sees of a token. -/
def Token.comparand? : Token → Option Comparand
  | number n => some (.number n)
  | omitted => some (.number (.int 0))
  | text s => some (.text (String.ofList (Text.lower s.toList)))
  | logical b => some (.logical b)
  | _ => none

namespace Comparand

/-- Numbers come before texts, and texts before truth values. -/
def compare? : Comparand → Comparand → Option Ordering
  | number a, number b => a.compare? b
  | text a, text b => some (compare a b)
  | logical a, logical b => some (compare a b)
  | number _, _ | text _, logical _ => some .lt
  | _, _ => some .gt

def isNaN : Comparand → Bool
  | number n => n.isNaN
  | _ => false

variable {x y : Comparand}

/-- The order of two values, seen from the other side. -/
theorem compare?_swap (x y : Comparand) : y.compare? x = (x.compare? y).map Ordering.swap := by
  cases x <;> cases y
  case number.number a b => exact Number.compare?_swap a b
  case text.text a b => exact congrArg some Std.OrientedOrd.eq_swap
  case logical.logical a b => exact congrArg some Std.OrientedOrd.eq_swap
  all_goals rfl

end Comparand

namespace Operator

variable {a b : Token} {x y : Comparand} {accept : Ordering → Bool}

/-- A token that can be compared has something it is compared by. -/
theorem exists_comparand (h : a.isComparable = true) : ∃ x, a.comparand? = some x := by
  cases a <;> first | exact ⟨_, rfl⟩ | cases h

/-- **The order of values** is that of what it sees of them. -/
theorem order?_eq (hx : a.comparand? = some x) (hy : b.comparand? = some y) :
    order? a b = x.compare? y := by
  cases a <;> cases hx <;> cases b <;> cases hy <;> rfl

/-- An order operator on comparable values answers, unless they have no order. -/
theorem ordered_eq (hx : a.comparand? = some x) (hy : b.comparand? = some y) :
    ordered accept a b =
      match x.compare? y with
      | some o => .logical (accept o)
      | none => .failure .number "Cannot order NaN" := by
  rw [← order?_eq hx hy]
  cases a <;> cases hx <;> cases b <;> cases hy <;> rfl

/-- On values that can be compared, `=` asks for the same value. -/
theorem equal_eq (hx : a.comparand? = some x) (hy : b.comparand? = some y) :
    equal a b = .logical (a.sameValue b) := by
  cases a <;> cases hx <;> cases b <;> cases hy <;> rfl

/-- Equal values have the same place in the order. -/
theorem compare?_of_sameValue (hx : a.comparand? = some x) (hy : b.comparand? = some y)
    (h : a.sameValue b = true) : x.compare? y = some .eq := by
  -- Values of different classes are never the same, which leaves four pairs.
  cases a <;> cases hx <;> cases b <;> cases hy <;>
    simp only [Token.sameValue, Token.isOperand, Token.equals, Bool.true_and, beq_iff_eq,
      reduceCtorEq] at h
  case number.refl.number.refl m n => exact beq_iff_eq.mp h
  case omitted.refl.omitted.refl => rfl
  case text.refl.text.refl s t =>
    obtain rfl := Token.text.inj h
    exact congrArg some Std.ReflOrd.compare_self
  case logical.refl.logical.refl b c =>
    obtain rfl := Token.logical.inj h
    exact congrArg some Std.ReflOrd.compare_self

/-! ### Pairs without an order -/

/-- Have the operands no order?  They are numbers or omitted arguments, and one is a NaN. -/
def Unordered (a b : Token) : Prop :=
  a.isNumberOrOmitted = true ∧ b.isNumberOrOmitted = true ∧ (a.isNaN = true ∨ b.isNaN = true)

/-- The order operators refuse just those values that have no order. -/
theorem unordered_iff (hx : a.comparand? = some x) (hy : b.comparand? = some y) :
    Unordered a b ↔ x.compare? y = none := by
  cases a <;> cases hx <;> cases b <;> cases hy <;>
    simp [Unordered, Token.isNumberOrOmitted, Token.isNaN, Comparand.compare?,
      Number.compare?_eq_none_iff, Number.isNaN]

/-- Without an order there is no answer, only `#NUM!`. -/
theorem isFailure_ordered (hx : a.comparand? = some x) (hy : b.comparand? = some y)
    (h : x.compare? y = none) : (ordered accept a b).IsFailure .number := by
  rw [ordered_eq hx hy, h]
  exact ⟨_, rfl⟩

/-! ### Answers -/

/-- The order operators on a pair answer with these truth values. -/
structure Answers (a b : Token) (lt gt le ge : Bool) : Prop where
  less : Operator.less a b = .logical lt
  greater : Operator.greater a b = .logical gt
  lessOrEqual : Operator.lessOrEqual a b = .logical le
  greaterOrEqual : Operator.greaterOrEqual a b = .logical ge

/-- Where the values have an order, the four order operators answer by it. -/
theorem answers_of_compare? {o : Ordering} (hx : a.comparand? = some x)
    (hy : b.comparand? = some y) (h : x.compare? y = some o) :
    Answers a b o.isLT o.isGT o.isLE o.isGE := by
  have hanswer (accept : Ordering → Bool) : ordered accept a b = .logical (accept o) := by
    rw [ordered_eq hx hy, h]
  exact ⟨hanswer _, hanswer _, hanswer _, hanswer _⟩

/-- **The comparison operators fit together.**  On two comparable values, in either order of the
    two, the four order operators all give `#NUM!`, if the values have no order, or all answer.  The
    answers turn around with the pair, `<=` and `>=` are the negations of `>` and `<`, and one of
    less, greater and both at most is true.  `=` does not depend on the order of the pair, `<>` is
    its negation, and values that are equal are both at most and at least each other. -/
theorem comparisons_agree {a b : Token} (ha : a.isComparable = true)
    (hb : b.isComparable = true) :
    (Unordered a b ∧
        (∀ op ∈ [less, greater, lessOrEqual, greaterOrEqual],
          (op a b).IsFailure .number ∧ (op b a).IsFailure .number) ∨
      ¬ Unordered a b ∧ ∃ lt gt le ge, Answers a b lt gt le ge ∧ Answers b a gt lt ge le ∧
        le = !gt ∧ ge = !lt ∧ lt.toNat + gt.toNat + (le && ge).toNat = 1) ∧
    ∃ e, equal a b = .logical e ∧ equal b a = .logical e ∧ notEqual a b = .logical !e ∧
      (e = true → lessOrEqual a b = .logical true ∧ greaterOrEqual a b = .logical true) := by
  -- All six operators are computed from one comparison of the two comparands.
  obtain ⟨x, hx⟩ := exists_comparand ha
  obtain ⟨y, hy⟩ := exists_comparand hb
  have hequal := equal_eq hx hy
  refine ⟨?_, a.sameValue b, hequal, ?_, ?_, fun hsame => ?_⟩
  · cases ho : x.compare? y with
    | none =>
      refine .inl ⟨(unordered_iff hx hy).mpr ho, fun op hop => ?_⟩
      have hswap : y.compare? x = none := by rw [Comparand.compare?_swap, ho]; rfl
      simp only [List.mem_cons, List.not_mem_nil, or_false] at hop
      rcases hop with rfl | rfl | rfl | rfl <;>
        exact ⟨isFailure_ordered hx hy ho, isFailure_ordered hy hx hswap⟩
    | some o =>
      have hswap : y.compare? x = some o.swap := by rw [Comparand.compare?_swap, ho]; rfl
      -- The outcome of the comparison fixes the four answers, and swapping it reverses them.
      refine .inr ⟨?_, _, _, _, _, answers_of_compare? hx hy ho, ?_, ?_⟩
      · rw [unordered_iff hx hy, ho]
        rintro ⟨⟩
      · have hanswers := answers_of_compare? hy hx hswap
        cases o <;> exact hanswers
      · cases o <;> decide
  · rw [equal_eq hy hx, Token.sameValue_comm]
  · rw [notEqual, hequal]
  · have hanswers := answers_of_compare? hx hy (compare?_of_sameValue hx hy hsame)
    exact ⟨hanswers.lessOrEqual, hanswers.greaterOrEqual⟩

/-- A text and a truth value have an order, though they are never equal. -/
theorem comparisons_agree_text_logical :
    (Token.text "b").isComparable = true ∧ (Token.logical false).isComparable = true ∧
      ∃ lt gt le ge, Answers (.text "b") (.logical false) lt gt le ge ∧
        Answers (.logical false) (.text "b") gt lt ge le ∧ le = !gt ∧ ge = !lt ∧
        lt.toNat + gt.toNat + (le && ge).toNat = 1 := by
  have hordered : ¬ Unordered (.text "b") (.logical false) := by
    rintro ⟨⟨⟩, -⟩
  exact ⟨rfl, rfl, ((comparisons_agree rfl rfl).1.resolve_left fun h => hordered h.1).2⟩

end Operator

end SheetFormula
