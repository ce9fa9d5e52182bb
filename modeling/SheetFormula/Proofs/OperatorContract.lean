import SheetFormula.Proofs.Comparisons
import SheetFormula.Proofs.StackInvariant

namespace SheetFormula

/-!
# The contract of the operators

All operators of this library treat operands they cannot compute with in one way.  An error is
handed on, the left one first.  An operand that is no value gives `#REF!`, though equality takes
ranges for values.  For what is left each family of operators has an outcome of its own.

* `Operator.Family` — the families, and `Operator.Family.ofSymbol?` the one of each symbol.
* `Operator.Family.Outcome` — what an operator of the family makes of operands that it accepts.
* `Operator.Contract` and `Operator.PrefixContract` — the contracts as a whole.
* `Operator.Yields` — all that an operator with a contract may yield, for what follows from the
  contracts (`OperatorTable.KeepsContracts.all`).
* `Operator.Family.Keeps` — an operator with the contract of its family; there is a lemma for each
  operator of the library.
* `OperatorTable.builtin_contract` — all symbols of the library keep their contract.
-/

/-! ### Operands -/

namespace Token

/-- Is the token a number or a truth value, which arithmetic takes for zero or one? -/
def isNumeric : Token → Bool
  | number _ | logical _ => true
  | _ => false

/-- Is the token a value that arithmetic cannot use? -/
def isTextOrOmitted : Token → Bool
  | text _ | omitted => true
  | _ => false

/-- Is the token a zero, as arithmetic takes it? -/
def isZero : Token → Bool
  | number n => n.isZero
  | logical b => !b
  | _ => false

/-- A value that is no error can be compared. -/
theorem isComparable_of_isValue {t : Token} (he : t.isError = false) (h : t.isValue = true) :
    t.isComparable = true := by
  rw [isComparable, h, he]
  rfl

end Token

namespace Operator

/-! ### Families of operators -/

inductive Family
  | equality
  | order
  | text
  | arithmetic
  | division
  deriving DecidableEq

namespace Family

/-- The family of an infix symbol. -/
def ofSymbol? : String → Option Family
  | "=" | "==" | "<>" | "!=" => some equality
  | "<" | ">" | "<=" | ">=" => some order
  | "&" => some text
  | "+" | "-" | "*" | "^" => some arithmetic
  | "/" => some division
  | _ => none

/-- Is the token an operand of the family?  A range is one of equality only. -/
def accepts : Family → Token → Bool
  | equality, t => t.isOperand
  | _, t => t.isValue

end Family

/-- A finite number or, in its place, `#NUM!`. -/
def IsFiniteOrNum (t : Token) : Prop :=
  (∃ n, t = .number n ∧ n.isFinite = true) ∨ t.IsFailure .number

/-- What arithmetic makes of two values: `#VALUE!` exactly if one of them is no number,
    `#DIV/0!` exactly for a quotient by zero, and else a finite number or `#NUM!`. -/
structure ArithmeticOutcome (divides : Prop) (a b t : Token) : Prop where
  value : t.IsFailure .value ↔ a.isTextOrOmitted = true ∨ b.isTextOrOmitted = true
  divisionByZero : t.IsFailure .divisionByZero ↔
    divides ∧ a.isNumeric = true ∧ b.isNumeric = true ∧ b.isZero = true
  other : ¬ t.IsFailure .value → ¬ t.IsFailure .divisionByZero → IsFiniteOrNum t

/-- What an operator of the family makes of two operands that are no errors. -/
def Family.Outcome : Family → Token → Token → Token → Prop
  | equality, _, _, t => ∃ e, t = .logical e
  | order, a, b, t =>
    (¬ Unordered a b ∧ ∃ e, t = .logical e) ∨ (Unordered a b ∧ t.IsFailure .number)
  | text, _, _, t => ∃ s, t = .text s
  | arithmetic, a, b, t => ArithmeticOutcome False a b t
  | division, a, b, t => ArithmeticOutcome True a b t

/-! ### The contract -/

/-- **The contract of infix operators**: what an operator of the family may yield. -/
structure Contract (f : Family) (a b t : Token) : Prop where
  leftError : a.isError = true → t = a
  rightError : a.isError = false → b.isError = true → t = b
  rejected : a.isError = false → b.isError = false →
    f.accepts a = false ∨ f.accepts b = false → t.IsFailure .reference
  outcome : a.isError = false → b.isError = false →
    f.accepts a = true → f.accepts b = true → f.Outcome a b t

/-- **The contract of prefix operators.** -/
structure PrefixContract (a t : Token) : Prop where
  error : a.isError = true → t = a
  rejected : a.isValue = false → t.IsFailure .reference
  mismatch : a.isTextOrOmitted = true → t.IsFailure .value
  number : a.isNumeric = true → IsFiniteOrNum t

/-- Does the operator keep the contract of the family? -/
def Family.Keeps (f : Family) (op : InfixOperator) : Prop := ∀ a b, Contract f a b (op a b)

section
variable {a b t : Token} {f : Family} {divides : Prop}

/-- A result that would be infinite, or no number, becomes `#NUM!`. -/
theorem isFiniteOrNum_finite (n : Number) : IsFiniteOrNum (finite n) := by
  unfold finite
  split
  case isTrue h => exact .inl ⟨n, rfl, h⟩
  case isFalse => exact .inr ⟨_, rfl⟩

/-! ### Operands of arithmetic -/

/-- What arithmetic can use is no text and is not left out. -/
theorem isTextOrOmitted_eq_false (h : a.isNumeric = true) : a.isTextOrOmitted = false := by
  cases a <;> first | rfl | cases h

/-- It is no error either. -/
theorem isError_eq_false (h : a.isNumeric = true) : a.isError = false := by
  cases a <;> first | rfl | cases h

/-- It is a value. -/
theorem isValue_of_isNumeric (h : a.isNumeric = true) : a.isValue = true := by
  cases a <;> first | rfl | cases h

/-- A value that is no error can be used in arithmetic, or it cannot. -/
theorem isNumeric_or_isTextOrOmitted (ha : a.isError = false) (h : a.isValue = true) :
    a.isNumeric = true ∨ a.isTextOrOmitted = true := by
  cases a <;> first | exact .inl rfl | exact .inr rfl | (cases ha; done) | cases h

/-- A number or a truth value is taken as a number, and zero as zero. -/
theorem numericOperand_eq_value (h : a.isNumeric = true) :
    ∃ n, numericOperand a = .value n ∧ n.isZero = a.isZero := by
  cases a with
  | number n => exact ⟨n, rfl, rfl⟩
  | logical b => cases b <;> exact ⟨_, rfl, rfl⟩
  | _ => cases h

/-- Nothing else is taken as a number. -/
theorem isNumeric_of_numericOperand {n : Number} (h : numericOperand a = .value n) :
    a.isNumeric = true ∧ n.isZero = a.isZero := by
  cases a with
  | number m =>
    cases h
    exact ⟨rfl, rfl⟩
  | logical b => cases b <;> cases h <;> exact ⟨rfl, rfl⟩
  | _ => cases h

/-- A text is never taken as a number, even if it spells one. -/
theorem numericOperand_eq_mismatch (h : a.isTextOrOmitted = true) :
    numericOperand a = .mismatch := by
  cases a <;> first | rfl | cases h

/-- A structural token or a range is not taken as a number. -/
theorem numericOperand_eq_invalid (ha : a.isError = false) (h : a.isValue = false) :
    numericOperand a = .invalid := by
  cases a <;> first | rfl | (cases ha; done) | cases h

/-- A structural token or a range has no text to join. -/
theorem concatText?_eq_none (ha : a.isError = false) (h : a.isValue = false) :
    concatText? a = none := by
  cases a <;> first | rfl | (cases ha; done) | cases h

/-- Every other value has one, an omitted argument too. -/
theorem exists_concatText? (ha : a.isError = false) (h : a.isValue = true) :
    ∃ s, concatText? a = some s := by
  cases a <;> first | exact ⟨_, rfl⟩ | (cases ha; done) | cases h

/-- A value with a text or an omitted argument beside it is not computed with. -/
theorem ArithmeticOutcome.mismatch (message : String)
    (h : a.isTextOrOmitted = true ∨ b.isTextOrOmitted = true) :
    ArithmeticOutcome divides a b (.failure .value message) := by
  refine ⟨iff_of_true ⟨_, rfl⟩ h, iff_of_false (by rintro ⟨_, ⟨⟩⟩) ?_,
    fun hvalue => absurd ⟨_, rfl⟩ hvalue⟩
  rintro ⟨-, ha, hb, -⟩
  rw [isTextOrOmitted_eq_false ha, isTextOrOmitted_eq_false hb] at h
  exact absurd h (by decide)

/-- Without a zero to divide by, two numbers give a finite number or `#NUM!`. -/
theorem ArithmeticOutcome.finite (ha : a.isNumeric = true) (hb : b.isNumeric = true)
    (hzero : ¬ (divides ∧ b.isZero = true)) (h : IsFiniteOrNum t) :
    ArithmeticOutcome divides a b t := by
  refine ⟨iff_of_false ?_ ?_, iff_of_false ?_ fun h => hzero ⟨h.1, h.2.2.2⟩, fun _ _ => h⟩
  · rcases h with ⟨n, rfl, -⟩ | ⟨_, rfl⟩ <;> rintro ⟨_, ⟨⟩⟩
  · rw [isTextOrOmitted_eq_false ha, isTextOrOmitted_eq_false hb]
    decide
  · rcases h with ⟨n, rfl, -⟩ | ⟨_, rfl⟩ <;> rintro ⟨_, ⟨⟩⟩

/-- A quotient by zero is `#DIV/0!`. -/
theorem ArithmeticOutcome.zero (message : String) (hdivides : divides) (ha : a.isNumeric = true)
    (hb : b.isNumeric = true) (hzero : b.isZero = true) :
    ArithmeticOutcome divides a b (.failure .divisionByZero message) := by
  refine ⟨iff_of_false (by rintro ⟨_, ⟨⟩⟩) ?_, iff_of_true ⟨_, rfl⟩ ⟨hdivides, ha, hb, hzero⟩,
    fun _ hnot => absurd ⟨_, rfl⟩ hnot⟩
  rw [isTextOrOmitted_eq_false ha, isTextOrOmitted_eq_false hb]
  decide

/-! ### What a contract allows -/

/-- All that an operator with a contract may yield: an operand that is an error, an error of its
    own, or a value, which is finite if it is a number. -/
inductive Yields (f : Family) (a b : Token) : Token → Prop
  | left (h : a.isError = true) : Yields f a b a
  | right (h : b.isError = true) : Yields f a b b
  | rejected (h : f.accepts a = false ∨ f.accepts b = false) (message : String) :
    Yields f a b (.failure .reference message)
  | failure {code : ErrorCode} (h : code = .value ∨ code = .divisionByZero ∨ code = .number)
    (message : String) : Yields f a b (.failure code message)
  | logical (e : Bool) : Yields f a b (.logical e)
  | text (s : String) : Yields f a b (.text s)
  | number {n : Number} (h : n.isFinite = true) : Yields f a b (.number n)

/-- A finite number or `#NUM!` is among the results of every family. -/
theorem IsFiniteOrNum.yields (h : IsFiniteOrNum t) : Yields f a b t := by
  rcases h with ⟨n, rfl, hn⟩ | ⟨message, rfl⟩
  · exact .number hn
  · exact .failure (.inr (.inr rfl)) message

/-- What arithmetic makes of two values is among its results. -/
theorem ArithmeticOutcome.yields (h : ArithmeticOutcome divides a b t) : Yields f a b t := by
  by_cases hvalue : t.IsFailure .value
  · obtain ⟨message, rfl⟩ := hvalue
    exact .failure (.inl rfl) message
  by_cases hzero : t.IsFailure .divisionByZero
  · obtain ⟨message, rfl⟩ := hzero
    exact .failure (.inr (.inl rfl)) message
  exact (h.other hvalue hzero).yields

/-- What a family makes of two values is among its results. -/
theorem Family.Outcome.yields (h : f.Outcome a b t) : Yields f a b t := by
  cases f with
  | equality =>
    obtain ⟨e, rfl⟩ := h
    exact .logical e
  | order =>
    obtain ⟨-, e, rfl⟩ | ⟨-, hnumber⟩ := h
    · exact .logical e
    · exact IsFiniteOrNum.yields (.inr hnumber)
  | text =>
    obtain ⟨s, rfl⟩ := h
    exact .text s
  | arithmetic | division => exact ArithmeticOutcome.yields h

/-- **What an operator can give**: one of its operands if it is an error, a new error or a value. -/
theorem Contract.yields (h : Contract f a b t) : Yields f a b t := by
  -- By the clauses of the contract, in the order in which they apply.
  cases ha : a.isError with
  | true =>
    rw [h.leftError ha]
    exact .left ha
  | false =>
    cases hb : b.isError with
    | true =>
      rw [h.rightError ha hb]
      exact .right hb
    | false =>
      cases haccepts : f.accepts a && f.accepts b with
      | true =>
        rw [Bool.and_eq_true] at haccepts
        exact (h.outcome ha hb haccepts.1 haccepts.2).yields
      | false =>
        rw [Bool.and_eq_false_iff] at haccepts
        obtain ⟨message, rfl⟩ := h.rejected ha hb haccepts
        exact .rejected haccepts message

/-- A prefix operator may yield what an infix operator of arithmetic may yield for its operand. -/
theorem PrefixContract.yields (h : PrefixContract a t) : Yields .arithmetic a a t := by
  cases ha : a.isError with
  | true =>
    rw [h.error ha]
    exact .left ha
  | false =>
    cases hvalue : a.isValue with
    | true =>
      rcases isNumeric_or_isTextOrOmitted ha hvalue with hnumeric | htext
      · exact (h.number hnumeric).yields
      · obtain ⟨message, rfl⟩ := h.mismatch htext
        exact .failure (.inl rfl) message
    | false =>
      obtain ⟨message, rfl⟩ := h.rejected hvalue
      have haccepts : Family.arithmetic.accepts a = false := hvalue
      exact .rejected (.inl haccepts) message

/-! ### Each operator keeps its contract -/

/-- The guard hands errors on, so that an operator behind it has to see to other operands only. -/
theorem contract_guardErrors {op : InfixOperator}
    (hrejected : ∀ a b, a.isError = false → b.isError = false →
      f.accepts a = false ∨ f.accepts b = false → (op a b).IsFailure .reference)
    (houtcome : ∀ a b, a.isError = false → b.isError = false →
      f.accepts a = true → f.accepts b = true → f.Outcome a b (op a b)) :
    f.Keeps (guardErrors op) := by
  intro a b
  -- Without an error among the operands the guard does nothing.
  have hpass (ha : a.isError = false) (hb : b.isError = false) :
      guardErrors op a b = op a b := by
    simp [guardErrors, firstError?, ha, hb]
  refine ⟨fun ha => ?_, fun ha hb => ?_, fun ha hb => ?_, fun ha hb => ?_⟩
  · simp [guardErrors, firstError?, ha]
  · simp [guardErrors, firstError?, ha, hb]
  · rw [hpass ha hb]
    exact hrejected a b ha hb
  · rw [hpass ha hb]
    exact houtcome a b ha hb

/-- Two operands are the same or they are not, ranges included. -/
theorem contract_equal : Family.equality.Keeps equal := by
  refine contract_guardErrors (fun a b _ _ h => ?_) fun a b _ _ ha hb => ?_
  · have hoperands : (a.isOperand && b.isOperand) = false := Bool.and_eq_false_iff.mpr h
    rw [hoperands]
    exact ⟨_, rfl⟩
  · have hoperands : (a.isOperand && b.isOperand) = true := Bool.and_eq_true_iff.mpr ⟨ha, hb⟩
    rw [hoperands]
    exact ⟨_, rfl⟩

/-- The negation of equality has the outcomes of equality. -/
theorem contract_notEqual : Family.equality.Keeps notEqual := by
  intro a b
  obtain ⟨hleft, hright, hrejected, houtcome⟩ := contract_equal a b
  -- What equality yields is negated only if it is a truth value.
  have hpass {t : Token} (h : equal a b = t) (ht : t.isError = true) : notEqual a b = t := by
    rw [notEqual, h]
    cases t <;> first | rfl | cases ht
  refine ⟨fun ha => hpass (hleft ha) ha, fun ha hb => hpass (hright ha hb) hb, fun ha hb h => ?_,
    fun ha hb haccepts hbaccepts => ?_⟩
  · obtain ⟨message, hequal⟩ := hrejected ha hb h
    exact ⟨message, hpass hequal rfl⟩
  · obtain ⟨e, he⟩ := houtcome ha hb haccepts hbaccepts
    exact ⟨!e, by rw [notEqual, he]⟩

/-- All four comparisons, by the outcomes that they accept. -/
theorem contract_ordered (accept : Ordering → Bool) : Family.order.Keeps (ordered accept) := by
  refine contract_guardErrors (fun a b _ _ h => ?_) fun a b ha hb haccepts hbaccepts => ?_
  · have hvalues : (a.isValue && b.isValue) = false := Bool.and_eq_false_iff.mpr h
    rw [hvalues]
    exact ⟨_, rfl⟩
  · have hvalues : (a.isValue && b.isValue) = true :=
      Bool.and_eq_true_iff.mpr ⟨haccepts, hbaccepts⟩
    -- Both operands are values without errors, so they can be compared.
    obtain ⟨x, hx⟩ := exists_comparand (Token.isComparable_of_isValue ha haccepts)
    obtain ⟨y, hy⟩ := exists_comparand (Token.isComparable_of_isValue hb hbaccepts)
    rw [hvalues, order?_eq hx hy]
    show (¬ Unordered a b ∧ _) ∨ _
    rw [unordered_iff hx hy]
    cases x.compare? y with
    | none => exact .inr ⟨rfl, _, rfl⟩
    | some o => exact .inl ⟨by rintro ⟨⟩, _, rfl⟩

/-- `&` joins the texts of its operands. -/
theorem contract_concat : Family.text.Keeps concat := by
  refine contract_guardErrors (fun a b ha hb h => ?_) fun a b ha hb haccepts hbaccepts => ?_
  · rcases h with h | h
    · rw [concatText?_eq_none ha h]
      exact ⟨_, rfl⟩
    · rw [concatText?_eq_none hb h]
      cases concatText? a <;> exact ⟨_, rfl⟩
  · obtain ⟨x, hx⟩ := exists_concatText? ha haccepts
    obtain ⟨y, hy⟩ := exists_concatText? hb hbaccepts
    rw [hx, hy]
    exact ⟨_, rfl⟩

/-- `+`, `-`, `*` and `^`, by the function on numbers. -/
theorem contract_numeric (g : Number → Number → Number) : Family.arithmetic.Keeps (numeric g) := by
  refine contract_guardErrors (fun a b ha hb h => ?_) fun a b ha hb haccepts hbaccepts => ?_
  · rcases h with h | h
    · rw [numericOperand_eq_invalid ha h]
      exact ⟨_, rfl⟩
    · rw [numericOperand_eq_invalid hb h]
      cases numericOperand a <;> exact ⟨_, rfl⟩
  -- Each operand is a number or is not; one that is not is enough for `#VALUE!`.
  · rcases isNumeric_or_isTextOrOmitted ha haccepts with ha | ha <;>
      rcases isNumeric_or_isTextOrOmitted hb hbaccepts with hb | hb
    · obtain ⟨x, hx, -⟩ := numericOperand_eq_value ha
      obtain ⟨y, hy, -⟩ := numericOperand_eq_value hb
      rw [hx, hy]
      exact .finite ha hb And.left (isFiniteOrNum_finite _)
    · obtain ⟨x, hx, -⟩ := numericOperand_eq_value ha
      rw [hx, numericOperand_eq_mismatch hb]
      exact .mismatch _ (.inr hb)
    · obtain ⟨y, hy, -⟩ := numericOperand_eq_value hb
      rw [numericOperand_eq_mismatch ha, hy]
      exact .mismatch _ (.inl ha)
    · rw [numericOperand_eq_mismatch ha, numericOperand_eq_mismatch hb]
      exact .mismatch _ (.inl ha)

/-- The test for a zero divisor comes first, but it concerns numbers and truth values only. -/
theorem divide_eq_numeric (h : ¬ (a.isNumeric = true ∧ b.isNumeric = true ∧ b.isZero = true)) :
    divide a b = numeric (· / ·) a b := by
  unfold divide
  split
  case h_1 _ _ _ d hx hd =>
    obtain ⟨ha, -⟩ := isNumeric_of_numericOperand hx
    obtain ⟨hb, hzero⟩ := isNumeric_of_numericOperand hd
    exact if_neg fun hd => h ⟨ha, hb, hzero ▸ hd⟩
  case h_2 => rfl

/-- A zero is refused before anything is divided, also if it is `FALSE`. -/
theorem divide_eq_failure (ha : a.isNumeric = true) (hb : b.isNumeric = true)
    (h : b.isZero = true) : divide a b = .failure .divisionByZero "Division by zero" := by
  obtain ⟨x, hx, -⟩ := numericOperand_eq_value ha
  obtain ⟨y, hy, hzero⟩ := numericOperand_eq_value hb
  rw [divide, hx, hy]
  exact if_pos (hzero.trans h)

/-- `/` is checked for a zero first, so it is no instance of the others. -/
theorem contract_divide : Family.division.Keeps divide := by
  intro a b
  by_cases h : a.isNumeric = true ∧ b.isNumeric = true ∧ b.isZero = true
  · obtain ⟨ha, hb, hzero⟩ := h
    rw [divide_eq_failure ha hb hzero]
    -- Both operands are numeric, so they are neither errors nor outside of the family.
    refine ⟨fun h => ?_, fun _ h => ?_, fun _ _ h => ?_, fun _ _ _ _ => ?_⟩
    · rw [isError_eq_false ha] at h
      cases h
    · rw [isError_eq_false hb] at h
      cases h
    · rcases h with h | h
      · exact absurd (isValue_of_isNumeric ha) (Bool.eq_false_iff.mp h)
      · exact absurd (isValue_of_isNumeric hb) (Bool.eq_false_iff.mp h)
    · exact .zero _ trivial ha hb hzero
  · rw [divide_eq_numeric h]
    obtain ⟨hleft, hright, hrejected, houtcome⟩ := contract_numeric (· / ·) a b
    refine ⟨hleft, hright, hrejected, fun ha hb haccepts hbaccepts => ?_⟩
    obtain ⟨hvalue, hzero, hother⟩ := houtcome ha hb haccepts hbaccepts
    refine ⟨hvalue, hzero.trans ?_, hother⟩
    exact iff_of_false (fun hfalse => hfalse.1) fun htrue => h htrue.2

/-- A function on numbers makes a prefix operator that keeps the contract. -/
theorem contract_numericPrefix (g : Number → Number) (a : Token) :
    PrefixContract a (numericPrefix g a) := by
  refine ⟨fun h => if_pos h, fun h => ?_, fun h => ?_, fun h => ?_⟩
  · cases a <;> first | exact ⟨_, rfl⟩ | cases h
  · cases a <;> first | exact ⟨_, rfl⟩ | cases h
  · cases a with
    | number _ | logical _ => exact isFiniteOrNum_finite _
    | _ => cases h

end

end Operator

/-! ### The table of this library -/

namespace OperatorTable

open Operator

/-- Does every symbol of the table have an operator that keeps the contract of its family? -/
structure KeepsContracts (table : OperatorTable) : Prop where
  infixOps : ∀ s op, table.get? s = some op → ∃ f, Family.ofSymbol? s = some f ∧ f.Keeps op
  prefixOps : ∀ s op, table.getPrefix? s = some op → ∀ a, PrefixContract a (op a)

section
variable {table : OperatorTable} {symbols : List String} {f : Family}

/-- Putting in an operator of the right family keeps the contracts. -/
theorem KeepsContracts.register {op : InfixOperator} (h : table.KeepsContracts) (hop : f.Keeps op)
    (hfamily : ∀ s ∈ symbols, Family.ofSymbol? s = some f) :
    (table.register symbols op).KeepsContracts := by
  refine ⟨fun s op' hget => ?_, h.prefixOps⟩
  rw [get?_register] at hget
  split at hget
  case isTrue hs =>
    cases hget
    exact ⟨f, hfamily s hs, hop⟩
  case isFalse => exact h.infixOps s op' hget

/-- The same for a prefix operator. -/
theorem KeepsContracts.registerPrefix {op : PrefixOperator} (h : table.KeepsContracts)
    (hop : ∀ a, PrefixContract a (op a)) : (table.registerPrefix symbols op).KeepsContracts := by
  refine ⟨h.infixOps, fun s op' hget => ?_⟩
  rw [getPrefix?_registerPrefix] at hget
  split at hget
  · cases hget
    exact hop
  · exact h.prefixOps s op' hget

/-- What follows from a contract holds of all operators of the table. -/
theorem KeepsContracts.all {P : InfixOperator → Prop} {Q : PrefixOperator → Prop}
    (h : table.KeepsContracts) (hP : ∀ (f : Family) op, f.Keeps op → P op)
    (hQ : ∀ op, (∀ a, PrefixContract a (op a)) → Q op) : table.All P Q := by
  refine ⟨fun s op hop => ?_, fun s op hop => hQ op (h.prefixOps s op hop)⟩
  obtain ⟨f, -, hkeeps⟩ := h.infixOps s op hop
  exact hP f op hkeeps

/-- The empty table has no operator that could break its contract. -/
theorem keepsContracts_empty : empty.KeepsContracts := by
  constructor
  · intro s op h
    simp [empty, get?] at h
  · intro s op h
    simp [empty, getPrefix?] at h

/-- The operators of the builtin table are put in one family after another. -/
theorem builtin_keepsContracts : builtin.KeepsContracts :=
  keepsContracts_empty
    |>.register contract_equal (by decide)
    |>.register contract_notEqual (by decide)
    |>.register (contract_ordered _) (by decide)
    |>.register (contract_ordered _) (by decide)
    |>.register (contract_ordered _) (by decide)
    |>.register (contract_ordered _) (by decide)
    |>.register contract_concat (by decide)
    |>.register (contract_numeric _) (by decide)
    |>.register (contract_numeric _) (by decide)
    |>.register (contract_numeric _) (by decide)
    |>.register contract_divide (by decide)
    |>.register (contract_numeric _) (by decide)
    |>.registerPrefix (contract_numericPrefix _)
    |>.registerPrefix (contract_numericPrefix _)

/-- Each symbol of a table stands for an operator. -/
theorem exists_get?_of_mem_symbols {s : String} (h : s ∈ table.symbols) :
    ∃ op, table.get? s = some op := by
  have hmem : s ∈ table.infixOps := Std.TreeMap.mem_keys.mp h
  exact ⟨_, congrArg (Option.map _) (Std.TreeMap.getElem?_eq_some_getElem hmem)⟩

/-- The same for the prefix symbols. -/
theorem exists_getPrefix?_of_mem {s : String} (h : s ∈ table.prefixSymbols) :
    ∃ op, table.getPrefix? s = some op := by
  have hmem : s ∈ table.prefixOps := Std.TreeMap.mem_keys.mp h
  exact ⟨_, congrArg (Option.map _) (Std.TreeMap.getElem?_eq_some_getElem hmem)⟩

/-- The builtin table has the symbols of all families. -/
theorem mem_symbols_of_family {s : String} (h : Family.ofSymbol? s = some f) :
    s ∈ builtin.symbols := by
  unfold Family.ofSymbol? at h
  split at h
  case h_15 => cases h
  all_goals decide +kernel

end

/-- **All operators keep the contract.**  The infix symbols of the library are those that have a
    family, and each of them yields a token for any two tokens, as the contract of its family says.
    So do both prefix symbols for any token. -/
theorem builtin_contract :
    (∀ s, s ∈ builtin.symbols ↔ ∃ f, Family.ofSymbol? s = some f) ∧
      (∀ s f, Family.ofSymbol? s = some f → ∀ a b, ∃ t, builtin.applyInfix? s a b = some t ∧
        Contract f a b t) ∧
      builtin.prefixSymbols = ["+", "-"] ∧
      ∀ s ∈ builtin.prefixSymbols, ∀ a, ∃ t, builtin.applyPrefix? s a = some t ∧
        PrefixContract a t := by
  refine ⟨fun s => ⟨fun hs => ?_, fun ⟨f, hf⟩ => mem_symbols_of_family hf⟩, fun s f hf a b => ?_,
    by decide +kernel, fun s hs a => ?_⟩
  · obtain ⟨op, hop⟩ := exists_get?_of_mem_symbols hs
    obtain ⟨f, hf, -⟩ := builtin_keepsContracts.infixOps s op hop
    exact ⟨f, hf⟩
  · obtain ⟨op, hop⟩ := exists_get?_of_mem_symbols (mem_symbols_of_family hf)
    obtain ⟨f', hf', hkeeps⟩ := builtin_keepsContracts.infixOps s op hop
    -- The family that the contract is about is that of the symbol, since a symbol has only one.
    rw [hf, Option.some.injEq] at hf'
    refine ⟨op a b, ?_, hf' ▸ hkeeps a b⟩
    rw [applyInfix?, hop]
    rfl
  · obtain ⟨op, hop⟩ := exists_getPrefix?_of_mem hs
    refine ⟨op a, ?_, builtin_keepsContracts.prefixOps s op hop a⟩
    rw [applyPrefix?, hop]
    rfl

/-- A truth value is a divisor too. -/
theorem builtin_contract_false_divisor :
    Family.ofSymbol? "/" = some .division ∧
      ∃ t, builtin.applyInfix? "/" (.ofInt 1) (.logical false) = some t ∧
        t.IsFailure .divisionByZero := by
  obtain ⟨t, ht, hcontract⟩ := builtin_contract.2.1 "/" .division rfl (.ofInt 1) (.logical false)
  refine ⟨rfl, t, ht, ?_⟩
  exact (hcontract.outcome rfl rfl rfl rfl).divisionByZero.mpr ⟨trivial, rfl, rfl, rfl⟩

end OperatorTable

end SheetFormula
