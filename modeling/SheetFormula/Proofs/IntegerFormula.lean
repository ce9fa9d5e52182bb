import SheetFormula.Proofs.ExactArithmetic
import SheetFormula.Proofs.Regrouping
import SheetFormula.Proofs.ValueSafety

namespace SheetFormula

/-!
# Integer formulas

A formula over 64-bit integers is computed without loss as long as the integers on the way are
64-bit integers.

* `Formula.IsInteger` — formulas of integers and inputs with `+`, `-`, `*`, `^`, signs and
  parentheses.
* `Formula.ExactValue` — the integer that such a formula stands for, provided that it fits, and
  so does the integer of each part.
* `Formula.ExactValue.yields` — what is computed is this integer: one case for each rule, each by
  the exactness of one operation on numbers.
* `Evaluator.ofTokens_integer` — hence an evaluator of such a formula yields this integer.
-/

open Number (IsExactly)

/-! ### Formulas over integers -/

/-- Integers as operands, four infix operators, the signs, and no calls. -/
def NodeRule.integers : NodeRule where
  operand t := ∃ i, t = .ofInt i
  infixOp s := s ∈ ["+", "-", "*", "^"]
  prefixOp s := s ∈ ["+", "-"]
  call _ _ := False

/-- Is this a formula of integers and inputs? -/
def Formula.IsInteger (f : Formula) : Prop := f.All .integers

/-- **The exact value of a formula over integers.**  It is the value in the sense of mathematics.
    There is one if all inputs are integers, the value of each part fits 64 bits, and each
    exponent is at least zero and fits 32 bits. -/
inductive Formula.ExactValue (inputs : Inputs) : Formula → Int → Prop
  | literal (i : Int64) : ExactValue inputs (.operand (.ofInt i)) i.toInt
  | range {name : String} {i : Int64} (h : inputs name = some (.ofInt i)) :
    ExactValue inputs (.range name) i.toInt
  | group {f : Formula} {a : Int} (hf : ExactValue inputs f a) : ExactValue inputs (.group f) a
  | add {l r : Formula} {a b : Int} (hl : ExactValue inputs l a) (hr : ExactValue inputs r b)
    (h : Number.Fits (a + b)) : ExactValue inputs (.infixOp "+" l r) (a + b)
  | sub {l r : Formula} {a b : Int} (hl : ExactValue inputs l a) (hr : ExactValue inputs r b)
    (h : Number.Fits (a - b)) : ExactValue inputs (.infixOp "-" l r) (a - b)
  | mul {l r : Formula} {a b : Int} (hl : ExactValue inputs l a) (hr : ExactValue inputs r b)
    (h : Number.Fits (a * b)) : ExactValue inputs (.infixOp "*" l r) (a * b)
  | pow {l r : Formula} {a b : Int} (hl : ExactValue inputs l a) (hr : ExactValue inputs r b)
    (hb : 0 ≤ b) (hsize : b.toNat < UInt32.size) (h : Number.Fits (a.pow b.toNat)) :
    ExactValue inputs (.infixOp "^" l r) (a.pow b.toNat)
  | plus {f : Formula} {a : Int} (hf : ExactValue inputs f a) :
    ExactValue inputs (.prefixOp "+" f) a
  | neg {f : Formula} {a : Int} (hf : ExactValue inputs f a) (h : Number.Fits (-a)) :
    ExactValue inputs (.prefixOp "-" f) (-a)

namespace Formula

variable {f : Formula} {inputs : Inputs} {n : Int}

/-- The operands of an integer formula are values. -/
theorem IsInteger.values (h : f.IsInteger) : f.All .values := by
  refine All.mono ⟨?_, fun _ _ => trivial, fun _ _ => trivial, fun _ _ _ => trivial⟩ f h
  rintro t ⟨i, rfl⟩
  rfl

/-- Regrouping keeps a formula an integer formula. -/
theorem IsInteger.regroup (h : f.IsInteger) : f.regroup.IsInteger :=
  All.regroup (fun _ _ => False.elim) f h

/-- A formula over integers has no calls. -/
theorem IsInteger.fits (h : f.IsInteger) (functions : FunctionTable) : f.Fits functions := by
  rw [fits_iff_all]
  exact All.mono ⟨fun _ _ => trivial, fun _ _ => trivial, fun _ _ => trivial,
    fun _ _ => False.elim⟩ f h

/-- Only integer formulas have an exact value. -/
theorem ExactValue.isInteger (h : f.ExactValue inputs n) : f.IsInteger := by
  induction h with
  | literal i => exact ⟨i, rfl⟩
  | range => trivial
  | group _ ih => exact ih
  | add _ _ _ ihl ihr | sub _ _ _ ihl ihr | mul _ _ _ ihl ihr | pow _ _ _ _ _ ihl ihr =>
    exact ⟨by simp [NodeRule.integers], ihl, ihr⟩
  | plus _ ih | neg _ _ ih => exact ⟨by simp [NodeRule.integers], ih⟩

end Formula

/-! ### One operator -/

section
variable {e : Environment} {s : String} {l r argument : Formula} {a b n : Int}

/-- Is the value of the formula the integer `n`, as a 64-bit integer? -/
def Formula.Yields (f : Formula) (e : Environment) (n : Int) : Prop :=
  ∃ x, f.value e = .ok (.number x) ∧ IsExactly n x

/-- An infix operator that is exact on the values of its operands.  An integer is finite, so the
    operator does not refuse its result. -/
theorem Formula.Yields.infixOp {f : Number → Number → Number} (hl : l.Yields e a)
    (hr : r.Yields e b) (hs : s ≠ "/") (hop : e.operators.get? s = some (Operator.numeric f))
    (hf : ∀ x y, IsExactly a x → IsExactly b y → IsExactly n (f x y)) :
    (Formula.infixOp s l r).Yields e n := by
  obtain ⟨x, hx, hxa⟩ := hl
  obtain ⟨y, hy, hyb⟩ := hr
  have hexact : IsExactly n (f x y) := hf x y hxa hyb
  -- An exact result is finite, so the operator hands it on.
  have hresult : Operator.numeric f (.number x) (.number y) = .number (f x y) :=
    if_pos hexact.isFinite
  have happly := Environment.applyInfix_registered (a := .number x) (b := .number y)
    (fun heq => absurd heq hs) hop
  refine ⟨f x y, ?_, hexact⟩
  rw [Formula.value, hx, hy, ← hresult]
  exact happly

/-- A prefix operator that is exact on the value of its operand. -/
theorem Formula.Yields.prefixOp {f : Number → Number} (ha : argument.Yields e a)
    (hop : e.operators.getPrefix? s = some (Operator.numericPrefix f))
    (hf : ∀ x, IsExactly a x → IsExactly n (f x)) :
    (Formula.prefixOp s argument).Yields e n := by
  obtain ⟨x, hx, hxa⟩ := ha
  have hexact : IsExactly n (f x) := hf x hxa
  have hresult : Operator.numericPrefix f (.number x) = .number (f x) := if_pos hexact.isFinite
  have happly := Environment.applyPrefix_registered (a := .number x) hop
  refine ⟨f x, ?_, hexact⟩
  rw [Formula.value, hx, ← hresult]
  exact happly

end

/-! ### The operators of this library -/

namespace OperatorTable

open Operator

/-- Registering a prefix operator does not touch the infix ones. -/
theorem get?_registerPrefix (t : OperatorTable) (symbols : List String) (op : PrefixOperator)
    (s : String) : (t.registerPrefix symbols op).get? s = t.get? s := rfl

/-- The symbol `+` stands for addition of numbers. -/
theorem builtin_add : builtin.get? "+" = some (numeric (· + ·)) := by
  simp [builtin, get?_register, get?_registerPrefix]

/-- The symbol `-` stands for subtraction of numbers. -/
theorem builtin_sub : builtin.get? "-" = some (numeric (· - ·)) := by
  simp [builtin, get?_register, get?_registerPrefix]

/-- The symbol `*` stands for multiplication of numbers. -/
theorem builtin_mul : builtin.get? "*" = some (numeric (· * ·)) := by
  simp [builtin, get?_register, get?_registerPrefix]

/-- The symbol `^` stands for the power of numbers. -/
theorem builtin_pow : builtin.get? "^" = some (numeric (· ^ ·)) := by
  simp [builtin, get?_register, get?_registerPrefix]

/-- As a prefix, `+` leaves a number as it is. -/
theorem builtin_plus : builtin.getPrefix? "+" = some (numericPrefix id) := by
  simp [builtin, getPrefix?_registerPrefix]

/-- As a prefix, `-` negates a number. -/
theorem builtin_neg : builtin.getPrefix? "-" = some (numericPrefix (- ·)) := by
  simp [builtin, getPrefix?_registerPrefix]

end OperatorTable

/-! ### Formulas -/

/-- **Integer formulas are computed exactly.**  The value of the formula is its exact value. -/
theorem Formula.ExactValue.yields {f : Formula} {inputs : Inputs} {n : Int}
    (h : f.ExactValue inputs n) (functions : FunctionTable) :
    f.Yields ⟨.builtin, functions, inputs⟩ n := by
  -- By induction on the derivation: each operator of the grammar is exact on exact operands.
  induction h with
  | literal i => exact ⟨.int i, rfl, Number.isExactly_int i⟩
  | @range name i h =>
    refine ⟨.int i, ?_, Number.isExactly_int i⟩
    simp only [Formula.value, Environment.load, h, Token.ofInt]
  | group _ ih => exact ih
  | add _ _ h ihl ihr =>
    exact ihl.infixOp ihr (by decide) OperatorTable.builtin_add fun _ _ hx hy => hx.add hy h
  | sub _ _ h ihl ihr =>
    exact ihl.infixOp ihr (by decide) OperatorTable.builtin_sub fun _ _ hx hy => hx.sub hy h
  | mul _ _ h ihl ihr =>
    exact ihl.infixOp ihr (by decide) OperatorTable.builtin_mul fun _ _ hx hy => hx.mul hy h
  | pow _ _ hb hsize h ihl ihr =>
    exact ihl.infixOp ihr (by decide) OperatorTable.builtin_pow fun _ _ hx hy =>
      hx.pow hy hb hsize h
  | plus _ ih => exact ih.prefixOp OperatorTable.builtin_plus fun _ hx => hx
  | neg _ h ih => exact ih.prefixOp OperatorTable.builtin_neg fun _ hx => hx.neg h

/-! ### Evaluators -/

namespace Evaluator

/-- **From tokens to an exact result.**  Take a formula of integers and inputs.  There is a way to
    group it that the ranks of its operators allow.  If it has an exact value when it is grouped
    so, then each spelling of the formula has an evaluator, and that yields the exact value as a
    64-bit integer. -/
theorem ofTokens_integer {f : Formula} (hf : f.IsInteger) :
    (∃ g : Formula, g.IsGrouped ∧ g.IsInteger ∧ g.tokens = f.tokens) ∧
      ∀ g : Formula, g.IsGrouped → g.tokens = f.tokens →
        ∀ inputs n, g.ExactValue inputs n →
          ∀ tokens, tokens.filterMap Token.structural? = f.tokens.filterMap Token.structural? →
            ∃ ev i, ofTokensBuiltin tokens = .ok ev ∧
              ev.evaluate inputs = .ok (.number (.int i)) ∧ i.toInt = n := by
  refine ⟨⟨f.regroup, f.isGrouped_regroup hf.values, hf.regroup, f.tokens_regroup⟩, ?_⟩
  intro g hg hg' inputs n hn tokens ht
  rw [← hg'] at ht
  -- Any grouped formula with these tokens will do, since its value is what is computed.
  obtain ⟨ev, hev, hvalue⟩ :=
    exists_ofTokens_of_isGrouped .builtin hg (hn.isInteger.fits .builtin) ht
  obtain ⟨x, hx, i, rfl, hi⟩ := hn.yields .builtin
  refine ⟨ev, i, hev, ?_, hi⟩
  rw [evaluate_eq_ok_iff]
  exact ⟨.number (.int i), by rw [hvalue, hx], rfl⟩

end Evaluator

/-! ### The end of the range -/

namespace IntegerFormulaExample

open Formula MixedExample

/-- The formula `(-2) ^ 63 + 5 * -x`. -/
def extreme : Formula :=
  infixOp "+" (infixOp "^" (group (prefixOp "-" (int 2))) (int 63))
    (infixOp "*" (int 5) (prefixOp "-" (range "x")))

/-- The integer minus three as the value of each input. -/
def inputs : Inputs := fun _ => some (.ofInt (-3))

theorem extreme_isInteger : extreme.IsInteger := by
  simp [extreme, int, IsInteger, All, NodeRule.integers, Token.ofInt]

theorem extreme_isGrouped : extreme.IsGrouped := by
  simp [extreme, int, IsGrouped, TakesOperands, Formula.rank, Precedence.groupsRight,
    Precedence.rank, Precedence.atomRank, Precedence.prefixRank, Token.isValue, Token.isOperand,
    Token.isRange, Token.ofInt]

/-- The power is the smallest 64-bit integer; the sum is what is left after fifteen steps up. -/
theorem extreme_exactValue : extreme.ExactValue inputs (-9223372036854775793) :=
  .add (.pow (.group (.neg (.literal 2) (by decide))) (.literal 63) (by decide) (by decide)
      (by decide))
    (.mul (.literal 5) (.neg (.range (i := -3) rfl) (by decide)) (by decide)) (by decide)

end IntegerFormulaExample

open IntegerFormulaExample in
/-- The smallest 64-bit integer, and fifteen more. -/
theorem Evaluator.ofTokens_integer_extreme :
    extreme.IsInteger ∧ extreme.IsGrouped ∧
      extreme.ExactValue inputs (-9223372036854775793) ∧
      ∃ ev i, ofTokensBuiltin extreme.tokens = .ok ev ∧
        ev.evaluate inputs = .ok (.number (.int i)) ∧ i.toInt = -9223372036854775793 :=
  ⟨extreme_isInteger, extreme_isGrouped, extreme_exactValue,
    (ofTokens_integer extreme_isInteger).2 extreme extreme_isGrouped rfl inputs _
      extreme_exactValue _ rfl⟩

end SheetFormula
