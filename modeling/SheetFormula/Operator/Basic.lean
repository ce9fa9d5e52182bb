import SheetFormula.Scalar

namespace SheetFormula

/-!
# Operators

An infix operator takes two tokens to one, a prefix operator one token.  The operators of this
library keep one contract:

1. An error operand is handed on unchanged, the left one first.
2. Values are computed with.
3. A token that is no value gives `#REF!`.

`numeric` and `numericPrefix` turn a function on numbers into an operator that keeps it.
-/

abbrev InfixOperator := Token → Token → Token

abbrev PrefixOperator := Token → Token

namespace Operator

/-! ### The contract -/

/-- The first operand that is an error. -/
def firstError? (a b : Token) : Option Token :=
  if a.isError then some a else if b.isError then some b else none

/-- The result for two operands that are not both values. -/
def notValues (a b : Token) : Token :=
  .failure .reference ("Expected 2 values but got " ++ a.typeText ++ " and " ++ b.typeText)

/-- Hands an error operand on and leaves all else to `op`. -/
def guardErrors (op : InfixOperator) : InfixOperator :=
  fun a b => (firstError? a b).getD (op a b)

/-! ### Arithmetic -/

/-- What a token is as an operand of arithmetic. -/
inductive Numeric
  | value (n : Number)
  /-- A value, but no number. -/
  | mismatch
  /-- Not a value. -/
  | invalid
  deriving DecidableEq

/-- Truth values count as zero and one. -/
def numericOperand : Token → Numeric
  | .number n => .value n
  | .logical b => .value (.int (if b then 1 else 0))
  | .text _ | .omitted => .mismatch
  | _ => .invalid

/-- A number as a result: it has to be finite. -/
def finite (n : Number) : Token :=
  if n.isFinite then .number n else .failure .number "Numeric result out of range"

/-- The infix operator that computes with `f`. -/
def numeric (f : Number → Number → Number) : InfixOperator :=
  guardErrors fun a b =>
    match numericOperand a, numericOperand b with
    | .value x, .value y => finite (f x y)
    | .invalid, _ | _, .invalid => notValues a b
    | _, _ =>
      .failure .value ("Expected numbers but got " ++ a.subtype ++ " and " ++ b.subtype)

/-- The prefix operator that computes with `f`. -/
def numericPrefix (f : Number → Number) : PrefixOperator := fun a =>
  if a.isError then a
  else
    match numericOperand a with
    | .value x => finite (f x)
    | .mismatch => .failure .value ("Expected a number but got " ++ a.subtype)
    | .invalid => .failure .reference ("Expected a value but got " ++ a.typeText)

/-- Division.  A zero divisor gives `#DIV/0!`. -/
def divide : InfixOperator := fun a b =>
  match numericOperand a, numericOperand b with
  | .value _, .value d =>
    if d.isZero then .failure .divisionByZero "Division by zero"
    else numeric (· / ·) a b
  | _, _ => numeric (· / ·) a b

/-! ### Text -/

/-- The text of an operand of `&`; an omitted argument is empty. -/
def concatText? : Token → Option String
  | .omitted => some ""
  | t => t.asText?

/-- The texts of both operands, one after the other. -/
def concat : InfixOperator :=
  guardErrors fun a b =>
    match concatText? a, concatText? b with
    | some x, some y => .text (x ++ y)
    | _, _ => notValues a b

/-! ### Comparison -/

/-- Are the operands equal?  A range is compared by its name. -/
def equal : InfixOperator :=
  guardErrors fun a b =>
    if a.isOperand && b.isOperand then .logical (a.sameValue b) else notValues a b

/-- Are the operands different? -/
def notEqual : InfixOperator := fun a b =>
  match equal a b with
  | .logical e => .logical !e
  | t => t

/-- The rank of a value among values of other kinds: numbers come before texts, texts before
    truth values. -/
def kindRank : Token → Nat
  | .text _ => 1
  | .logical _ => 2
  | _ => 0

/-- A number or, for an omitted argument, zero. -/
def numberOrZero (t : Token) : Number := t.number?.getD (.int 0)

/-- The order of two values: texts by their lower case, `FALSE` before `TRUE`.  There is none if
    one of two numbers is a NaN. -/
def order? : Token → Token → Option Ordering
  | .text x, .text y =>
    some (compare (String.ofList (Text.lower x.toList)) (String.ofList (Text.lower y.toList)))
  | .logical x, .logical y => some (compare x y)
  | a, b =>
    if kindRank a = 0 ∧ kindRank b = 0 then (numberOrZero a).compare? (numberOrZero b)
    else some (compare (kindRank a) (kindRank b))

/-- Is the order of the operands one of those that `accept` names? -/
def ordered (accept : Ordering → Bool) : InfixOperator :=
  guardErrors fun a b =>
    if a.isValue && b.isValue then
      match order? a b with
      | some o => .logical (accept o)
      | none => .failure .number "Cannot order NaN"
    else
      notValues a b

def less : InfixOperator := ordered Ordering.isLT

def greater : InfixOperator := ordered Ordering.isGT

def lessOrEqual : InfixOperator := ordered Ordering.isLE

def greaterOrEqual : InfixOperator := ordered Ordering.isGE

end Operator

end SheetFormula
