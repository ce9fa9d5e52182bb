import SheetFormula.Binary64

namespace SheetFormula

/-!
# Numbers

A number is a 64-bit integer or a double, and arithmetic keeps the two apart.

* `+`, `-`, `*` and negation of integers are exact; where the exact result is not a 64-bit
  integer, the operation is done in doubles instead.  Nothing ever wraps.
* `/` always gives a double.
* A power of integers is exact if the exponent is an unsigned 32-bit integer and the exact
  power a 64-bit integer; every other power is one of doubles.
* Two integers are compared exactly, any other two numbers as doubles.
-/

/-- A number, integral or floating. -/
inductive Number
  | int (value : Int64)
  | float (value : Float)
  deriving DecidableEq

namespace Number

/-- The 64-bit integer equal to `n`, if there is one. -/
def fit? (n : Int) : Option Int64 :=
  if Int64.minValue.toInt ≤ n ∧ n ≤ Int64.maxValue.toInt then some (Int64.ofInt n) else none

/-- The integer `n` if it fits, else the double `x`. -/
def intOr (n : Int) (x : Float) : Number :=
  match fit? n with
  | some i => .int i
  | none => .float x

/-- The nearest double. -/
def toFloat : Number → Float
  | .int i => Float.ofInt i.toInt
  | .float x => x

/-! ### Arithmetic -/

instance : Add Number where
  add
    | .int a, .int b => intOr (a.toInt + b.toInt) (toFloat (.int a) + toFloat (.int b))
    | a, b => .float (a.toFloat + b.toFloat)

instance : Sub Number where
  sub
    | .int a, .int b => intOr (a.toInt - b.toInt) (toFloat (.int a) - toFloat (.int b))
    | a, b => .float (a.toFloat - b.toFloat)

instance : Mul Number where
  mul
    | .int a, .int b => intOr (a.toInt * b.toInt) (toFloat (.int a) * toFloat (.int b))
    | a, b => .float (a.toFloat * b.toFloat)

instance : Div Number where
  div a b := .float (a.toFloat / b.toFloat)

instance : Neg Number where
  neg
    | .int a => intOr (-a.toInt) (-toFloat (.int a))
    | .float x => .float (-x)

/-- A power with the same 64-bit value as `b ^ n`, if any, but with a small exponent: from
    exponent 64 on the powers of `b` no longer fit, or they depend on the parity of the exponent
    only. -/
def boundedPower (b : Int) (n : Nat) : Int :=
  if n ≤ 64 then b.pow n
  else if 1 < b.natAbs then b.pow 64
  else b.pow (64 + n % 2)

/-- The exact power of two integers, if the exponent is an unsigned 32-bit integer and the power
    a 64-bit one. -/
def exactPower? (b e : Int) : Option Int64 :=
  if 0 ≤ e ∧ e.toNat < UInt32.size then fit? (boundedPower b e.toNat) else none

/-- Powers; doubles are raised by the power function of the floating-point unit. -/
def pow (a b : Number) : Number :=
  let inFloats := .float (Float.pow a.toFloat b.toFloat)
  match a, b with
  | .int x, .int y => ((exactPower? x.toInt y.toInt).map .int).getD inFloats
  | _, _ => inFloats

instance : Pow Number Number where
  pow := pow

/-! ### Tests and views -/

/-- Is the number an integer or a double other than the infinities and NaNs? -/
def isFinite : Number → Bool
  | .int _ => true
  | .float x => Binary64.isFinite x

/-- Is the number the integer zero or one of the two zero doubles? -/
def isZero : Number → Bool
  | .int i => i == 0
  | .float x => Binary64.isZero x

/-- Is the number a NaN? -/
def isNaN : Number → Bool
  | .int _ => false
  | .float x => Binary64.isNaN x

/-- The value of a number without fractional part.  Doubles count only below `9 · 10 ^ 15` in
    size, where every integer is a double. -/
def integral? : Number → Option Int
  | .int i => some i.toInt
  | .float x => (Binary64.integer? x).filter fun n => n.natAbs < 9000000000000000

/-! ### Order -/

/-- The order of two numbers by value; none if one of them is a NaN. -/
def compare? : Number → Number → Option Ordering
  | .int a, .int b => some (compare a.toInt b.toInt)
  | a, b => Binary64.compare? a.toFloat b.toFloat

/-- Have the two numbers the same value?  A NaN differs from every number. -/
def sameValue (a b : Number) : Bool := a.compare? b == some .eq

/-- The order of two numbers, seen from the other side. -/
theorem compare?_swap (a b : Number) : b.compare? a = (a.compare? b).map Ordering.swap := by
  match a, b with
  | .int _, .int _ => simp [compare?, Int.compare_swap]
  | .int _, .float _ | .float _, .int _ | .float _, .float _ => exact Binary64.compare?_swap _ _

/-- Two numbers are compared for equality without regard to which comes first. -/
theorem sameValue_comm (a b : Number) : a.sameValue b = b.sameValue a := by
  unfold sameValue
  rw [compare?_swap b a]
  cases b.compare? a with
  | none => rfl
  | some o => cases o <;> rfl

end Number

end SheetFormula
