namespace SheetFormula.Binary64

/-!
# The exact value of a double

A finite double is `± significand · 2 ^ exponent`.  Everything that has to be exact about
doubles (is it integral, which of two is smaller, what are its shortest digits) is answered
here from the 64 bits, in integer arithmetic.

* `integer?` is the value of a double that has no fractional part.
* `compare?` orders doubles by value; it has no answer exactly when one of them is a NaN.
-/

/-! ### The fields of the bit pattern -/

/-- The weight of the sign bit, `2 ^ 63`. -/
def signBit : Nat := 0x8000000000000000

/-- The weight of the leading bit of a normal significand, `2 ^ 52`, which is also that of the
    lowest bit of the exponent field. -/
def leadingBit : Nat := 0x10000000000000

/-- The 63 bits below the sign bit.  For doubles of one sign they grow with the size. -/
def magnitude (x : Float) : Nat := x.toBits.toNat % signBit

/-- Is the sign bit set? -/
def isNegative (x : Float) : Bool := signBit ≤ x.toBits.toNat

/-- The magnitude of the two infinities; NaNs lie above it. -/
def infinityMagnitude : Nat := 2047 * leadingBit

def isNaN (x : Float) : Bool := infinityMagnitude < magnitude x

def isFinite (x : Float) : Bool := magnitude x < infinityMagnitude

/-- Both zeros have magnitude zero. -/
def isZero (x : Float) : Bool := magnitude x == 0

/-- The exponent field; zero marks a subnormal number. -/
def biasedExponent (x : Float) : Nat := magnitude x / leadingBit

/-- The significand as an integer, with the leading bit that normal numbers leave out. -/
def significand (x : Float) : Nat :=
  let fraction := magnitude x % leadingBit
  if biasedExponent x = 0 then fraction else leadingBit + fraction

/-- The power of two that the significand is multiplied by. -/
def exponent (x : Float) : Int := max 1 (biasedExponent x) - 1075

/-- Positive infinity. -/
def infinity : Float := Float.ofBits 0x7FF0000000000000

/-- A quiet NaN. -/
def nan : Float := Float.ofBits 0x7FF8000000000000

/-! ### Integral values -/

/-- The absolute value of a finite double without a fractional part. -/
def wholeMagnitude? (x : Float) : Option Nat :=
  if 0 ≤ exponent x then
    some (significand x * Nat.pow 2 (exponent x).toNat)
  else
    let unit := Nat.pow 2 (-exponent x).toNat
    if significand x % unit = 0 then some (significand x / unit) else none

/-- The exact value of a finite double without a fractional part; zero for both zeros. -/
def integer? (x : Float) : Option Int :=
  if isFinite x then
    (wholeMagnitude? x).map fun n => if isNegative x then -(n : Int) else n
  else
    none

/-! ### Order -/

/-- A key that orders all doubles except the NaNs by value: the signed magnitude. -/
def orderKey? (x : Float) : Option Int :=
  if isNaN x then none
  else some (if isNegative x then -(magnitude x : Int) else magnitude x)

/-- The order of two doubles by value; none if one of them is a NaN. -/
def compare? (x y : Float) : Option Ordering :=
  match orderKey? x, orderKey? y with
  | some a, some b => some (compare a b)
  | _, _ => none

/-- Only a NaN cannot be compared. -/
theorem compare?_eq_none_iff {x y : Float} :
    compare? x y = none ↔ isNaN x = true ∨ isNaN y = true := by
  unfold compare? orderKey?
  cases isNaN x <;> cases isNaN y <;> simp

/-- The order of two doubles, seen from the other side. -/
theorem compare?_swap (x y : Float) :
    compare? y x = (compare? x y).map Ordering.swap := by
  unfold compare?
  cases orderKey? x <;> cases orderKey? y <;> simp [Int.compare_swap]

end SheetFormula.Binary64
