import SheetFormula.Decimal.Basic
import SheetFormula.Binary64

namespace SheetFormula.Decimal

/-!
# Shortest digits that read back

The shortest decimal of a positive double is the one with the fewest digits among those that
round to that double, and of these the closest to its exact value.  Two decimals of one length
can be equally close; which of them is taken is up to the format (`Tie`).

For `n = 1, 2, …` the search looks at the decimal grid on which the double has `n` digits, and
there only at the two grid points around the exact value: if any grid point rounds to the
double, one of these does.  All comparisons are between integers.
-/

/-- Which of two equally close decimals is taken. -/
inductive Tie
  /-- The larger one. -/
  | up
  /-- The one with an even last digit. -/
  | even
  deriving DecidableEq, Repr

/-- A positive double `significand · 2 ^ exponent`. -/
structure Target where
  significand : Nat
  exponent : Int
  /-- The next smaller double is only half as far away as the next larger one. -/
  narrowBelow : Bool
  deriving DecidableEq, Repr

/-- The absolute value of a finite double that is not zero.  The gap below it is narrow exactly
    at the powers of two above the least normal number. -/
def Target.ofFloat (x : Float) : Target :=
  ⟨Binary64.significand x, Binary64.exponent x,
    Binary64.significand x == Binary64.leadingBit && 1 < Binary64.biasedExponent x⟩

namespace Target

/-- The target is `numerator step / denominator step` in units of `10 ^ step`. -/
def scale (t : Target) (step : Int) : Nat :=
  Nat.pow 2 t.exponent.toNat * Nat.pow 10 (-step).toNat

/-- See `scale`. -/
def numerator (t : Target) (step : Int) : Nat := t.significand * t.scale step

/-- See `scale`. -/
def denominator (t : Target) (step : Int) : Nat :=
  Nat.pow 2 (-t.exponent).toNat * Nat.pow 10 step.toNat

/-- Does `n · 10 ^ step` round to the target?  The numbers that do form an interval around it,
    reaching half way to its neighbours; the two ends belong to it when the significand is
    even.  Everything is scaled by four so that the ends are integers. -/
def readsBack (t : Target) (step : Int) (n : Nat) : Bool :=
  let candidate := 4 * (n * t.denominator step)
  let value := 4 * t.numerator step
  let below := (if t.narrowBelow then 1 else 2) * t.scale step
  let above := 2 * t.scale step
  if t.significand % 2 = 0 then
    value ≤ candidate + below && candidate ≤ value + above
  else
    value < candidate + below && candidate < value + above

/-- The closer of the two grid points `lower` and `lower + 1` around the target. -/
def closer (t : Target) (tie : Tie) (step : Int) (lower : Nat) : Nat :=
  let remainder := t.numerator step % t.denominator step
  match compare (2 * remainder) (t.denominator step) with
  | .lt => lower
  | .gt => lower + 1
  | .eq =>
    match tie with
    | .up => lower + 1
    | .even => if lower % 2 = 0 then lower else lower + 1

/-- The grid point of step `10 ^ step` that stands for the target, if one of the two around it
    rounds to it. -/
def onGrid? (t : Target) (tie : Tie) (step : Int) : Option Decimal :=
  let lower := t.numerator step / t.denominator step
  match t.readsBack step lower, t.readsBack step (lower + 1) with
  | true, true => some ⟨t.closer tie step lower, step⟩
  | true, false => some ⟨lower, step⟩
  | false, true => some ⟨lower + 1, step⟩
  | false, false => none

/-- The position of the target's decimal point: it lies in `[10 ^ (p - 1), 10 ^ p)`. -/
def point (t : Target) : Int :=
  let numerator := t.significand * Nat.pow 2 t.exponent.toNat
  let denominator := Nat.pow 2 (-t.exponent).toNat
  if denominator ≤ numerator then digitCount (numerator / denominator)
  else 1 - digitCount (denominator / numerator)

/-- The numbers of digits to try.  Seventeen digits tell any two doubles apart. -/
def lengths : List Nat := List.range' 1 17

/-- The decimal with the fewest digits that rounds to the target. -/
def shortest (t : Target) (tie : Tie) : Decimal :=
  let found := lengths.findSome? fun (n : Nat) => t.onGrid? tie (t.point - n)
  dropZeros 17
    (found.getD ⟨t.numerator (t.point - 17) / t.denominator (t.point - 17), t.point - 17⟩)

end Target

/-- The shortest decimal for the absolute value of a finite double. -/
def shortest (tie : Tie) (x : Float) : Decimal :=
  if Binary64.isZero x then ⟨0, 0⟩ else (Target.ofFloat x).shortest tie

end SheetFormula.Decimal
