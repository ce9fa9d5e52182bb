namespace SheetFormula

/-!
# Decimal numbers

A `Decimal` is `digits · 10 ^ exponent`.  The digits of a natural number are its ordinary
decimal digits, most significant first.
-/

/-- A non-negative decimal number, `digits · 10 ^ exponent`. -/
structure Decimal where
  digits : Nat
  exponent : Int
  deriving DecidableEq, Repr

namespace Decimal

/-- The decimal digits of `n`; `0` has one digit. -/
def digitsOf (n : Nat) : List Char := Nat.toDigits 10 n

/-- How many decimal digits `n` has. -/
def digitCount (n : Nat) : Nat := (digitsOf n).length

/-- The number that a list of digits denotes; the empty list denotes zero. -/
def ofDigits (ds : List Char) : Nat :=
  ds.foldl (fun n d => 10 * n + (d.toNat - '0'.toNat)) 0

/-- An integer in decimal digits, with a minus sign if it is negative. -/
def ofInt (n : Int) : List Char :=
  if n < 0 then '-' :: digitsOf n.natAbs else digitsOf n.natAbs

/-- A natural number as a text. -/
def natText (n : Nat) : String := String.ofList (digitsOf n)

/-- An integer as a text. -/
def intText (n : Int) : String := String.ofList (ofInt n)

/-- The position of the decimal point relative to the first digit: a number with point `p`
    lies in `[10 ^ (p - 1), 10 ^ p)` unless it is zero. -/
def point (d : Decimal) : Int := digitCount d.digits + d.exponent

/-- Moves trailing zeros of the digits into the exponent, at most `n` of them. -/
def dropZeros : Nat → Decimal → Decimal
  | 0, d => d
  | n + 1, d =>
    if d.digits % 10 = 0 then dropZeros n ⟨d.digits / 10, d.exponent + 1⟩ else d

end Decimal

end SheetFormula
