import SheetFormula.Decimal.Style

namespace SheetFormula

/-!
# Numerals

A `Numeral` is the spelling of a decimal number: whole digits, an optional fraction after a
point and an optional exponent after an `e`.  `Numeral.ofChars?` takes a text apart without
deciding which spellings a format allows; `Numeral.toFloat` is the double nearest to the value
denoted, an infinity if it is too large.
-/

/-- The parts of a written decimal number, its sign aside. -/
structure Numeral where
  /-- The digits before the point. -/
  whole : List Char
  /-- The digits after the point, if there is one. -/
  fraction : Option (List Char)
  /-- The sign (is it a minus?) and the digits of the exponent, if there is one. -/
  exponent : Option (Bool × List Char)
  deriving DecidableEq, Repr

namespace Numeral

/-! ### Taking a text apart -/

/-- An exponent and nothing after it. -/
def exponent? (cs : List Char) : Option (Bool × List Char) :=
  let (negative, ds) :=
    match cs with
    | '-' :: r => (true, r)
    | '+' :: r => (false, r)
    | r => (false, r)
  if ds.all Char.isDigit then some (negative, ds) else none

/-- The parts of `cs`; none if anything is left over.  Each of the three lists of digits may be
    empty. -/
def ofChars? (cs : List Char) : Option Numeral :=
  let whole := cs.takeWhile Char.isDigit
  let (fraction, rest) :=
    match cs.dropWhile Char.isDigit with
    | '.' :: r => (some (r.takeWhile Char.isDigit), r.dropWhile Char.isDigit)
    | r => (none, r)
  match rest with
  | [] => some ⟨whole, fraction, none⟩
  | c :: r =>
    if c = 'e' ∨ c = 'E' then (exponent? r).map fun e => ⟨whole, fraction, some e⟩ else none

/-! ### Values -/

/-- The digits of the significand, those after the point included. -/
def significand (n : Numeral) : List Char := n.whole ++ n.fraction.getD []

/-- The power of ten that the significand is multiplied by. -/
def scale (n : Numeral) : Int :=
  let written : Int :=
    match n.exponent with
    | none => 0
    | some (negative, ds) =>
      if negative then -(Decimal.ofDigits ds : Int) else Decimal.ofDigits ds
  written - (n.fraction.getD []).length

/-- The decimal number denoted. -/
def value (n : Numeral) : Decimal := ⟨Decimal.ofDigits n.significand, n.scale⟩

/-- Does the spelling have neither a point nor an exponent? -/
def isInteger (n : Numeral) : Bool := n.fraction.isNone && n.exponent.isNone

end Numeral

/-- The double nearest to a decimal.  Points beyond 400 either way are far outside the range of
    doubles, so they need no arithmetic. -/
def Decimal.toFloat (d : Decimal) : Float :=
  if d.digits = 0 ∨ d.point < -400 then 0
  else if 400 < d.point then Binary64.infinity
  else if 0 ≤ d.exponent then Float.ofScientific d.digits false d.exponent.toNat
  else Float.ofScientific d.digits true (-d.exponent).toNat

/-- The double nearest to the number with this sign and spelling; a negative zero keeps its
    sign. -/
def Numeral.toFloat (negative : Bool) (n : Numeral) : Float :=
  if negative then -n.value.toFloat else n.value.toFloat

end SheetFormula
