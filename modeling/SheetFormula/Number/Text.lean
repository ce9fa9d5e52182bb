import SheetFormula.Decimal.Numeral
import SheetFormula.Number.Basic
import SheetFormula.Text.Blank

namespace SheetFormula.Number

/-!
# Numbers as text

`text` writes a number, `ofText?` reads one.

A double without fractional part and smaller than `10 ^ 15` in size is written like an integer;
so are both zeros.  A text that is read may have blanks around it.  Digits with an optional sign
are an integer if they fit; everything else is a double: digits with a point or an exponent, or
a name of an infinity or NaN.
-/

/-! ### Writing -/

/-- The text of a number. -/
def text : Number → String
  | .int i => Decimal.intText i.toInt
  | .float x =>
    match (Binary64.integer? x).filter fun n => n.natAbs < 1000000000000000 with
    | some n => Decimal.intText n
    | none => Decimal.plain.render x

/-! ### Reading -/

/-- The sign in front of a text (is it a minus?) and what follows it. -/
def splitSign : List Char → Bool × List Char
  | '-' :: r => (true, r)
  | '+' :: r => (false, r)
  | r => (false, r)

/-- The integer written by digits with an optional sign, if it is a 64-bit one. -/
def intOfText? (cs : List Char) : Option Int64 :=
  let (negative, ds) := splitSign cs
  if ds ≠ [] ∧ ds.all Char.isDigit then
    fit? (if negative then -(Decimal.ofDigits ds : Int) else Decimal.ofDigits ds)
  else
    none

/-- The positive double with a name, in letters of any case. -/
def floatOfName? (cs : List Char) : Option Float :=
  match String.ofList (cs.map Char.toLower) with
  | "inf" | "infinity" => some Binary64.infinity
  | "nan" => some Binary64.nan
  | _ => none

/-- The positive double written in digits.  There is a digit before or after the point, and one
    in the exponent if there is an exponent. -/
def floatOfDigits? (cs : List Char) : Option Float :=
  (Numeral.ofChars? cs).bind fun n =>
    if n.significand ≠ [] ∧ n.exponent.all (·.2 ≠ []) then some (n.toFloat false) else none

/-- The double written by a name or by digits, with an optional sign. -/
def floatOfText? (cs : List Char) : Option Float :=
  let (negative, rest) := splitSign cs
  ((floatOfName? rest).or (floatOfDigits? rest)).map fun x => if negative then -x else x

/-- The number that a text denotes. -/
def ofText? (s : String) : Option Number :=
  let cs := Text.trim s.toList
  ((intOfText? cs).map .int).or ((floatOfText? cs).map .float)

end SheetFormula.Number
