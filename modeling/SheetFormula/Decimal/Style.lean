import SheetFormula.Decimal.Shortest

namespace SheetFormula.Decimal

/-!
# Ways of writing a double

A `Style` says how the shortest digits of a double are laid out: for which sizes the point is
written in place and for which an exponent is used, and whether whole numbers keep a `.0`.
The three styles of this library are `plain`, `json` and `listing`.
-/

/-- The choices of a way to write a finite double. -/
structure Style where
  /-- Exponents of the leading digit that are written without an exponent part, as a first and
      a last one; none if all are. -/
  inPlace : Option (Int × Int)
  /-- Do whole numbers written in place end in `.0`? -/
  wholePoint : Bool
  /-- Does a positive exponent have a plus sign? -/
  exponentPlus : Bool
  /-- Which of two equally close decimals is written. -/
  tie : Tie

/-- Numbers in results and messages: never an exponent, no point after whole numbers. -/
def plain : Style := ⟨none, false, false, .up⟩

/-- Numbers in JSON: from `1e-5` up to but not including `1e+16` in place, with `.0` after
    whole numbers. -/
def json : Style := ⟨some (-5, 15), true, true, .even⟩

/-- Numbers in listings of definitions: from `1e-4` up to but not including `1e16` in place,
    with `.0` after whole numbers. -/
def listing : Style := ⟨some (-4, 15), true, false, .up⟩

namespace Style

/-- Is a number whose leading digit has exponent `e` written in place? -/
def writesInPlace (s : Style) (e : Int) : Bool :=
  match s.inPlace with
  | none => true
  | some (first, last) => first ≤ e && e ≤ last

/-- A decimal with its point in place: before, inside or after the digits. -/
def positional (s : Style) (d : Decimal) : List Char :=
  let ds := digitsOf d.digits
  if d.point ≤ 0 then
    '0' :: '.' :: List.replicate (-d.point).toNat '0' ++ ds
  else if d.point < ds.length then
    ds.take d.point.toNat ++ '.' :: ds.drop d.point.toNat
  else
    ds ++ List.replicate (d.point.toNat - ds.length) '0' ++
      (if s.wholePoint then ['.', '0'] else [])

/-- A decimal with one digit before the point and an exponent. -/
def scientific (s : Style) (d : Decimal) : List Char :=
  let ds := digitsOf d.digits
  let e := d.point - 1
  ds.take 1 ++ (if ds.length = 1 then [] else '.' :: ds.drop 1) ++
    'e' :: (if 0 ≤ e && s.exponentPlus then ['+'] else []) ++ ofInt e

/-- The text of a decimal in a style. -/
def layOut (s : Style) (d : Decimal) : List Char :=
  if s.writesInPlace (d.point - 1) then s.positional d else s.scientific d

/-- The text of a double: the sign, then the shortest digits laid out, or the name of a value
    that is not finite. -/
def render (s : Style) (x : Float) : String :=
  if Binary64.isNaN x then "NaN"
  else
    let sign := if Binary64.isNegative x then ['-'] else []
    if Binary64.isFinite x then String.ofList (sign ++ s.layOut (shortest s.tie x))
    else String.ofList (sign ++ ['i', 'n', 'f'])

end Style

end SheetFormula.Decimal
