import SheetFormula.Function.Basic

namespace SheetFormula.Function

/-!
# Logical functions
-/

/-- `NOT(value)`: the opposite of a truth value; a number counts as true unless it is zero. -/
def not : FunctionBody := fun args =>
  match argument args 0 with
  | .logical b => .logical !b
  | .number n => .logical n.isZero
  | .error e => .error e
  | t => .failure .value ("Expected boolean or number but '" ++ t.subtype ++ "' was found")

/-- `ISERROR(value)`: is the argument an error? -/
def isError : FunctionBody := fun args => .logical (argument args 0).isError

end SheetFormula.Function
