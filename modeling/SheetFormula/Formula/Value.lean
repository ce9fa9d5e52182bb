import SheetFormula.Evaluator
import SheetFormula.Formula.Basic

namespace SheetFormula

/-!
# The value of a formula

`Formula.value` computes a formula along its tree: the parts of a node come before the node, from
left to right, and the first error ends the computation.
-/

mutual

/-- The token that a formula stands for. -/
def Formula.value (e : Environment) : Formula → Except EvaluationError Token
  | .operand t => .ok t
  | .range name => e.load name
  | .infixOp symbol left right => do
    let a ← left.value e
    let b ← right.value e
    e.applyInfix symbol a b
  | .prefixOp symbol argument => do
    let a ← argument.value e
    e.applyPrefix symbol a
  | .group inner => inner.value e
  | .call name args => do
    let ts ← args.values e
    let d ← e.findFunction name
    Environment.invoke name d ts

/-- The tokens that arguments stand for. -/
def Arguments.values (e : Environment) : Arguments → Except EvaluationError (List Token)
  | .none => .ok []
  | .given first rest => do
    let t ← first.value e
    let ts ← rest.values e
    return t :: ts
  | .omitted rest => do
    let ts ← rest.values e
    return .omitted :: ts

end

end SheetFormula
