import SheetFormula.Formula.Basic
import SheetFormula.Function.Table
import SheetFormula.Operator.Precedence
import SheetFormula.Program.Builder

namespace SheetFormula

/-!
# Formulas that read back

The infix spelling of a formula has no parentheses but those of its groups and calls, so not every
formula can be read back from it: `1 - 2 - 3` is the difference of a difference and a number, and
no other tree with these leaves.

* `Formula.IsGrouped` says that each operator has the operands that its rank allows.
* `Formula.Fits` says that each call has arguments that its function can be called with.
-/

namespace Formula

/-! ### Operators -/

/-- The rank of the outermost node. -/
def rank : Formula → Nat
  | infixOp symbol _ _ => Precedence.rank symbol
  | prefixOp _ _ => Precedence.prefixRank
  | operand _ | range _ | group _ | call _ _ => Precedence.atomRank

/-- May operands of these ranks stand on both sides of an infix symbol? -/
def TakesOperands (symbol : String) (left right : Nat) : Prop :=
  if Precedence.groupsRight symbol then
    Precedence.atomRank ≤ left ∧ Precedence.prefixRank ≤ right
  else
    Precedence.rank symbol ≤ left ∧ Precedence.rank symbol < right

instance (symbol : String) (left right : Nat) : Decidable (TakesOperands symbol left right) := by
  unfold TakesOperands
  infer_instance

end Formula

mutual

/-- Does each operator have the operands that its rank allows, and are all leaves values? -/
def Formula.IsGrouped : Formula → Prop
  | .operand t => t.isValue
  | .range _ => True
  | .infixOp symbol left right =>
    Formula.TakesOperands symbol left.rank right.rank ∧ left.IsGrouped ∧ right.IsGrouped
  | .prefixOp _ argument => Precedence.prefixRank ≤ argument.rank ∧ argument.IsGrouped
  | .group inner => inner.IsGrouped
  | .call _ args => args.AreGrouped

def Arguments.AreGrouped : Arguments → Prop
  | .none => True
  | .given first rest => first.IsGrouped ∧ rest.AreGrouped
  | .omitted rest => rest.AreGrouped

end

/-! ### Calls -/

/-- Can a function be called with these arguments?  A sole argument that is left out cannot be
    told from no argument: only a function with one slot, which has a default, takes it so. -/
def FunctionDef.Takes (d : FunctionDef) (args : Arguments) : Prop :=
  match d.slots, args with
  | none, .omitted .none => False
  | none, _ => True
  | some slots, .omitted .none => slots.length = 1 ∧ d.firstRequired = false
  | some slots, args => args.count = slots.length

mutual

/-- Is each function in the table, and can it be called with the arguments it has? -/
def Formula.Fits (functions : FunctionTable) : Formula → Prop
  | .operand _ | .range _ => True
  | .infixOp _ left right => left.Fits functions ∧ right.Fits functions
  | .prefixOp _ argument => argument.Fits functions
  | .group inner => inner.Fits functions
  | .call name args =>
    (∃ d, functions.get? name = some d ∧ d.Takes args) ∧ args.Fit functions

def Arguments.Fit (functions : FunctionTable) : Arguments → Prop
  | .none => True
  | .given first rest => first.Fits functions ∧ rest.Fit functions
  | .omitted rest => rest.Fit functions

end

end SheetFormula
