import SheetFormula.Program.Basic

namespace SheetFormula

/-!
# Formulas

A `Formula` is a formula as a tree.  It has two spellings:

* `tokens` is the infix one, which people write and tokenizers deliver;
* `items` is the postfix one, which a program executes: what a node works on stands before it.

A group is what stands in parentheses of its own.  It shows in the infix spelling only.
-/

mutual

/-- A formula. -/
inductive Formula
  | operand (value : Token)
  /-- The input with this name. -/
  | range (name : String)
  | infixOp (symbol : String) (left right : Formula)
  | prefixOp (symbol : String) (argument : Formula)
  | group (inner : Formula)
  /-- A call of the function with this name, which ends in the opening parenthesis. -/
  | call (name : String) (args : Arguments)

/-- The arguments of a call. -/
inductive Arguments
  | none
  | given (first : Formula) (rest : Arguments)
  /-- The first argument is left out. -/
  | omitted (rest : Arguments)

end

/-- The number of arguments, those left out included. -/
def Arguments.count : Arguments → Nat
  | none => 0
  | given _ rest | omitted rest => rest.count + 1

/-! ### The infix spelling -/

/-- The token between two arguments. -/
def Arguments.separator : Token := .separator ","

mutual

/-- The tokens of a formula. -/
def Formula.tokens : Formula → List Token
  | .operand t => [t]
  | .range name => [.range name]
  | .infixOp symbol left right => left.tokens ++ .infixOp symbol :: right.tokens
  | .prefixOp symbol argument => .prefixOp symbol :: argument.tokens
  | .group inner => .parenOpen :: inner.tokens ++ [.parenClose]
  | .call name args => .callOpen name :: args.tokens ++ [.callClose]

/-- The tokens of arguments, without the parentheses around them. -/
def Arguments.tokens : Arguments → List Token
  | .none => []
  | .given first rest => first.tokens ++ rest.moreTokens
  | .omitted rest => rest.moreTokens

/-- The tokens of arguments that follow another one. -/
def Arguments.moreTokens : Arguments → List Token
  | .none => []
  | .given first rest => Arguments.separator :: first.tokens ++ rest.moreTokens
  | .omitted rest => Arguments.separator :: rest.moreTokens

end

/-! ### The postfix spelling -/

mutual

/-- The items of a formula. -/
def Formula.items : Formula → List Item
  | .operand t => [.push t]
  | .range name => [.load name]
  | .infixOp symbol left right => left.items ++ right.items ++ [.infixOp symbol]
  | .prefixOp symbol argument => argument.items ++ [.prefixOp symbol]
  | .group inner => inner.items
  | .call name args => args.items ++ [.call name args.count]

/-- The items of arguments.  One that is left out is marked. -/
def Arguments.items : Arguments → List Item
  | .none => []
  | .given first rest => first.items ++ rest.items
  | .omitted rest => .push .omitted :: rest.items

end

/-- The program of a formula. -/
def Formula.program (f : Formula) : Program := .ofItems f.items

@[simp] theorem Formula.program_items (f : Formula) : f.program.items = f.items := rfl

end SheetFormula
