import SheetFormula.Operator.Table
import SheetFormula.Program.Builder

namespace SheetFormula

/-!
# Evaluation

An `Evaluator` is a program with the tables of operators and functions it was built with.  It runs
the program on a stack of values; the values of the inputs are given for each run.

A failure inside a sheet is a value and passes through the stack like any other.  An
`EvaluationError` means that the program could not be run to its end.
-/

/-- Why a program has no result. -/
inductive EvaluationError
  | missingInput (name : String)
  | notEnoughValues (operation : String)
  | tooManyValues
  | noValue
  /-- The result is a token that is no value. -/
  | notAValue (token : Token)
  | undefinedOperator (symbol : String)
  | undefinedFunction (name : String)
  | missingArgument (function : String) (index : Nat)
  deriving DecidableEq

def EvaluationError.message : EvaluationError → String
  | missingInput name => "Missing input for range `" ++ name ++ "`."
  | notEnoughValues operation => "Not enough values for operation '" ++ operation ++ "'."
  | tooManyValues => "Formula evaluation error: too many values remaining."
  | noValue => "Formula evaluation error: no value produced."
  | notAValue token =>
    "Formula evaluation error: `" ++ token.describe ++ "` is not a value."
  | undefinedOperator symbol => "Undefined operator '" ++ symbol ++ "'."
  | undefinedFunction name => "Undefined function `" ++ name ++ "`."
  | missingArgument function index =>
    "Missing required argument at " ++ Decimal.natText index ++ " for function `" ++ function ++ "`"

/-- The values of the inputs, by name. -/
abbrev Inputs := String → Option Token

/-- What a program is run with. -/
structure Environment where
  operators : OperatorTable
  functions : FunctionTable
  inputs : Inputs

namespace Environment

/-! ### The operations -/

/-- The value of an input. -/
def load (e : Environment) (name : String) : Except EvaluationError Token :=
  match e.inputs name with
  | some t => .ok t
  | none => .error (.missingInput name)

/-- Is the token the number zero? -/
def isZeroNumber (t : Token) : Bool := t.number?.any Number.isZero

/-- The result of an infix operator.  The quotient by the number zero is `#DIV/0!` whatever
    operator `/` stands for. -/
def applyInfix (e : Environment) (symbol : String) (a b : Token) : Except EvaluationError Token :=
  if symbol = "/" ∧ isZeroNumber b then .ok (.failure .divisionByZero "Division by zero")
  else
    match e.operators.applyInfix? symbol a b with
    | some t => .ok t
    | none => .error (.undefinedOperator symbol)

/-- The result of a prefix operator. -/
def applyPrefix (e : Environment) (symbol : String) (a : Token) : Except EvaluationError Token :=
  match e.operators.applyPrefix? symbol a with
  | some t => .ok t
  | none => .error (.undefinedOperator symbol)

/-- The definition of a function. -/
def findFunction (e : Environment) (name : String) : Except EvaluationError FunctionDef :=
  match e.functions.get? name with
  | some d => .ok d
  | none => .error (.undefinedFunction name)

/-- The result of a function that is called by `name`, once its slots are filled. -/
def invoke (name : String) (d : FunctionDef) (args : List Token) :
    Except EvaluationError Token :=
  match d.slots with
  | none => .ok (d.body args)
  | some slots =>
    match resolveSlots slots args with
    | .ok filled => .ok (d.body filled)
    | .error index => .error (.missingArgument name index)

/-! ### The stack -/

/-- The `count` topmost values of a stack, the lowest first, and the stack below them. -/
def pop (operation : String) (count : Nat) (stack : List Token) :
    Except EvaluationError (List Token × List Token) :=
  if count ≤ stack.length then .ok ((stack.take count).reverse, stack.drop count)
  else .error (.notEnoughValues operation)

/-- Executes one item.  The top of the stack is the head of the list. -/
def step (e : Environment) (stack : List Token) : Item → Except EvaluationError (List Token)
  | .push t => .ok (t :: stack)
  | .load name => do
    let t ← e.load name
    return t :: stack
  | .infixOp symbol =>
    match stack with
    | b :: a :: rest => do
      let t ← e.applyInfix symbol a b
      return t :: rest
    | _ => .error (.notEnoughValues symbol)
  | .prefixOp symbol =>
    match stack with
    | a :: rest => do
      let t ← e.applyPrefix symbol a
      return t :: rest
    | _ => .error (.notEnoughValues symbol)
  | .call name count => do
    let d ← e.findFunction name
    let (args, rest) ← pop name count stack
    let t ← invoke name d args
    return t :: rest

/-- Executes items one after the other. -/
def run (e : Environment) (stack : List Token) : List Item → Except EvaluationError (List Token)
  | [] => .ok stack
  | i :: is => do
    let stack ← e.step stack i
    e.run stack is

/-- The one value that is left on the stack. -/
def result : List Token → Except EvaluationError Token
  | [] => .error .noValue
  | [t] => .ok t
  | _ => .error .tooManyValues

end Environment

/-! ### Evaluators -/

/-- A formula that is ready to be evaluated. -/
structure Evaluator where
  program : Program
  operators : OperatorTable
  functions : FunctionTable

namespace Evaluator

/-- The evaluator of a formula, which keeps the two tables. -/
def ofTokens (operators : OperatorTable) (functions : FunctionTable) (tokens : List Token) :
    Except SyntaxError Evaluator :=
  (Program.ofTokens functions tokens).map fun p => ⟨p, operators, functions⟩

/-- The evaluator of a formula that uses the operators and functions of this library. -/
def ofTokensBuiltin (tokens : List Token) : Except SyntaxError Evaluator :=
  ofTokens .builtin .builtin tokens

/-- The token that the formula yields, with its message if it is an error. -/
def evaluateToken (ev : Evaluator) (inputs : Inputs) : Except EvaluationError Token := do
  let stack ← Environment.run ⟨ev.operators, ev.functions, inputs⟩ [] ev.program.items
  Environment.result stack

/-- The scalar of a token that a formula yields. -/
def scalarOf (t : Token) : Except EvaluationError Scalar :=
  match t.scalar? with
  | some s => .ok s
  | none => .error (.notAValue t)

/-- The value of the formula. -/
def evaluate (ev : Evaluator) (inputs : Inputs) : Except EvaluationError Scalar := do
  let t ← ev.evaluateToken inputs
  scalarOf t

end Evaluator

end SheetFormula
