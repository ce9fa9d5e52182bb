import SheetFormula.ErrorValue
import SheetFormula.Number.Text

namespace SheetFormula

/-!
# Tokens

A formula is a sequence of tokens.  Operands carry values, and they are also what a formula is
computed with; the other tokens give it its structure.

* `kind`, `subtype` and `payload` are the three texts that a tokenizer gives for a token.
* `describe` is the form of a token in messages.
* `equals` compares tokens: numbers by value and errors by code.
* `sameValue` is equality of operands, as the operator `=` sees it.
-/

/-- A token of a formula. -/
inductive Token
  | logical (value : Bool)
  | text (value : String)
  | number (value : Number)
  /-- A named input. -/
  | range (name : String)
  | error (value : ErrorValue)
  /-- Stands in the place of an argument that is left out. -/
  | omitted
  /-- Starts a call.  The name ends in the opening parenthesis. -/
  | callOpen (name : String)
  | callClose
  | infixOp (symbol : String)
  | prefixOp (symbol : String)
  | parenOpen
  | parenClose
  /-- Stands between two arguments. -/
  | separator (text : String)
  | whitespace (text : String)
  /-- Any other combination of kind and subtype. -/
  | unrecognized (kind subtype value : String)
  deriving DecidableEq

namespace Token

/-- An error made by a computation. -/
def failure (code : ErrorCode) (message : String) : Token := .error ⟨code, message, none⟩

/-- An integer operand. -/
def ofInt (n : Int64) : Token := .number (.int n)

/-! ### The three texts of a token -/

def kind : Token → String
  | logical _ | text _ | number _ | range _ | error _ | omitted => "OPERAND"
  | callOpen _ | callClose => "FUNC"
  | infixOp _ => "OPERATOR-INFIX"
  | prefixOp _ => "OPERATOR-PREFIX"
  | parenOpen | parenClose => "PAREN"
  | separator _ => "SEP"
  | whitespace _ => "WHITE-SPACE"
  | unrecognized kind _ _ => kind

def subtype : Token → String
  | logical _ => "LOGICAL"
  | text _ => "TEXT"
  | number _ => "NUMBER"
  | range _ => "RANGE"
  | error _ => "ERROR"
  | omitted => "EMPTY"
  | callOpen _ | parenOpen => "OPEN"
  | callClose | parenClose => "CLOSE"
  | separator _ => "ARG"
  | infixOp _ | prefixOp _ | whitespace _ => ""
  | unrecognized _ subtype _ => subtype

/-- The text of a truth value. -/
def logicalText (b : Bool) : String := if b then "TRUE" else "FALSE"

/-- The value of a token as text. -/
def payload : Token → String
  | logical b => logicalText b
  | number n => n.text
  | error e => e.code.text
  | omitted => ""
  | text s | range s | callOpen s | infixOp s | prefixOp s | separator s | whitespace s => s
  | callClose | parenClose => ")"
  | parenOpen => "("
  | unrecognized _ _ value => value

/-- Kind and subtype together. -/
def typeText (t : Token) : String := t.kind ++ "/" ++ t.subtype

/-- The token as it is shown in messages. -/
def describe (t : Token) : String :=
  "Token<v:" ++ t.payload ++ " t:" ++ t.kind ++ " s:" ++ t.subtype ++ " >"

/-! ### Views -/

/-- Does the token carry a value? -/
def isOperand : Token → Bool
  | logical _ | text _ | number _ | range _ | error _ | omitted => true
  | _ => false

def isError : Token → Bool
  | error _ => true
  | _ => false

def isOmitted : Token → Bool
  | omitted => true
  | _ => false

def isRange : Token → Bool
  | range _ => true
  | _ => false

/-- Is the token an operand other than a range? -/
def isValue (t : Token) : Bool := t.isOperand && !t.isRange

def number? : Token → Option Number
  | number n => some n
  | _ => none

def logical? : Token → Option Bool
  | logical b => some b
  | _ => none

def error? : Token → Option ErrorValue
  | error e => some e
  | _ => none

/-- The text of a truth value, a number or a text; other tokens have none. -/
def asText? : Token → Option String
  | logical b => some (logicalText b)
  | number n => some n.text
  | text s => some s
  | _ => none

/-! ### Equality -/

/-- Are the tokens equal, numbers being compared by value and errors by code? -/
def equals : Token → Token → Bool
  | number a, number b => a.sameValue b
  | error a, error b => a.code == b.code
  | a, b => a == b

/-- Are both tokens operands, and equal? -/
def sameValue (a b : Token) : Bool := a.isOperand && b.isOperand && a.equals b

/-- Equality of tokens does not depend on which comes first. -/
theorem equals_comm (a b : Token) : a.equals b = b.equals a := by
  cases a <;> cases b <;> simp [equals, Number.sameValue_comm, Bool.beq_comm]

/-- Neither does equality of their values. -/
theorem sameValue_comm (a b : Token) : a.sameValue b = b.sameValue a := by
  unfold sameValue
  rw [equals_comm, Bool.and_comm a.isOperand]

end Token

end SheetFormula
