import SheetFormula.Token.Basic

namespace SheetFormula

/-!
# Scalars

A scalar is what a formula finally yields: a value without its diagnostic message.  Operands
have a scalar, except ranges; other tokens have none.
-/

/-- The value of a formula. -/
inductive Scalar
  /-- An argument that was left out. -/
  | empty
  | logical (value : Bool)
  | number (value : Number)
  | text (value : String)
  | error (code : ErrorCode)
  deriving DecidableEq

/-- The value that an operand shows. -/
def Token.scalar? : Token → Option Scalar
  | .logical b => some (.logical b)
  | .text s => some (.text s)
  | .number n => some (.number n)
  | .error e => some (.error e.code)
  | .omitted => some .empty
  | _ => none

namespace Scalar

/-- The scalar as it is shown. -/
def display : Scalar → String
  | empty => ""
  | logical b => Token.logicalText b
  | number n => n.text
  | text s => s
  | error c => c.text

def isError : Scalar → Bool
  | error _ => true
  | _ => false

def number? : Scalar → Option Number
  | number n => some n
  | _ => none

def logical? : Scalar → Option Bool
  | logical b => some b
  | _ => none

/-! ### Comparisons -/

/-- Are the scalars equal, numbers being compared by value? -/
def equals : Scalar → Scalar → Bool
  | number a, number b => a.sameValue b
  | a, b => a == b

/-- Is the scalar this text, or the error with this text? -/
def equalsText (s : Scalar) (t : String) : Bool :=
  match s with
  | text u => u == t
  | error c => c.text == t
  | _ => false

/-- Is the scalar this truth value? -/
def equalsLogical (s : Scalar) (b : Bool) : Bool := s.logical? == some b

/-- Is the scalar a number with this value? -/
def equalsNumber (s : Scalar) (n : Number) : Bool := s.number?.any (·.sameValue n)

end Scalar

end SheetFormula
