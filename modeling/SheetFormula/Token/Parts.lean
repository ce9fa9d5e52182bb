import SheetFormula.Text.Quoted
import SheetFormula.Token.Basic

namespace SheetFormula

/-!
# Tokens from their parts

`Token.ofParts` makes a token from the three texts that a tokenizer gives: kind, subtype and
value.  Truth values, numbers and error codes are read from the value, a quoted text loses its
quotes.  A combination of kind and subtype that means nothing is kept as it is, so that it can
be reported with its place in the formula.
-/

/-- What the value of a token was expected to be. -/
inductive Expectation
  | logical
  | number
  | scalar
  deriving DecidableEq, Repr

/-- The expectation in a message. -/
def Expectation.text : Expectation → String
  | logical => "TRUE or FALSE"
  | number => "a number"
  | scalar => "a scalar"

/-- Why something is not a token. -/
inductive TokenError
  | invalidErrorCode (value : String)
  | invalidValue (kind subtype : String) (expected : Expectation) (actual : String)
  /-- The data are not a token record at all. -/
  | undecodable
  deriving DecidableEq, Repr

def TokenError.message : TokenError → String
  | invalidErrorCode value => "Invalid error code: " ++ value
  | invalidValue kind subtype expected actual =>
    "Invalid value for " ++ kind ++ "/" ++ subtype ++ " token: expected " ++ expected.text ++
      ", got " ++ actual
  | undecodable => "Token decode error: not a token record"

namespace Token

/-- The truth value that a text stands for, letters being read as capitals. -/
def logicalOfText? (s : String) : Option Bool :=
  if Text.isWord "TRUE" s then some true
  else if Text.isWord "FALSE" s then some false
  else none

/-- The operand with this subtype and value; none if the subtype is no operand's. -/
def operandOfParts? (subtype value : String) : Option (Except TokenError Token) :=
  let expect (e : Expectation) (t : Option Token) : Except TokenError Token :=
    t.elim (.error (.invalidValue "OPERAND" subtype e value)) .ok
  match subtype with
  | "LOGICAL" => some (expect .logical ((logicalOfText? value).map .logical))
  | "TEXT" => some (.ok (.text (String.ofList (Text.unquote value.toList))))
  | "NUMBER" => some (expect .number ((Number.ofText? value).map .number))
  | "RANGE" => some (.ok (.range value))
  | "ERROR" =>
    match ErrorCode.ofText? value with
    | some code => some (.ok (failure code ""))
    | none => some (.error (.invalidErrorCode value))
  | "EMPTY" => some (.ok .omitted)
  | _ => none

/-- The structural token with this kind, subtype and value.  Parentheses may be marked as infix
    operators. -/
def structureOfParts (kind subtype value : String) : Token :=
  match kind, subtype with
  | "FUNC", "OPEN" => .callOpen value
  | "FUNC", "CLOSE" => .callClose
  | "PAREN", "OPEN" | "OPERATOR-INFIX", "OPEN" => .parenOpen
  | "PAREN", "CLOSE" | "OPERATOR-INFIX", "CLOSE" => .parenClose
  | "OPERATOR-INFIX", _ => .infixOp value
  | "OPERATOR-PREFIX", _ => .prefixOp value
  | "SEP", "ARG" => .separator value
  | "WHITE-SPACE", _ => .whitespace value
  | _, _ => .unrecognized kind subtype value

/-- The token with this kind, subtype and value. -/
def ofParts (kind subtype value : String) : Except TokenError Token :=
  if kind = "OPERAND" then
    (operandOfParts? subtype value).getD (.ok (.unrecognized kind subtype value))
  else
    .ok (structureOfParts kind subtype value)

end Token

end SheetFormula
