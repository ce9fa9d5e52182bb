import SheetFormula.Function.Table
import SheetFormula.Operator.Table
import SheetFormula.Text.Escaped

namespace SheetFormula

/-!
# Listings

The form in which tables, definitions and tokens are listed for diagnosis: the name of each kind
of thing, followed by its parts in parentheses or braces.
-/

open SheetFormula.Text (listed listedAll)

/-- A name with its named parts. -/
def listedParts (name : String) (parts : List String) : String :=
  name ++ " \x7b " ++ ", ".intercalate parts ++ " \x7d"

/-- The name of a code in listings. -/
def ErrorCode.listing : ErrorCode → String
  | null => "Null"
  | divisionByZero => "ZeroDiv"
  | value => "Value"
  | reference => "Ref"
  | name => "Name"
  | number => "Num"
  | notAvailable => "Na"
  | gettingData => "GettingData"

def Number.listing : Number → String
  | .int i => "Int(" ++ Decimal.intText i.toInt ++ ")"
  | .float x => "Float(" ++ Decimal.listing.render x ++ ")"

def ErrorValue.listing (e : ErrorValue) : String :=
  listedParts "ErrorValue" ["code: " ++ e.code.listing, "message: " ++ listed e.message]

def Token.listing : Token → String
  | logical b => "Logical(" ++ (if b then "true" else "false") ++ ")"
  | text s => "Text(" ++ listed s ++ ")"
  | number n => "Number(" ++ n.listing ++ ")"
  | range name => "Range(" ++ listed name ++ ")"
  | error e => "Error(" ++ e.listing ++ ")"
  | omitted => "Empty"
  | callOpen name => "FuncOpen(" ++ listed name ++ ")"
  | callClose => "FuncClose"
  | infixOp symbol => "Infix(" ++ listed symbol ++ ")"
  | prefixOp symbol => "Prefix(" ++ listed symbol ++ ")"
  | parenOpen => "ParenOpen"
  | parenClose => "ParenClose"
  | separator s => "Separator(" ++ listed s ++ ")"
  | whitespace s => "Whitespace(" ++ listed s ++ ")"
  | unrecognized kind subtype value =>
    listedParts "Unrecognized"
      ["kind: " ++ listed kind, "subtype: " ++ listed subtype, "value: " ++ listed value]

def ArgSlot.listing : ArgSlot → String
  | required => "Required"
  | optional default => "Optional(" ++ default.listing ++ ")"

/-- The definition without its body. -/
def FunctionDef.listing (d : FunctionDef) : String :=
  let slots :=
    match d.slots with
    | none => "None"
    | some slots => "Some(" ++ listedAll (slots.map ArgSlot.listing) ++ ")"
  listedParts "FunctionDef" ["name: " ++ listed d.name, "slots: " ++ slots, ".."]

/-- The names of the functions. -/
def FunctionTable.listing (t : FunctionTable) : String :=
  listedParts "FunctionRegistry" ["functions: " ++ listedAll (t.names.map listed)]

/-- The infix and the prefix symbols. -/
def OperatorTable.listing (t : OperatorTable) : String :=
  listedParts "OperatorRegistry"
    ["infix: " ++ listedAll (t.symbols.map listed),
     "prefix: " ++ listedAll (t.prefixSymbols.map listed)]

end SheetFormula
