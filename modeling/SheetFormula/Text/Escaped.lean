import SheetFormula.Text.HiddenTable

namespace SheetFormula.Text

/-!
# Texts in listings

A listing shows a text between double quotes.  Quotes, backslashes, tabs, line ends and NUL are
written with a backslash, other characters that do not show by themselves with their code
point: `\u{1b}`.
-/

/-- The hexadecimal digits of a number, in lower case. -/
def hexDigits (n : Nat) : List Char := Nat.toDigits 16 n

/-- One character of a listed text. -/
def escapeChar (c : Char) : List Char :=
  match c with
  | '"' => ['\\', '"']
  | '\\' => ['\\', '\\']
  | '\t' => ['\\', 't']
  | '\n' => ['\\', 'n']
  | '\r' => ['\\', 'r']
  | '\x00' => ['\\', '0']
  | c =>
    if hidden.contains c then ['\\', 'u', '\x7b'] ++ hexDigits c.toNat ++ ['\x7d'] else [c]

/-- The text as it is listed. -/
def listed (s : String) : String :=
  String.ofList ('"' :: s.toList.flatMap escapeChar ++ ['"'])

/-- Several items as they are listed, in square brackets. -/
def listedAll (items : List String) : String :=
  "[" ++ ", ".intercalate items ++ "]"

end SheetFormula.Text
