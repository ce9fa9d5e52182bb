import SheetFormula.Decimal.Numeral

namespace SheetFormula.Json

/-!
# Lexemes of JSON text

`scan` splits a JSON text into lexemes, character by character.  Numbers and words are kept as
they are spelled, and a string as the list of its parts, so that nothing is lost or judged before
it is known what the text is read for: an escape may stand for half a character, and a number may
be too large for a double.
-/

/-- One part of a string literal. -/
inductive StringPart
  | char (c : Char)
  /-- A 16-bit unit, written `\uXXXX`. -/
  | unit (n : Nat)
  deriving DecidableEq, Repr

/-- A number as it is spelled. -/
structure NumberLiteral where
  negative : Bool
  numeral : Numeral
  deriving DecidableEq, Repr

inductive Lexeme
  | openBracket
  | closeBracket
  | openBrace
  | closeBrace
  | comma
  | colon
  | null
  | logical (value : Bool)
  | number (literal : NumberLiteral)
  | string (parts : List StringPart)
  deriving DecidableEq, Repr

/-! ### Numbers and words -/

/-- Digits without a superfluous zero in front, and digits after a point or an `e` if there is
    one. -/
def isJsonNumeral (n : Numeral) : Bool :=
  n.whole ≠ [] && (n.whole.length = 1 || n.whole.head? ≠ some '0') &&
    n.fraction.all (· ≠ []) && n.exponent.all (·.2 ≠ [])

/-- The number that a word spells. -/
def numberOfWord? (word : List Char) : Option NumberLiteral :=
  let (negative, rest) :=
    match word with
    | '-' :: r => (true, r)
    | r => (false, r)
  ((Numeral.ofChars? rest).filter isJsonNumeral).map fun n => ⟨negative, n⟩

/-- The lexeme that a word spells. -/
def lexemeOfWord? (word : List Char) : Option Lexeme :=
  match String.ofList word with
  | "null" => some .null
  | "true" => some (.logical true)
  | "false" => some (.logical false)
  | _ => (numberOfWord? word).map .number

/-- Can the character be part of a number or a word? -/
def isWordChar (c : Char) : Bool := c.isAlphanum || c = '+' || c = '-' || c = '.'

/-! ### Strings -/

/-- The character that a backslash and this letter stand for. -/
def escapedChar? : Char → Option Char
  | '"' => some '"'
  | '\\' => some '\\'
  | '/' => some '/'
  | 'b' => some '\x08'
  | 'f' => some '\x0c'
  | 'n' => some '\n'
  | 'r' => some '\r'
  | 't' => some '\t'
  | _ => none

/-- The value of a hexadecimal digit. -/
def hexValue? (c : Char) : Option Nat :=
  if c.isDigit then some (c.toNat - '0'.toNat)
  else if 'a' ≤ c && c ≤ 'f' then some (c.toNat - 'a'.toNat + 10)
  else if 'A' ≤ c && c ≤ 'F' then some (c.toNat - 'A'.toNat + 10)
  else none

/-! ### The scanner -/

/-- Where the scanner is.  What it has read of a lexeme is kept last item first. -/
inductive Place
  | between
  | word (read : List Char)
  | string (read : List StringPart)
  /-- After a backslash in a string. -/
  | escape (read : List StringPart)
  /-- Among the digits of a 16-bit unit, `missing` of which are still to come. -/
  | unit (read : List StringPart) (missing value : Nat)

/-- The scanner: its place and the lexemes before it, last one first. -/
structure Scanner where
  place : Place
  lexemes : List Lexeme

/-- Reads a character that is not part of the lexeme before it. -/
def Scanner.start (lexemes : List Lexeme) (c : Char) : Option Scanner :=
  match c with
  | ' ' | '\t' | '\n' | '\r' => some ⟨.between, lexemes⟩
  | '[' => some ⟨.between, .openBracket :: lexemes⟩
  | ']' => some ⟨.between, .closeBracket :: lexemes⟩
  | '\x7b' => some ⟨.between, .openBrace :: lexemes⟩
  | '\x7d' => some ⟨.between, .closeBrace :: lexemes⟩
  | ',' => some ⟨.between, .comma :: lexemes⟩
  | ':' => some ⟨.between, .colon :: lexemes⟩
  | '"' => some ⟨.string [], lexemes⟩
  | c => if isWordChar c then some ⟨.word [c], lexemes⟩ else none

/-- Reads one character. -/
def Scanner.step (s : Scanner) (c : Char) : Option Scanner :=
  match s.place with
  | .between => Scanner.start s.lexemes c
  | .word read =>
    if isWordChar c then some ⟨.word (c :: read), s.lexemes⟩
    else (lexemeOfWord? read.reverse).bind fun l => Scanner.start (l :: s.lexemes) c
  | .string read =>
    if c = '"' then some ⟨.between, .string read.reverse :: s.lexemes⟩
    else if c = '\\' then some ⟨.escape read, s.lexemes⟩
    else if c.toNat < 0x20 then none
    else some ⟨.string (.char c :: read), s.lexemes⟩
  | .escape read =>
    if c = 'u' then some ⟨.unit read 4 0, s.lexemes⟩
    else (escapedChar? c).map fun d => ⟨.string (.char d :: read), s.lexemes⟩
  | .unit read missing value =>
    (hexValue? c).map fun d =>
      if missing ≤ 1 then ⟨.string (.unit (16 * value + d) :: read), s.lexemes⟩
      else ⟨.unit read (missing - 1) (16 * value + d), s.lexemes⟩

/-- The lexemes of a text that ends here. -/
def Scanner.finish? (s : Scanner) : Option (List Lexeme) :=
  match s.place with
  | .between => some s.lexemes.reverse
  | .word read => (lexemeOfWord? read.reverse).map fun l => (l :: s.lexemes).reverse
  | _ => none

/-- The lexemes of a JSON text; none if it cannot be split into lexemes. -/
def scan (cs : List Char) : Option (List Lexeme) :=
  (cs.foldlM Scanner.step ⟨.between, []⟩).bind Scanner.finish?

end SheetFormula.Json
