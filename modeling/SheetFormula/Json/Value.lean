import SheetFormula.Json.Tree

namespace SheetFormula.Json

/-!
# JSON values

`Tree.value?` gives a syntax tree its meaning.  It has none if a string holds half a surrogate
pair, if a number is too large for a double, or if arrays and objects are nested too deeply.

* A number spelled without point and exponent is an integer if it lies in `[-2^63, 2^64)`; every
  other number, and `-0`, is a double.
* The members of an object are in the order of their names, and of members with one name the
  last one counts.

`Value.render` writes a value without any layout.
-/

/-- A JSON value.  Doubles are finite, and the members of an object are in ascending order of
    their names. -/
inductive Value
  | null
  | logical (value : Bool)
  | integer (value : Int)
  | float (value : Float)
  | string (value : String)
  | array (items : List Value)
  | object (members : List (String × Value))

/-! ### Meaning -/

/-- Is `n` the first half of a surrogate pair? -/
def isHighSurrogate (n : Nat) : Bool := 0xD800 ≤ n && n < 0xDC00

/-- Is `n` the second half of a surrogate pair? -/
def isLowSurrogate (n : Nat) : Bool := 0xDC00 ≤ n && n < 0xE000

/-- The characters of a string literal; none if a surrogate stands alone. -/
def charsOfParts? : List StringPart → Option (List Char)
  | [] => some []
  | .char c :: ps => (charsOfParts? ps).map (c :: ·)
  | .unit h :: .unit l :: ps =>
    if isHighSurrogate h then
      if isLowSurrogate l then
        (charsOfParts? ps).map (Char.ofNat (0x10000 + (h - 0xD800) * 0x400 + (l - 0xDC00)) :: ·)
      else none
    else if isLowSurrogate h then none
    else (charsOfParts? (.unit l :: ps)).map (Char.ofNat h :: ·)
  | .unit n :: ps =>
    if isHighSurrogate n || isLowSurrogate n then none
    else (charsOfParts? ps).map (Char.ofNat n :: ·)

/-- The text of a string literal. -/
def textOfParts? (ps : List StringPart) : Option String := (charsOfParts? ps).map String.ofList

/-- The integer that a literal denotes, if it is spelled as one. -/
def NumberLiteral.integer? (l : NumberLiteral) : Option Int :=
  let n := Decimal.ofDigits l.numeral.whole
  if l.numeral.isInteger ∧ ¬(l.negative ∧ n = 0) then
    some (if l.negative then -(n : Int) else n)
  else
    none

/-- The value of a number literal; none if it is too large for a double. -/
def NumberLiteral.value? (l : NumberLiteral) : Option Value :=
  match l.integer?.filter fun n => Int64.minValue.toInt ≤ n ∧ n < UInt64.size with
  | some n => some (.integer n)
  | none =>
    let x := l.numeral.toFloat l.negative
    if Binary64.isFinite x then some (.float x) else none

/-- The members with one more, in place of another one with its name. -/
def putMember (name : String) (v : Value) : List (String × Value) → List (String × Value)
  | [] => [(name, v)]
  | (n, w) :: ms =>
    if name < n then (name, v) :: (n, w) :: ms
    else if name = n then (name, v) :: ms
    else (n, w) :: putMember name v ms

/-- The most arrays and objects that may be inside each other. -/
def maxLevels : Nat := 127

mutual

/-- The value of a tree in which arrays and objects are nested at most `levels` deep. -/
def Tree.value? (levels : Nat) : Tree → Option Value
  | .null => some .null
  | .logical b => some (.logical b)
  | .number l => l.value?
  | .string ps => (textOfParts? ps).map .string
  | .array items =>
    match levels with
    | 0 => none
    | levels + 1 => (itemValues? levels items).map .array
  | .object members =>
    match levels with
    | 0 => none
    | levels + 1 =>
      (memberValues? levels members).map fun ms =>
        .object (ms.foldl (fun acc m => putMember m.1 m.2 acc) [])

/-- The values of the items of an array. -/
def itemValues? (levels : Nat) : List Tree → Option (List Value)
  | [] => some []
  | t :: ts =>
    match t.value? levels, itemValues? levels ts with
    | some v, some vs => some (v :: vs)
    | _, _ => none

/-- The values of the members of an object, as they are written. -/
def memberValues? (levels : Nat) : List (List StringPart × Tree) → Option (List (String × Value))
  | [] => some []
  | (name, t) :: ms =>
    match textOfParts? name, t.value? levels, memberValues? levels ms with
    | some n, some v, some vs => some ((n, v) :: vs)
    | _, _, _ => none

end

/-- The value of a JSON text. -/
def Value.parse? (text : String) : Option Value := (Tree.parse? text).bind (Tree.value? maxLevels)

/-! ### Writing -/

/-- A character of a string literal.  Quotes, backslashes and the characters below the space are
    escaped. -/
def escapeChar (c : Char) : List Char :=
  match c with
  | '"' => ['\\', '"']
  | '\\' => ['\\', '\\']
  | '\x08' => ['\\', 'b']
  | '\x0c' => ['\\', 'f']
  | '\n' => ['\\', 'n']
  | '\r' => ['\\', 'r']
  | '\t' => ['\\', 't']
  | c =>
    if c.toNat < 0x20 then
      ['\\', 'u', '0', '0', Nat.digitChar (c.toNat / 16), Nat.digitChar (c.toNat % 16)]
    else [c]

/-- A text as a string literal. -/
def literal (s : String) : String :=
  String.ofList ('"' :: s.toList.flatMap escapeChar ++ ['"'])

mutual

/-- The JSON text of a value, without layout. -/
def Value.render : Value → String
  | .null => "null"
  | .logical b => if b then "true" else "false"
  | .integer n => Decimal.intText n
  | .float x => Decimal.json.render x
  | .string s => literal s
  | .array items => "[" ++ ",".intercalate (renderItems items) ++ "]"
  | .object members => "\x7b" ++ ",".intercalate (renderMembers members) ++ "\x7d"

/-- The texts of the items of an array. -/
def renderItems : List Value → List String
  | [] => []
  | v :: vs => v.render :: renderItems vs

/-- The texts of the members of an object. -/
def renderMembers : List (String × Value) → List String
  | [] => []
  | (name, v) :: ms => (literal name ++ ":" ++ v.render) :: renderMembers ms

end

namespace Value

/-- The member of an object with this name. -/
def member? (name : String) : Value → Option Value
  | .object members => members.lookup name
  | _ => none

/-- The text that a value stands for where a text is wanted: a string itself, nothing for
    null, a capital word for a truth value, and the JSON text of a number.  Arrays and objects
    have none. -/
def scalarText? : Value → Option String
  | .null => some ""
  | .logical b => some (if b then "TRUE" else "FALSE")
  | .integer n => some (Value.integer n).render
  | .float x => some (Value.float x).render
  | .string s => some s
  | .array _ | .object _ => none

end Value

end SheetFormula.Json
