import SheetFormula.Json.Lexeme

namespace SheetFormula.Json

/-!
# Syntax trees of JSON text

`Tree.parse?` reads a JSON text as far as its grammar goes.  What the parts mean is for `Value`
to say: a tree keeps numbers as spelled, strings in parts, and repeated names of members.
-/

/-- A JSON text without its layout. -/
inductive Tree
  | null
  | logical (value : Bool)
  | number (literal : NumberLiteral)
  | string (parts : List StringPart)
  | array (items : List Tree)
  | object (members : List (List StringPart × Tree))

namespace Tree

/-! ### The reader -/

/-- An array or object that is not closed yet, its contents last one first. -/
inductive Frame
  | array (items : List Tree)
  | object (members : List (List StringPart × Tree))
  /-- An object of which the value of the member `name` is being read. -/
  | member (members : List (List StringPart × Tree)) (name : List StringPart)

/-- What may come next. -/
inductive Expected
  | value
  /-- A value or the end of an array. -/
  | firstItem
  /-- The name of a member. -/
  | name
  /-- The name of a member or the end of an object. -/
  | firstName
  /-- The colon after this name. -/
  | colon (name : List StringPart)
  /-- A comma or the end of the innermost array or object. -/
  | separator
  /-- The end of the text, which is this tree. -/
  | nothing (tree : Tree)

/-- The reader: the open arrays and objects, innermost first, and what may come next. -/
structure Reader where
  frames : List Frame
  expected : Expected

namespace Reader

/-- Puts a complete value where it belongs. -/
def deliver (t : Tree) : List Frame → Reader
  | [] => ⟨[], .nothing t⟩
  | .array items :: fs => ⟨.array (t :: items) :: fs, .separator⟩
  | .member members name :: fs => ⟨.object ((name, t) :: members) :: fs, .separator⟩
  | .object members :: fs => ⟨.object members :: fs, .separator⟩

/-- Reads the first lexeme of a value. -/
def value? (frames : List Frame) : Lexeme → Option Reader
  | .null => some (deliver .null frames)
  | .logical b => some (deliver (.logical b) frames)
  | .number l => some (deliver (.number l) frames)
  | .string ps => some (deliver (.string ps) frames)
  | .openBracket => some ⟨.array [] :: frames, .firstItem⟩
  | .openBrace => some ⟨.object [] :: frames, .firstName⟩
  | _ => none

/-- Closes the innermost array or object. -/
def close? : Lexeme → List Frame → Option Reader
  | .closeBracket, .array items :: fs => some (deliver (.array items.reverse) fs)
  | .closeBrace, .object members :: fs => some (deliver (.object members.reverse) fs)
  | _, _ => none

/-- What a comma announces in the innermost array or object. -/
def afterComma? : List Frame → Option Expected
  | .array _ :: _ => some .value
  | .object _ :: _ => some .name
  | _ => none

/-- Reads one lexeme. -/
def step (r : Reader) (l : Lexeme) : Option Reader :=
  match r.expected, l with
  | .value, l => value? r.frames l
  | .firstItem, .closeBracket => close? .closeBracket r.frames
  | .firstItem, l => value? r.frames l
  | .firstName, .closeBrace => close? .closeBrace r.frames
  | .firstName, .string ps | .name, .string ps => some ⟨r.frames, .colon ps⟩
  | .colon name, .colon =>
    match r.frames with
    | .object members :: fs => some ⟨.member members name :: fs, .value⟩
    | _ => none
  | .separator, .comma => (afterComma? r.frames).map fun e => ⟨r.frames, e⟩
  | .separator, l => close? l r.frames
  | _, _ => none

/-- The tree of a text that ends here. -/
def finish? (r : Reader) : Option Tree :=
  match r.expected with
  | .nothing t => some t
  | _ => none

end Reader

/-- The tree of a list of lexemes. -/
def ofLexemes? (ls : List Lexeme) : Option Tree :=
  (ls.foldlM Reader.step ⟨[], .value⟩).bind Reader.finish?

/-- The tree of a JSON text. -/
def parse? (text : String) : Option Tree := (scan text.toList).bind ofLexemes?

end Tree

end SheetFormula.Json
