import SheetFormula.Text.LowerTable
import SheetFormula.Text.UpperTable

namespace SheetFormula.Text

/-!
# Letter case

* `lowerChar` is the full lower case of one character, `lower` that of a whole text.  They
  differ in one place: a capital sigma at the end of a word becomes a final sigma.
* `upperChar` is the full upper case of one character, which may have several, and `upper` that of a
  whole text.  A text is compared with a word of capitals by its upper case (`isWord`).
* `sameFolded` compares two characters by their full lower case.
-/

/-! ### Lower case -/

/-- The lower case of a character that has a single one, else the character. -/
def simpleLower (c : Char) : Char := CaseRun.apply lowerRuns c

/-- The full lower case of a character.  Only the dotted capital I has more than one
    character: a small i and a combining dot. -/
def lowerChar (c : Char) : List Char :=
  if c = 'İ' then ['i', '\u0307'] else [simpleLower c]

/-- Is the first character of `cs` that is not case-ignorable a cased one? -/
def startsCased (cs : List Char) : Bool :=
  match cs.dropWhile caseIgnorable.contains with
  | [] => false
  | c :: _ => cased.contains c

/-- The lower case of a text of which `before` has been read, last character first.  A capital
    sigma is final if a cased character precedes it and none follows, case-ignorable ones
    aside. -/
def lowerFrom (before : List Char) : List Char → List Char
  | [] => []
  | c :: cs =>
    let this :=
      if c = 'Σ' then if startsCased before && !startsCased cs then ['ς'] else ['σ']
      else lowerChar c
    this ++ lowerFrom (c :: before) cs

/-- The lower case of a text. -/
def lower (cs : List Char) : List Char := lowerFrom [] cs

/-- Do two characters have the same full lower case? -/
def sameFolded (a b : Char) : Bool := lowerChar a == lowerChar b

/-! ### Upper case -/

/-- The upper case of a character that has a single one, else the character. -/
def simpleUpper (c : Char) : Char := CaseRun.apply upperRuns c

/-- The full upper case of a character. -/
def upperChar (c : Char) : List Char :=
  match upperSequences.find? (·.1 == c.toNat) with
  | some s => s.2.map Char.ofNat
  | none => [simpleUpper c]

/-- The upper case of a text. -/
def upper (cs : List Char) : List Char := cs.flatMap upperChar

/-- Is the upper case of `s` the word `word`? -/
def isWord (word s : String) : Bool := upper s.toList == word.toList

end SheetFormula.Text
