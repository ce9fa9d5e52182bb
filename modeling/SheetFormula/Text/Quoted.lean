namespace SheetFormula.Text

/-!
# Quoted texts

A quoted text stands between double quotes, and a quote inside it is written twice.  Reading
is lenient: a text that does not both start and end with a quote stands for itself, and inside
the quotes a quote that is not doubled stays.

`unquote_quote` says that reading undoes writing.
-/

/-- The text with every quote written twice. -/
def doubleQuotes : List Char → List Char
  | [] => []
  | c :: cs => if c = '"' then '"' :: '"' :: doubleQuotes cs else c :: doubleQuotes cs

/-- The text with every two adjacent quotes, from the left, written once. -/
def undoubleQuotes : List Char → List Char
  | [] => []
  | [c] => [c]
  | c :: d :: cs =>
    if c = '"' ∧ d = '"' then '"' :: undoubleQuotes cs else c :: undoubleQuotes (d :: cs)

/-- The text in double quotes. -/
def quote (cs : List Char) : List Char := '"' :: doubleQuotes cs ++ ['"']

/-- The text between the quotes around `cs`, if it starts with one and ends with another. -/
def inner? (cs : List Char) : Option (List Char) :=
  match cs with
  | '"' :: rest => if rest.getLast? = some '"' then some rest.dropLast else none
  | _ => none

/-- The text that `cs` stands for. -/
def unquote (cs : List Char) : List Char :=
  match inner? cs with
  | some inside => undoubleQuotes inside
  | none => cs

/-! ### Reading undoes writing -/

/-- Doubled quotation marks are read back as single ones. -/
theorem undoubleQuotes_doubleQuotes (cs : List Char) : undoubleQuotes (doubleQuotes cs) = cs := by
  induction cs with
  | nil => rfl
  | cons c cs ih =>
    by_cases h : c = '"'
    · simp [doubleQuotes, undoubleQuotes, h, ih]
    · match hd : doubleQuotes cs with
      | [] => simp_all [doubleQuotes, undoubleQuotes]
      | d :: ds => simp_all [doubleQuotes, undoubleQuotes]

/-- A text that is put in quotation marks is read back. -/
theorem unquote_quote (cs : List Char) : unquote (quote cs) = cs := by
  simp [unquote, inner?, quote, undoubleQuotes_doubleQuotes]

end SheetFormula.Text
