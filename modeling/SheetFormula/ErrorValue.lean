import SheetFormula.Text.Case

namespace SheetFormula

/-!
# Error values

An ordinary failure in a sheet is a value: one of eight codes with a message for diagnosis.
Only the code is shown and compared.

An error value that comes from outside carries its `origin`, an index chosen by whoever made it.
Operators and functions hand errors on unchanged, origin included, so `sameInstance` tells an
error that was handed on from one that was made anew.
-/

/-- The kinds of failure. -/
inductive ErrorCode
  /-- An intersection of ranges that is empty. -/
  | null
  | divisionByZero
  /-- An operand or argument of the wrong type. -/
  | value
  /-- A reference that does not lead to a value. -/
  | reference
  | name
  /-- A number that cannot be computed. -/
  | number
  | notAvailable
  | gettingData
  deriving DecidableEq, Repr, Ord

namespace ErrorCode

/-- The text that stands for the code in a sheet. -/
def text : ErrorCode → String
  | null => "#NULL!"
  | divisionByZero => "#DIV/0!"
  | value => "#VALUE!"
  | reference => "#REF!"
  | name => "#NAME?"
  | number => "#NUM!"
  | notAvailable => "#N/A"
  | gettingData => "#GETTING_DATA"

/-- All codes, in their order. -/
def all : List ErrorCode :=
  [null, divisionByZero, value, reference, name, number, notAvailable, gettingData]

/-- Every code is in the list that a text is looked up in. -/
theorem mem_all (c : ErrorCode) : c ∈ all := by cases c <;> decide

/-- The code that a text stands for, letters being read as capitals. -/
def ofText? (s : String) : Option ErrorCode := all.find? fun c => Text.isWord c.text s

/-- The word for a code is read as that code. -/
theorem ofText?_text (c : ErrorCode) : ofText? c.text = some c := by
  cases c <;> decide +kernel

end ErrorCode

/-- An error as a value. -/
structure ErrorValue where
  code : ErrorCode
  /-- For diagnosis; never part of what is shown. -/
  message : String
  /-- Which of the error values from outside this is; none if it was made by a computation. -/
  origin : Option Nat := none
  deriving DecidableEq, Repr

namespace ErrorValue

/-- Is `a` the very error value `b`, handed on? -/
def sameInstance (a b : ErrorValue) : Bool :=
  a.code == b.code && a.origin.isSome && a.origin == b.origin

end ErrorValue

end SheetFormula
