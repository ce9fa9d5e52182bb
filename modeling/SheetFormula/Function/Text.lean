import SheetFormula.Function.Basic

namespace SheetFormula.Function

/-!
# Text functions

Arguments are looked at from left to right, and the first one that will not do decides the
result: an error is handed on, anything else of the wrong kind gives `#VALUE!`.  Lengths and
positions count characters.
-/

/-! ### Arguments -/

/-- The text of an argument. -/
def textOf (t : Token) : Except Token String :=
  match t, t.asText? with
  | .error e, _ => .error (.error e)
  | _, some s => .ok s
  | t, none => .error (.failure .value ("Expected text but got " ++ t.typeText))

/-- The integer that an argument is. -/
def countOf (t : Token) : Except Token Int :=
  match t with
  | .error e => .error (.error e)
  | .number n =>
    match n.integral? with
    | some i => .ok i
    | none => .error (.failure .value ("Expected an integer but got " ++ n.text))
  | t => .error (.failure .value ("Expected an integer but got " ++ t.subtype))

/-- The integer at an index; one if there is no argument. -/
def optionalCount (args : List Token) (i : Nat) : Except Token Int :=
  match args[i]? with
  | some t => countOf t
  | none => .ok 1

/-- The number of characters asked for at an index. -/
def lengthOf (args : List Token) (i : Nat) : Except Token Nat := do
  let n ← optionalCount args i
  if n < 0 then
    .error (.failure .value ("Character count must be >= 0, got " ++ Decimal.intText n))
  else
    .ok n.toNat

/-- A length or position as a token. -/
def countToken (n : Nat) : Token := .ofInt (Int64.ofNat n)

/-! ### Length and ends of a text -/

/-- `LEN(text)`: the number of characters. -/
def len : FunctionBody := fun args =>
  settle do
    let s ← textOf (argument args 0)
    return countToken s.toList.length

/-- The part of a text that `cut` takes for a number of characters. -/
def slice (cut : Nat → List Char → List Char) : FunctionBody := fun args =>
  settle do
    let s ← textOf (argument args 0)
    let n ← lengthOf args 1
    return .text (String.ofList (cut n s.toList))

/-- `LEFT(text, [count])`: the first characters. -/
def left : FunctionBody := slice List.take

/-- `RIGHT(text, [count])`: the last characters. -/
def right : FunctionBody := slice fun n cs => cs.drop (cs.length - n)

/-! ### Search -/

/-- Does `haystack` start with `needle`, letter case aside? -/
def startsWithFolded : (needle haystack : List Char) → Bool
  | [], _ => true
  | _ :: _, [] => false
  | n :: needle, h :: haystack => Text.sameFolded n h && startsWithFolded needle haystack

/-- How many characters of `haystack` stand before the first place where `needle` matches. -/
def firstMatch? (needle : List Char) : (haystack : List Char) → Option Nat
  | [] => if startsWithFolded needle [] then some 0 else none
  | h :: haystack =>
    if startsWithFolded needle (h :: haystack) then some 0
    else (firstMatch? needle haystack).map (· + 1)

/-- The first position from `start` on where `needle` matches; the first character of
    `haystack` has position one, and the end of it is a position too. -/
def searchFrom (needle haystack : List Char) (start : Int) : Except Token Token :=
  if start < 1 ∨ haystack.length + 1 < start then
    .error (.failure .value ("start_num " ++ Decimal.intText start ++ " is outside 1..=" ++
      Decimal.intText (haystack.length + 1)))
  else
    let skipped := start.toNat - 1
    match firstMatch? needle (haystack.drop skipped) with
    | some i => .ok (countToken (skipped + i + 1))
    | none => .error (.failure .value "Text not found")

/-- `SEARCH(find, within, [start])`: the position of the first match, letter case aside. -/
def search : FunctionBody := fun args =>
  settle do
    let needle ← textOf (argument args 0)
    let haystack ← textOf (argument args 1)
    let start ← optionalCount args 2
    searchFrom needle.toList haystack.toList start

end SheetFormula.Function
