import SheetFormula.CommandLine.Arguments
import SheetFormula.Evaluator
import SheetFormula.Token.Record

namespace SheetFormula.CommandLine

/-!
# Running a command

A command reads its files through a function that is given to it, so that what it prints is a
pure function of their contents.  The token file is read and turned into a program before the
inputs file is looked at.
-/

/-- Why a command has nothing to print. -/
structure Failure where
  summary : String
  /-- What lies behind it, if that is known. -/
  cause : Option String := none
  deriving DecidableEq, Repr

/-- The report of a failure. -/
def Failure.text (f : Failure) : String :=
  match f.cause with
  | none => "Error: " ++ f.summary ++ "\n"
  | some c =>
    let lines := (c.splitOn "\n").map fun l => "    " ++ l ++ "\n"
    "Error: " ++ f.summary ++ "\n\nCaused by:\n" ++ String.join lines

/-- A file name in a report. -/
def quotedName (name : String) : String := "'" ++ name ++ "'"

/-- The inputs bound by a list of names and tokens. -/
def inputsOfList (bindings : List (String × Token)) : Inputs := fun name => bindings.lookup name

/-! ### Reading files -/

/-- The evaluator of the formula in the text of a token file. -/
def evaluatorOfText (file text : String) : Except Failure Evaluator :=
  match Token.listOfJson text with
  | .error e => .error ⟨"Invalid token file " ++ quotedName file, some e.message⟩
  | .ok tokens =>
    match Evaluator.ofTokensBuiltin tokens with
    | .error e => .error ⟨e.message, none⟩
    | .ok ev => .ok ev

/-- The token of one input. -/
def bindingOfJson (name : String) (v : Json.Value) : Except Failure (String × Token) :=
  match Token.ofJson v with
  | .error e => .error ⟨"Invalid token for input " ++ quotedName name, some e.message⟩
  | .ok t => .ok (name, t)

/-- The inputs in the text of an inputs file, an object of tokens. -/
def bindingsOfText (file text : String) : Except Failure (List (String × Token)) :=
  match Json.Value.parse? text with
  | none => .error ⟨"Invalid JSON in " ++ quotedName file, some "the text is not JSON"⟩
  | some (.object members) => members.mapM fun m => bindingOfJson m.1 m.2
  | some _ =>
    .error ⟨"Inputs file " ++ quotedName file ++ " must contain a JSON object", none⟩

/-! ### Printing results -/

/-- The value of a formula as a line of JSON. -/
def printValue (ev : Evaluator) (inputs : Inputs) : Except Failure String :=
  match ev.evaluateToken inputs with
  | .error e => .error ⟨e.message, none⟩
  | .ok t =>
    match t.scalar? with
    | none => .error ⟨"Formula did not produce a value: " ++ t.describe, none⟩
    | some s => .ok (s.toJson.render ++ "\n")

/-- The names of the inputs of a formula, one on each line. -/
def printInputs (ev : Evaluator) : String :=
  String.join (ev.program.requiredInputs.map (· ++ "\n"))

/-! ### Commands -/

section

variable {m : Type → Type} [Monad m] (read : String → m (Except String String))

/-- The text of a file; a reason is given for one that cannot be read. -/
def textOf (file : String) : ExceptT Failure m String := do
  match ← read file with
  | .ok text => return text
  | .error reason => throw ⟨"Failed to read " ++ quotedName file, some reason⟩

/-- The evaluator of the formula in a token file. -/
def load (file : String) : ExceptT Failure m Evaluator := do
  let text ← textOf read file
  evaluatorOfText file text

/-- What a command prints. -/
def Command.run : Command → ExceptT Failure m String
  | .eval tokens none => do
    let ev ← load read tokens
    printValue ev fun _ => none
  | .eval tokens (some file) => do
    let ev ← load read tokens
    let text ← textOf read file
    let bindings ← bindingsOfText file text
    printValue ev (inputsOfList bindings)
  | .rpn tokens => do
    let ev ← load read tokens
    return ev.program.render
  | .inputs tokens => do
    let ev ← load read tokens
    return printInputs ev

end

/-- What a call of the program leads to. -/
inductive Outcome
  | printed (text : String)
  | failed (f : Failure)
  | refused (r : Refusal)
  deriving DecidableEq, Repr

/-- The outcome of a call with these arguments. -/
def outcome {m : Type → Type} [Monad m] (read : String → m (Except String String))
    (args : List String) : m Outcome :=
  match Command.ofArguments args with
  | .error r => pure (.refused r)
  | .ok c => do
    match ← (c.run read).run with
    | .ok text => return .printed text
    | .error f => return .failed f

/-- The exit status of an outcome. -/
def Outcome.status : Outcome → Nat
  | printed _ => 0
  | failed _ => 1
  | refused .wrongUsage => 2
  | refused _ => 0

end SheetFormula.CommandLine
