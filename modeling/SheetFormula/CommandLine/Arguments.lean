namespace SheetFormula.CommandLine

/-!
# Arguments of the command line

`Command.ofArguments` reads the arguments one by one.

* The first argument that is no option names the command, the next one the file with the tokens.
* `-i` and `--inputs` name the file with the inputs, in the next argument or after a `=`; for `-i`
  the name may also follow at once.  Only `eval` has this option, and only once.
* `-v` and `--verbose` may stand anywhere and any number of times.
* Short options can be put together in one argument.
* After `--` no argument is an option or a command.
* After `help` no argument is an option either: the name of one command may follow.
-/

/-- What is to be done with the formula in a token file. -/
inductive Command
  /-- Print the value of the formula. -/
  | eval (tokens : String) (inputs : Option String)
  /-- Print the program of the formula. -/
  | rpn (tokens : String)
  /-- Print the names of the inputs that the formula reads. -/
  | inputs (tokens : String)
  deriving DecidableEq, Repr

/-- Why the arguments are no command. -/
inductive Refusal
  | wrongUsage
  | helpWanted
  | versionWanted
  deriving DecidableEq, Repr

/-- The name of a command. -/
inductive Verb
  | eval
  | rpn
  | inputs
  /-- Explains the other commands. -/
  | help
  deriving DecidableEq, Repr

def Verb.ofText? (s : String) : Option Verb :=
  match s with
  | "eval" => some eval
  | "rpn" => some rpn
  | "inputs" => some inputs
  | "help" => some help
  | _ => none

/-- What has been read of the arguments. -/
structure Reading where
  verb : Option Verb := none
  /-- The file with the tokens, or the command that is to be explained. -/
  operand : Option String := none
  inputs : Option String := none
  /-- The next argument is the name of the file with the inputs. -/
  awaitsInputs : Bool := false
  /-- There was a `--`. -/
  optionsEnded : Bool := false
  deriving DecidableEq, Repr

namespace Reading

/-- Reads an argument that is no option. -/
def word (r : Reading) (arg : String) : Except Refusal Reading :=
  match r.verb, r.operand with
  | none, _ =>
    match Verb.ofText? arg with
    | some v => if r.optionsEnded then .error .wrongUsage else .ok { r with verb := some v }
    | none => .error .wrongUsage
  | some _, none => if arg = "" then .error .wrongUsage else .ok { r with operand := some arg }
  | some _, some _ => .error .wrongUsage

/-- Reads the command that is to be explained. -/
def topic (r : Reading) (arg : String) : Except Refusal Reading :=
  if r.operand.isNone ∧ (Verb.ofText? arg).isSome then .ok { r with operand := some arg }
  else .error .wrongUsage

/-- Reads the name of the file with the inputs. -/
def inputsFile (r : Reading) (name : String) : Except Refusal Reading :=
  if name = "" ∨ r.inputs.isSome then .error .wrongUsage
  else .ok { r with inputs := some name, awaitsInputs := false }

/-- Reads the option for the inputs, with the file name if it is part of the argument. -/
def inputsOption (r : Reading) (name : Option String) : Except Refusal Reading :=
  if r.verb ≠ some .eval ∨ r.inputs.isSome then .error .wrongUsage
  else
    match name with
    | some n => r.inputsFile n
    | none => .ok { r with awaitsInputs := true }

/-- Reads the option for the version, which belongs to no command. -/
def versionOption (r : Reading) : Except Refusal Reading :=
  .error (if r.verb.isNone then .versionWanted else .wrongUsage)

/-- Reads the letters of short options. -/
def shortOptions (r : Reading) : List Char → Except Refusal Reading
  | [] => .ok r
  | 'v' :: cs => r.shortOptions cs
  | 'h' :: _ => .error .helpWanted
  | 'V' :: _ => r.versionOption
  | 'i' :: cs =>
    match cs with
    | [] => r.inputsOption none
    | '=' :: name => r.inputsOption (some (String.ofList name))
    | name => r.inputsOption (some (String.ofList name))
  | _ :: _ => .error .wrongUsage

/-- Reads a long option, given with what follows its `--`. -/
def longOption (r : Reading) (cs : List Char) : Except Refusal Reading :=
  let name := String.ofList (cs.takeWhile (· ≠ '='))
  let value :=
    match cs.dropWhile (· ≠ '=') with
    | [] => none
    | _ :: v => some (String.ofList v)
  match name, value with
  | "verbose", none => .ok r
  | "help", none => .error .helpWanted
  | "version", none => r.versionOption
  | "inputs", value => r.inputsOption value
  | _, _ => .error .wrongUsage

/-- Reads one argument. -/
def step (r : Reading) (arg : String) : Except Refusal Reading :=
  if r.verb = some .help then r.topic arg
  else if r.optionsEnded then
    if r.awaitsInputs then .error .wrongUsage else r.word arg
  else
    match arg.toList with
    | ['-', '-'] => .ok { r with optionsEnded := true }
    | '-' :: '-' :: cs => if r.awaitsInputs then .error .wrongUsage else r.longOption cs
    | '-' :: c :: cs => if r.awaitsInputs then .error .wrongUsage else r.shortOptions (c :: cs)
    | _ => if r.awaitsInputs then r.inputsFile arg else r.word arg

/-- The command that the arguments make up when there are no more of them. -/
def finish (r : Reading) : Except Refusal Command :=
  if r.awaitsInputs then .error .wrongUsage
  else
    match r.verb, r.operand with
    | some .eval, some t => .ok (.eval t r.inputs)
    | some .rpn, some t => .ok (.rpn t)
    | some .inputs, some t => .ok (.inputs t)
    | some .help, _ => .error .helpWanted
    | _, _ => .error .wrongUsage

end Reading

/-- The command that the arguments make up. -/
def Command.ofArguments (args : List String) : Except Refusal Command := do
  let r ← args.foldlM Reading.step {}
  r.finish

end SheetFormula.CommandLine
