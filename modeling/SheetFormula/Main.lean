import SheetFormula.CommandLine.Run

/-!
# The program

Reads files, prints the outcome of the command and exits with its status.
-/

namespace SheetFormula.CommandLine

/-- The text that explains the command line. -/
def usageText : String :=
  "Usage: sheetformula [-v] eval TOKENS [-i INPUTS]\n" ++
  "       sheetformula [-v] rpn TOKENS\n" ++
  "       sheetformula [-v] inputs TOKENS\n"

/-- What the usual error numbers of the system mean for a file that is to be read. -/
def reasonOfNumber? (n : Nat) : Option String :=
  match n with
  | 2 => some "No such file or directory"
  | 13 => some "Permission denied"
  | 20 => some "Not a directory"
  | 21 => some "Is a directory"
  | 36 => some "File name too long"
  | _ => none

/-- Why a file cannot be read.  Error numbers also come with a minus sign. -/
def reasonOfError (e : IO.Error) : String :=
  match e with
  | .noFileOrDirectory _ code _ | .inappropriateType _ code _ | .permissionDenied _ code _
  | .invalidArgument _ code _ | .otherError code _ =>
    let n := if code < 0x80000000 then code.toNat else (-code).toNat
    match reasonOfNumber? n with
    | some reason => reason ++ " (os error " ++ Decimal.natText n ++ ")"
    | none => toString e
  | _ => toString e

/-- The text of a file, or why it cannot be read. -/
def readText (file : String) : IO (Except String String) := do
  try
    return .ok (← IO.FS.readFile file)
  catch e =>
    return .error (reasonOfError e)

/-- Prints what a call leads to. -/
def Outcome.print : Outcome → IO Unit
  | printed text => IO.print text
  | failed f => IO.eprint f.text
  | refused .wrongUsage => IO.eprint usageText
  | refused .helpWanted => IO.print usageText
  | refused .versionWanted => IO.println "sheetformula 0.1.0"

/-- Carries out a call with these arguments and gives its exit status. -/
def perform (args : List String) : IO UInt32 := do
  let o ← outcome readText args
  o.print
  return o.status.toUInt32

end SheetFormula.CommandLine

def main (args : List String) : IO UInt32 := SheetFormula.CommandLine.perform args
