import SheetFormula.Function.Table
import SheetFormula.Operator.Precedence
import SheetFormula.Program.Basic

namespace SheetFormula

/-!
# Building a program

`Program.ofTokens` puts a formula into postfix order, or says what is wrong with it.

A `Builder` reads the tokens one by one.  It passes operands on at once and holds operators back
until their operands are complete, which is when a looser operator, a separator or a closing
parenthesis comes.  Open parentheses and calls are held back with the operators; they divide them
into segments, and only the innermost segment is ever touched.

White-space counts in positions and in nothing else, and either closing token closes either
opening one.

The names of the inputs are collected beside the items.  A `Builder` carries the proof that its set
holds just the names that the items passed on so far read.
-/

open SheetFormula.Decimal (natText)

/-! ### Errors -/

/-- What is wrong with a sequence of tokens.  Positions count all tokens, from zero. -/
inductive SyntaxError
  /-- An infix operator without a left operand. -/
  | unexpectedOperator (token : Token) (position : Nat)
  | unknownFunction (name : String) (position : Nat)
  /-- An opening parenthesis right after a value. -/
  | missingOperator (position : Nat)
  | unexpectedClose (position : Nat)
  | unmatchedOpen
  | unrecognizedToken (token : Token) (position : Nat)
  /-- A separator that is not directly inside a call. -/
  | unexpectedSeparator (token : Token) (position : Nat)
  | argumentCount (function : String) (expected actual : Nat)
  /-- An empty call of a function whose first argument is required. -/
  | missingArgument (function : String) (index : Nat)
  deriving DecidableEq

def SyntaxError.message : SyntaxError → String
  | unexpectedOperator token position =>
    "Unexpected operator `" ++ token.describe ++ "` at position " ++ natText position ++ "."
  | unknownFunction name position =>
    "Unknown function `" ++ name ++ "` at position " ++ natText position ++ "."
  | missingOperator position =>
    "Missing operator before '(' at position " ++ natText position ++ "."
  | unexpectedClose position =>
    "Unexpected `)` at position " ++ natText position ++
      " (too many closing parentheses)."
  | unmatchedOpen => "Unmatched `(` (missing closing parenthesis)."
  | unrecognizedToken token position =>
    "Unrecognized token `" ++ token.describe ++ "` at position " ++ natText position ++ "."
  | unexpectedSeparator token position =>
    "Unexpected separator `" ++ token.describe ++ "` at position " ++ natText position ++ "."
  | argumentCount function expected actual =>
    "Function `" ++ function ++ "` expects " ++ natText expected ++ " arguments but got " ++
      natText actual ++ "."
  | missingArgument function index =>
    "Missing required argument at " ++ natText index ++ " for function `" ++ function ++ "`"

/-! ### The builder -/

/-- A call whose closing token has not come yet. -/
structure OpenCall where
  name : String
  /-- The number of declared arguments, if it is fixed. -/
  arity : Option Nat
  /-- Is the first declared argument a required one? -/
  firstRequired : Bool
  /-- One more than the separators read so far. -/
  count : Nat
  deriving DecidableEq

/-- What is held back. -/
inductive Pending
  | infixOp (symbol : String)
  | prefixOp (symbol : String)
  | paren
  | call (c : OpenCall)
  deriving DecidableEq

namespace Pending

/-- The item of an operator that is held back. -/
def item? : Pending → Option Item
  | infixOp symbol => some (.infixOp symbol)
  | prefixOp symbol => some (.prefixOp symbol)
  | paren | call _ => none

/-- The rank of an operator that is held back. -/
def rank? : Pending → Option Nat
  | infixOp symbol => some (Precedence.rank symbol)
  | prefixOp _ => some Precedence.prefixRank
  | paren | call _ => none

def isOperator (p : Pending) : Bool := p.rank?.isSome

/-- Nothing that is held back reads an input. -/
theorem load_not_mem {ps : List Pending} {name : String} :
    .load name ∉ ps.filterMap Pending.item? := by
  rw [List.mem_filterMap]
  rintro ⟨p, -, hp⟩
  cases p <;> cases hp

/-- Is this an operator whose operands are complete when the infix symbol comes? -/
def yieldsTo (symbol : String) (p : Pending) : Bool :=
  p.rank?.any (Precedence.bindsBefore · symbol)

end Pending

/-- The last token that was not white-space. -/
inductive Previous
  | start
  /-- An operand or a closing token. -/
  | value
  | infixOp
  | prefixOp
  | parenOpen
  | callOpen
  | separator
  deriving DecidableEq

structure Builder where
  /-- The items passed on, last one first. -/
  emitted : List Item
  /-- What is held back, innermost first. -/
  pending : List Pending
  previous : Previous
  /-- The names of the inputs read so far. -/
  inputs : Std.ExtTreeSet String
  mem_inputs : ∀ name, name ∈ inputs ↔ .load name ∈ emitted

namespace Builder

/-- Nothing has been read yet. -/
def initial : Builder := ⟨[], [], .start, ∅, by simp⟩

/-- Passes on an item, and notes the input that it reads. -/
def emit (b : Builder) (i : Item) : Builder :=
  { b with
    emitted := i :: b.emitted
    inputs := i.record b.inputs
    mem_inputs := fun name => by rw [Item.mem_record, b.mem_inputs, List.mem_cons, eq_comm] }

/-- Passes on what is held back, innermost first, as long as `p` holds of it. -/
def release (b : Builder) (p : Pending → Bool) : Builder :=
  { b with
    emitted := ((b.pending.takeWhile p).filterMap Pending.item?).reverse ++ b.emitted
    pending := b.pending.dropWhile p
    mem_inputs := fun name => by
      rw [b.mem_inputs, List.mem_append, List.mem_reverse, or_iff_right Pending.load_not_mem] }

/-- Passes on all operators of the innermost segment. -/
def flush (b : Builder) : Builder := b.release Pending.isOperator

/-- Holds something back. -/
def hold (b : Builder) (p : Pending) (previous : Previous) : Builder :=
  { b with pending := p :: b.pending, previous := previous }

/-- Reads an operand, as an item. -/
def operand (b : Builder) (i : Item) : Builder := { b.emit i with previous := .value }

/-- Reads an infix operator that has a left operand. -/
def infixSymbol (b : Builder) (symbol : String) : Builder :=
  (b.release (Pending.yieldsTo symbol)).hold (.infixOp symbol) .infixOp

/-- Reads the opening token of a call. -/
def openCall (functions : FunctionTable) (b : Builder) (position : Nat) (name : String) :
    Except SyntaxError Builder :=
  match functions.get? name with
  | none => .error (.unknownFunction name position)
  | some d => .ok (b.hold (.call ⟨name, d.arity, d.firstRequired, 1⟩) .callOpen)

/-- Marks an argument as left out if nothing stands where it should be. -/
def markOmitted (b : Builder) : Builder :=
  if b.previous = .callOpen ∨ b.previous = .separator then b.emit (.push .omitted) else b

/-- Reads a separator. -/
def separate (b : Builder) (position : Nat) (token : Token) : Except SyntaxError Builder :=
  let flushed := b.flush
  match flushed.pending with
  | .call c :: rest =>
    .ok { flushed.markOmitted with
      pending := .call { c with count := c.count + 1 } :: rest
      previous := .separator }
  | _ => .error (.unexpectedSeparator token position)

/-- How many arguments a call has when its closing token comes.  A call with nothing in it has
    none, or one that is left out, as its function demands. -/
def argumentCount (previous : Previous) (c : OpenCall) : Except SyntaxError Nat :=
  if previous = .callOpen then
    match c.arity with
    | none | some 0 => .ok 0
    | some _ => if c.firstRequired then .error (.missingArgument c.name 0) else .ok c.count
  else
    .ok c.count

/-- Does the function of a call allow this number of arguments? -/
def checkArity (c : OpenCall) (count : Nat) : Except SyntaxError Unit :=
  match c.arity with
  | some expected =>
    if count = expected then .ok () else .error (.argumentCount c.name expected count)
  | none => .ok ()

/-- Completes the innermost call. -/
def closeCall (b : Builder) (c : OpenCall) : Except SyntaxError Builder := do
  let count ← argumentCount b.previous c
  let marked := if count = 0 then b else b.markOmitted
  checkArity c count
  return marked.operand (.call c.name count)

/-- Reads a closing token. -/
def close (b : Builder) (position : Nat) : Except SyntaxError Builder :=
  let flushed := b.flush
  match flushed.pending with
  | .paren :: rest => .ok { flushed with pending := rest, previous := .value }
  | .call c :: rest => closeCall { flushed with pending := rest } c
  | _ => .error (.unexpectedClose position)

/-- Reads one token. -/
def step (functions : FunctionTable) (b : Builder) (position : Nat) (token : Token) :
    Except SyntaxError Builder :=
  match token with
  | .whitespace _ => .ok b
  | .range name => .ok (b.operand (.load name))
  | .logical _ | .text _ | .number _ | .error _ | .omitted => .ok (b.operand (.push token))
  | .infixOp symbol =>
    if b.previous = .value then .ok (b.infixSymbol symbol)
    else .error (.unexpectedOperator token position)
  | .prefixOp symbol => .ok (b.hold (.prefixOp symbol) .prefixOp)
  | .parenOpen =>
    if b.previous = .value then .error (.missingOperator position)
    else .ok (b.hold .paren .parenOpen)
  | .callOpen name => b.openCall functions position name
  | .parenClose | .callClose => b.close position
  | .separator _ => b.separate position token
  | .unrecognized .. => .error (.unrecognizedToken token position)

/-- Reads the tokens from a position on. -/
def read (functions : FunctionTable) (b : Builder) (position : Nat) :
    List Token → Except SyntaxError Builder
  | [] => .ok b
  | t :: ts => do
    let b ← b.step functions position t
    b.read functions (position + 1) ts

/-- The program of a formula that ends here. -/
def finish (b : Builder) : Except SyntaxError Program :=
  let flushed := b.flush
  if flushed.pending = [] then
    .ok {
      items := flushed.emitted.reverse
      inputs := flushed.inputs
      mem_inputs := fun name => by rw [flushed.mem_inputs, List.mem_reverse] }
  else .error .unmatchedOpen

end Builder

/-- The program of a formula.  The functions it calls have to be in the table. -/
def Program.ofTokens (functions : FunctionTable) (tokens : List Token) :
    Except SyntaxError Program := do
  let b ← Builder.initial.read functions 0 tokens
  b.finish

end SheetFormula
