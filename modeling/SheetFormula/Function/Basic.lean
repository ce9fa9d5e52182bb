import SheetFormula.Scalar

namespace SheetFormula

/-!
# Functions

A function takes the list of its arguments to a token.  Its definition may declare a slot for
each argument, required or with a default; a function without slots takes any number of
arguments.  Names end in the opening parenthesis of the call.

`resolveSlots` fits the given arguments to the slots: argument `i` belongs to slot `i`, and one
that is left out is replaced by the default of its slot.
-/

abbrev FunctionBody := List Token → Token

/-- A declared argument. -/
inductive ArgSlot
  | required
  | optional (default : Token)
  deriving DecidableEq

/-- The value of an argument that is left out. -/
def ArgSlot.default? : ArgSlot → Option Token
  | required => none
  | optional default => some default

structure FunctionDef where
  name : String
  /-- The declared arguments; none if their number is free. -/
  slots : Option (List ArgSlot)
  body : FunctionBody

/-- The number of arguments, if it is fixed. -/
def FunctionDef.arity (d : FunctionDef) : Option Nat := d.slots.map List.length

/-- Is the first declared argument a required one? -/
def FunctionDef.firstRequired (d : FunctionDef) : Bool :=
  match d.slots with
  | some (.required :: _) => true
  | _ => false

/-! ### Slots -/

/-- The token for a slot, given the argument in its place, if there is one. -/
def ArgSlot.fill? (slot : ArgSlot) (given : Option Token) : Option Token :=
  (given.filter (!·.isOmitted)).or slot.default?

/-- The tokens for slots from index `i` on, or the index of the first required slot without an
    argument. -/
def resolveSlotsFrom (i : Nat) : List ArgSlot → List Token → Except Nat (List Token)
  | [], _ => .ok []
  | slot :: slots, given =>
    match slot.fill? given.head? with
    | none => .error i
    | some t => (resolveSlotsFrom (i + 1) slots given.tail).map (t :: ·)

/-- One token for each slot, or the index of the first required slot without an argument.
    Arguments beyond the slots do not count. -/
def resolveSlots (slots : List ArgSlot) (given : List Token) : Except Nat (List Token) :=
  resolveSlotsFrom 0 slots given

/-! ### Arguments -/

/-- The argument at an index; one that is not there is an omitted one. -/
def argument (args : List Token) (i : Nat) : Token := args[i]?.getD .omitted

/-- The result of a computation that may end early. -/
def settle (r : Except Token Token) : Token :=
  match r with
  | .ok t => t
  | .error t => t

/-- A computation ends with its first part or goes on with the result of it. -/
theorem settle_bind {α : Type} {P : Token → Prop} {x : Except Token α}
    {f : α → Except Token Token} (herror : ∀ t, x = .error t → P t)
    (hok : ∀ a, x = .ok a → P (settle (f a))) : P (settle (x >>= f)) := by
  cases x with
  | error t => exact herror t rfl
  | ok a => exact hok a rfl

end SheetFormula
