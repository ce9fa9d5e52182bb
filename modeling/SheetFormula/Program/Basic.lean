import SheetFormula.Token.Basic
import Std.Data.ExtTreeSet

namespace SheetFormula

/-!
# Programs

A program is a formula in postfix order: the steps of a machine that works on a stack of values.
Beside its steps it keeps the set of the inputs that they read.

* `Item.record` and `Item.namesIn` — the names that one item or several of them read.
* `Program` — items with the set of those names, which they determine (`Program.ext`).
* `Program.mem_requiredInputs` — the required inputs are those that some item loads.
-/

/-- One step of a program. -/
inductive Item
  /-- Pushes an operand; an omitted one marks an argument that is left out. -/
  | push (operand : Token)
  /-- Pushes the input with this name. -/
  | load (name : String)
  /-- Replaces the two topmost values by the result of an infix operator. -/
  | infixOp (symbol : String)
  /-- Replaces the topmost value by the result of a prefix operator. -/
  | prefixOp (symbol : String)
  /-- Replaces the `count` topmost values by the result of a function. -/
  | call (name : String) (count : Nat)
  deriving DecidableEq

namespace Item

/-- The item in a program listing. -/
def render : Item → String
  | push .omitted => "omitted"
  | push t => "push " ++ t.describe
  | load name => "load " ++ name
  | infixOp symbol => "infix " ++ symbol
  | prefixOp symbol => "prefix " ++ symbol
  | call name count => "call " ++ name ++ " " ++ Decimal.natText count

/-- The names with that of the input that the item reads, if it reads one. -/
def record (names : Std.ExtTreeSet String) : Item → Std.ExtTreeSet String
  | load name => names.insert name
  | _ => names

/-- The names of the inputs that the items read. -/
def namesIn (is : List Item) : Std.ExtTreeSet String := is.foldl record ∅

variable {names : Std.ExtTreeSet String} {is : List Item} {name : String}

/-- An item adds the name of the input that it loads. -/
theorem mem_record {i : Item} : name ∈ record names i ↔ i = load name ∨ name ∈ names := by
  cases i <;> simp [record, Std.ExtTreeSet.mem_insert]

/-- What is collected from the items is added to the names there are. -/
theorem mem_foldl_record : name ∈ is.foldl record names ↔ load name ∈ is ∨ name ∈ names := by
  induction is generalizing names with
  | nil => simp
  | cons i is ih =>
    rw [List.foldl_cons, ih, mem_record, List.mem_cons, or_left_comm, or_assoc, eq_comm]

/-- The names that are collected are those of the inputs that some item loads. -/
theorem mem_namesIn : name ∈ namesIn is ↔ load name ∈ is := by
  simp [namesIn, mem_foldl_record]

end Item

/-- The items of a formula in the order of their execution. -/
structure Program where
  items : List Item
  /-- The names of the inputs, in ascending order. -/
  inputs : Std.ExtTreeSet String
  mem_inputs : ∀ name, name ∈ inputs ↔ .load name ∈ items

namespace Program

def length (p : Program) : Nat := p.items.length

def isEmpty (p : Program) : Bool := p.items.isEmpty

/-- The program listing, one item on each line. -/
def render (p : Program) : String := String.join (p.items.map fun i => i.render ++ "\n")

/-- The names of the inputs that the program reads, each once, in ascending order. -/
def requiredInputs (p : Program) : List String := p.inputs.toList

/-- **Required inputs** are those that an item loads. -/
theorem mem_requiredInputs {p : Program} {name : String} :
    name ∈ p.requiredInputs ↔ .load name ∈ p.items := by
  rw [requiredInputs, Std.ExtTreeSet.mem_toList, p.mem_inputs]

/-- The required inputs are listed in ascending order, and none of them twice. -/
theorem requiredInputs_ascending (p : Program) :
    p.requiredInputs.Pairwise (fun a b => compare a b = .lt) :=
  Std.ExtTreeSet.ordered_toList

/-- The items determine the inputs. -/
@[ext]
theorem ext {p q : Program} (h : p.items = q.items) : p = q := by
  have hinputs : p.inputs = q.inputs := by
    apply Std.ExtTreeSet.ext_mem
    intro name
    rw [p.mem_inputs, q.mem_inputs, h]
  cases p
  cases q
  cases h
  cases hinputs
  rfl

instance : DecidableEq Program := fun p q =>
  decidable_of_iff (p.items = q.items) Program.ext_iff.symm

/-- The program that consists of the items. -/
def ofItems (items : List Item) : Program := ⟨items, Item.namesIn items, fun _ => Item.mem_namesIn⟩

@[simp] theorem ofItems_items (items : List Item) : (ofItems items).items = items := rfl

end Program

end SheetFormula
