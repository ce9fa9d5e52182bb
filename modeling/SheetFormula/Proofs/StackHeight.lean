import SheetFormula.Evaluator
import SheetFormula.Formula.Basic
import SheetFormula.Proofs.Reading

namespace SheetFormula

/-!
# The height of the stack

How many values an item takes from the stack does not depend on the values, so the height of the
stack after a program can be computed without running it.

* `Item.heightAfter` computes it, or finds that an item takes more values than there are.
* `Environment.run_height` — a run that is not stopped by an error of another kind goes through
  these heights.
* `Evaluator.isStackError_of_height` — a program that leaves one value never has a stack error.
* `Formula.heightAfter_items` — the items of a formula leave one value.
-/

/-- Does the error say that there are too few or too many values on the stack? -/
def EvaluationError.isStackError : EvaluationError → Bool
  | notEnoughValues _ | tooManyValues | noValue => true
  | _ => false

namespace Item

/-- The number of values that an item takes from the stack.  It puts one value back. -/
def taken : Item → Nat
  | push _ | load _ => 0
  | infixOp _ => 2
  | prefixOp _ => 1
  | call _ count => count

/-- The height of the stack after the items, `h` being the height before; none if one of them
    takes more values than there are. -/
def heightAfter (h : Nat) : List Item → Option Nat
  | [] => some h
  | i :: is => if i.taken ≤ h then heightAfter (h - i.taken + 1) is else none

/-- Heights are computed one part after the other. -/
theorem heightAfter_append (h : Nat) (xs ys : List Item) :
    heightAfter h (xs ++ ys) = (heightAfter h xs).bind (heightAfter · ys) := by
  induction xs generalizing h with
  | nil => rfl
  | cons i is ih =>
    simp only [List.cons_append, heightAfter]
    split
    · exact ih _
    · rfl

/-- One more item. -/
theorem heightAfter_concat {h k : Nat} {is : List Item} {i : Item}
    (hk : heightAfter h is = some k) (hi : i.taken ≤ k) :
    heightAfter h (is ++ [i]) = some (k - i.taken + 1) := by
  rw [heightAfter_append, hk]
  simp only [Option.bind_some, heightAfter, if_pos hi]

end Item

namespace Environment

variable {e : Environment} {i : Item} {is : List Item} {stack stack' : List Token}
  {x : EvaluationError}

/-- Arguments are taken from the top of the stack and put into their order. -/
theorem pop_eq_ok_iff {name : String} {n : Nat} {r : List Token × List Token} :
    pop name n stack = .ok r ↔
      n ≤ stack.length ∧ r = ((stack.take n).reverse, stack.drop n) := by
  unfold pop
  split
  · next h => simp [h, eq_comm]
  · next h => simp [h]

/-- The operations on values fail for reasons of their own. -/
theorem isStackError_load {name : String} (h : e.load name = .error x) :
    x.isStackError = false := by
  unfold load at h
  split at h <;> cases h
  rfl

theorem isStackError_applyInfix {s : String} {a b : Token}
    (h : e.applyInfix s a b = .error x) : x.isStackError = false := by
  unfold applyInfix at h
  split at h
  · cases h
  · split at h <;> cases h
    rfl

theorem isStackError_applyPrefix {s : String} {a : Token}
    (h : e.applyPrefix s a = .error x) : x.isStackError = false := by
  unfold applyPrefix at h
  split at h <;> cases h
  rfl

theorem isStackError_findFunction {name : String} (h : e.findFunction name = .error x) :
    x.isStackError = false := by
  unfold findFunction at h
  split at h <;> cases h
  rfl

theorem isStackError_invoke {name : String} {d : FunctionDef} {args : List Token}
    (h : invoke name d args = .error x) : x.isStackError = false := by
  unfold invoke at h
  split at h
  · cases h
  · split at h <;> cases h
    rfl

/-- An item takes its values and leaves one. -/
theorem step_ok_height (h : e.step stack i = .ok stack') :
    i.taken ≤ stack.length ∧ stack'.length = stack.length - i.taken + 1 := by
  -- By cases on the item: what it takes has to be there, and it leaves one value.
  cases i with
  | push t =>
    cases h
    exact ⟨Nat.zero_le _, rfl⟩
  | load name =>
    obtain ⟨t, -, ht⟩ := bind_eq_ok_iff.mp h
    cases ht
    exact ⟨Nat.zero_le _, rfl⟩
  | infixOp s =>
    match stack, h with
    | b :: a :: rest, h =>
      obtain ⟨t, -, ht⟩ := bind_eq_ok_iff.mp h
      cases ht
      simp [Item.taken]
  | prefixOp s =>
    match stack, h with
    | a :: rest, h =>
      obtain ⟨t, -, ht⟩ := bind_eq_ok_iff.mp h
      cases ht
      simp [Item.taken]
  | call name n =>
    obtain ⟨d, -, hd⟩ := bind_eq_ok_iff.mp h
    obtain ⟨⟨args, rest⟩, hpop, hargs⟩ := bind_eq_ok_iff.mp hd
    obtain ⟨hn, hr⟩ := pop_eq_ok_iff.mp hpop
    cases hr
    obtain ⟨t, -, ht⟩ := bind_eq_ok_iff.mp hargs
    cases ht
    exact ⟨hn, by simp [Item.taken]⟩

/-- An item that finds its values fails for a reason of its own only. -/
theorem step_error_height (h : e.step stack i = .error x) (hi : i.taken ≤ stack.length) :
    x.isStackError = false := by
  cases i with
  | push t => cases h
  | load name =>
    rcases bind_eq_error_iff.mp h with hx | ⟨t, -, ht⟩
    · exact isStackError_load hx
    · cases ht
  | infixOp s =>
    match stack, h, hi with
    | b :: a :: rest, h, _ =>
      rcases bind_eq_error_iff.mp h with hx | ⟨t, -, ht⟩
      · exact isStackError_applyInfix hx
      · cases ht
    -- Below two values the operator does not find what it takes.
    | [a], _, hi => simp [Item.taken] at hi
    | [], _, hi => simp [Item.taken] at hi
  | prefixOp s =>
    match stack, h, hi with
    | a :: rest, h, _ =>
      rcases bind_eq_error_iff.mp h with hx | ⟨t, -, ht⟩
      · exact isStackError_applyPrefix hx
      · cases ht
    | [], _, hi => simp [Item.taken] at hi
  | call name n =>
    rcases bind_eq_error_iff.mp h with hx | ⟨d, -, hd⟩
    · exact isStackError_findFunction hx
    rcases bind_eq_error_iff.mp hd with hx | ⟨r, -, hr⟩
    · have hn : n ≤ stack.length := hi
      simp only [pop, if_pos hn] at hx
      cases hx
    rcases bind_eq_error_iff.mp hr with hx | ⟨t, -, ht⟩
    · exact isStackError_invoke hx
    · cases ht

/-- **Runs and heights.**  If every item finds its values, a run ends at the height that was
    computed, or with an error that is none of the stack. -/
theorem run_height {k : Nat} (hk : Item.heightAfter stack.length is = some k) :
    (∀ stack', e.run stack is = .ok stack' → stack'.length = k) ∧
      ∀ x, e.run stack is = .error x → x.isStackError = false := by
  -- The height that a step reaches is the one from which `heightAfter` goes on.
  induction is generalizing stack with
  | nil =>
    cases hk
    refine ⟨fun stack' h => ?_, fun x h => ?_⟩
    · cases h
      rfl
    · cases h
  | cons i is ih =>
    simp only [Item.heightAfter] at hk
    split at hk
    · next hi =>
      constructor
      · intro stack' h
        obtain ⟨s, hs, hrun⟩ := bind_eq_ok_iff.mp h
        rw [← (step_ok_height hs).2] at hk
        exact (ih hk).1 stack' hrun
      · intro x h
        rcases bind_eq_error_iff.mp h with hx | ⟨s, hs, hrun⟩
        · exact step_error_height hx hi
        · rw [← (step_ok_height hs).2] at hk
          exact (ih hk).2 x hrun
    · cases hk

end Environment

/-- A program that leaves one value has no stack error, whatever it is run with. -/
theorem Evaluator.isStackError_of_height {ev : Evaluator}
    (h : Item.heightAfter 0 ev.program.items = some 1) {inputs : Inputs} {x : EvaluationError}
    (hx : ev.evaluateToken inputs = .error x) : x.isStackError = false := by
  have hk : Item.heightAfter ([] : List Token).length ev.program.items = some 1 := h
  rcases bind_eq_error_iff.mp hx with hr | ⟨stack, hs, hr⟩
  · exact (Environment.run_height hk).2 x hr
  · obtain ⟨t, rfl⟩ := List.length_eq_one_iff.mp ((Environment.run_height hk).1 stack hs)
    cases hr

/-! ### Formulas -/

mutual

/-- The items of a formula leave one value, whatever comes after them. -/
theorem Formula.heightAfter_items (h : Nat) (rest : List Item) :
    (f : Formula) → Item.heightAfter h (f.items ++ rest) = Item.heightAfter (h + 1) rest
  | .operand t => by simp [Formula.items, Item.heightAfter, Item.taken]
  | .range name => by simp [Formula.items, Item.heightAfter, Item.taken]
  -- By recursion on the formula, with the rest of the items kept open.
  | .infixOp s left right => by
    rw [Formula.items, List.append_assoc, List.append_assoc, left.heightAfter_items,
      right.heightAfter_items]
    simp [Item.heightAfter, Item.taken]
  | .prefixOp s argument => by
    rw [Formula.items, List.append_assoc, argument.heightAfter_items]
    simp [Item.heightAfter, Item.taken]
  | .group inner => inner.heightAfter_items h rest
  | .call name args => by
    rw [Formula.items, List.append_assoc, args.heightAfter_items]
    simp [Item.heightAfter, Item.taken]

/-- The items of arguments leave one value for each of them. -/
theorem Arguments.heightAfter_items (h : Nat) (rest : List Item) :
    (args : Arguments) →
      Item.heightAfter h (args.items ++ rest) = Item.heightAfter (h + args.count) rest
  | .none => rfl
  | .given first more => by
    rw [Arguments.items, List.append_assoc, first.heightAfter_items, more.heightAfter_items,
      Arguments.count, Nat.add_assoc, Nat.add_comm 1]
  | .omitted more => by
    rw [Arguments.items, List.cons_append, Item.heightAfter, Item.taken,
      if_pos (Nat.zero_le _), more.heightAfter_items, Arguments.count, Nat.add_assoc,
      Nat.add_comm 1, Nat.sub_zero]

end

end SheetFormula
