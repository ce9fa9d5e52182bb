import SheetFormula.Proofs.Running

namespace SheetFormula

/-!
# The end of a run is decided by the program

Too few or too many values on the stack are a fault of the formula, not of its inputs.  How many
values an item takes is written in the item, and the stack is looked at before anything that
depends on the values.  So the items alone say at which of them the values run out, or how many
are left at the end.

* `StackEnd` — how a run ends as far as the number of values decides it.
* `Program.stackEnd` — this end, computed from the items.
* `Environment.Fails.stackError` — the only stack error of an item is that it finds too few values.
* `Environment.stackEnd_run` — a run that is not stopped by another error comes to the computed end.
* `Evaluator.stackEnd_evaluateToken` — so two evaluations of a formula do not differ in it.
-/

/-- How a run ends as far as the number of values on the stack decides it. -/
inductive StackEnd
  | oneValue
  | noValue
  | tooManyValues
  /-- This operation takes more values than there are. -/
  | notEnoughValues (operation : String)
  deriving DecidableEq

namespace StackEnd

/-- The end of a run that leaves this many values. -/
def ofHeight : Nat → StackEnd
  | 0 => .noValue
  | 1 => .oneValue
  | _ + 2 => .tooManyValues

/-- The end that an error reports; none if it reports something else. -/
def ofError? : EvaluationError → Option StackEnd
  | .notEnoughValues operation => some (.notEnoughValues operation)
  | .tooManyValues => some .tooManyValues
  | .noValue => some .noValue
  | _ => none

/-- The end of an evaluation with this result; none if an error of another kind has stopped it. -/
def ofResult? : Except EvaluationError Token → Option StackEnd
  | .ok _ => some .oneValue
  | .error x => ofError? x

/-- The errors that are ends of the stack are the stack errors. -/
theorem ofError?_isSome (x : EvaluationError) : (ofError? x).isSome = x.isStackError := by
  cases x <;> rfl

/-- Stack errors are not mistaken for success. -/
theorem ofError?_ne_oneValue (x : EvaluationError) : ofError? x ≠ some .oneValue := by
  cases x <;> simp [ofError?]

/-- What is left on the stack decides the result. -/
theorem ofResult?_result (stack : List Token) :
    ofResult? (Environment.result stack) = some (ofHeight stack.length) := by
  match stack with
  | [] => rfl
  | [t] => rfl
  | _ :: _ :: _ => rfl

end StackEnd

/-! ### The end as a function of the items -/

/-- The name of an item in an error about its values.  Items that take none have no name. -/
def Item.operationName : Item → String
  | infixOp symbol | prefixOp symbol => symbol
  | call name _ => name
  | push _ | load _ => ""

/-- The end of a run of the items on a stack of height `h`: the first item that takes more values
    than there are, or else what is left. -/
def Item.stackEnd (h : Nat) : List Item → StackEnd
  | [] => .ofHeight h
  | i :: is =>
    if i.taken ≤ h then stackEnd (h - i.taken + 1) is else .notEnoughValues i.operationName

/-- The end of a program. -/
def Program.stackEnd (p : Program) : StackEnd := Item.stackEnd 0 p.items

/-! ### Runs -/

namespace Environment

variable {e : Environment} {i : Item} {is : List Item} {stack : List Token} {x : EvaluationError}
  {s : StackEnd}

/-- An item fails for want of values before it looks at any of them. -/
theorem Fails.stackError (h : e.Fails stack i x) (hx : StackEnd.ofError? x = some s) :
    stack.length < i.taken ∧ s = .notEnoughValues i.operationName := by
  -- The other errors are none of the stack.
  cases h with
  | infixValues hlt =>
    cases hx
    exact ⟨hlt, rfl⟩
  | prefixValues =>
    cases hx
    exact ⟨Nat.zero_lt_one, rfl⟩
  | callValues hd hlt =>
    cases hx
    exact ⟨hlt, rfl⟩
  | _ => cases hx

/-- **Runs.**  A run that is not stopped by an error of another kind ends as the items say. -/
theorem stackEnd_run (h : StackEnd.ofResult? (e.run stack is >>= result) = some s) :
    s = Item.stackEnd stack.length is := by
  -- A step that succeeds reaches the height from which `Item.stackEnd` goes on.
  induction is generalizing stack with
  | nil =>
    have hend : StackEnd.ofResult? (result stack) = some s := h
    rw [StackEnd.ofResult?_result] at hend
    exact (Option.some.inj hend).symm
  | cons i is ih =>
    rw [Item.stackEnd]
    cases hstep : e.step stack i with
    | ok stack' =>
      obtain ⟨htaken, hheight⟩ := step_ok_height hstep
      have hrest : StackEnd.ofResult? (e.run stack' is >>= result) = some s := by
        rw [run, hstep] at h
        exact h
      rw [if_pos htaken, ← hheight]
      exact ih hrest
    | error x =>
      have hx : StackEnd.ofError? x = some s := by
        rw [run, hstep] at h
        exact h
      obtain ⟨hlt, hs⟩ := (Fails.of_step hstep).stackError hx
      rw [if_neg (Nat.not_le.mpr hlt)]
      exact hs

end Environment

/-! ### Evaluations -/

namespace Evaluator

variable {ev : Evaluator} {inputs inputs' : Inputs} {t : Token} {x : EvaluationError} {s : StackEnd}

/-- An evaluation that is not stopped by an error of another kind ends as its program says. -/
theorem stackEnd_eq (h : StackEnd.ofResult? (ev.evaluateToken inputs) = some s) :
    s = ev.program.stackEnd :=
  Environment.stackEnd_run h

/-- A formula that has a result on some inputs has no stack error on any. -/
theorem isStackError_of_evaluateToken (ht : ev.evaluateToken inputs = .ok t)
    (hx : ev.evaluateToken inputs' = .error x) : x.isStackError = false := by
  -- The token shows that the program ends with one value, and a stack error would show another end.
  have hone : StackEnd.oneValue = ev.program.stackEnd := by
    apply stackEnd_eq
    rw [ht]
    rfl
  rw [← StackEnd.ofError?_isSome]
  cases hs : StackEnd.ofError? x with
  | none => rfl
  | some s =>
    have hend : s = ev.program.stackEnd := by
      apply stackEnd_eq
      rw [hx]
      exact hs
    rw [hend, ← hone] at hs
    exact absurd hs (StackEnd.ofError?_ne_oneValue x)

/-- **Stack errors are decided by the program.**  Whatever the tables, evaluations of a formula
    that end with a result or with a stack error end in the same one of these ways, with the same
    operation if values are missing, on all inputs.  So a formula with a stack error on some inputs
    has no result on any, and one with a result on some inputs has no stack error on any. -/
theorem stackEnd_evaluateToken (ev : Evaluator) (inputs inputs' : Inputs) :
    (∀ s s', StackEnd.ofResult? (ev.evaluateToken inputs) = some s →
      StackEnd.ofResult? (ev.evaluateToken inputs') = some s' →
        s = s' ∧ s = ev.program.stackEnd) ∧
    (∀ x, ev.evaluateToken inputs = .error x → x.isStackError = true →
      ∀ t, ev.evaluateToken inputs' ≠ .ok t) ∧
    (∀ t, ev.evaluateToken inputs = .ok t →
      ∀ x, ev.evaluateToken inputs' = .error x → x.isStackError = false) := by
  refine ⟨?_, ?_, ?_⟩
  · intro s s' hs hs'
    -- Both ends are the one that the program has by itself.
    have hprogram : s = ev.program.stackEnd := stackEnd_eq hs
    exact ⟨hprogram.trans (stackEnd_eq hs').symm, hprogram⟩
  · intro x hx hstack t ht
    rw [isStackError_of_evaluateToken ht hx] at hstack
    cases hstack
  · exact fun t ht x hx => isStackError_of_evaluateToken ht hx

end Evaluator

/-! ### A value left over -/

namespace StackEndExample

/-- The formula `2 1 / x`, in which nothing takes the `2`. -/
def surplusTokens : List Token :=
  [.ofInt 2, .whitespace " ", .ofInt 1, .infixOp "/", .range "x"]

/-- The evaluator of the formula. -/
def surplusEvaluator : Evaluator :=
  ⟨.ofItems [.push (.ofInt 2), .push (.ofInt 1), .load "x", .infixOp "/"], .builtin, .builtin⟩

/-- The same value for each input. -/
def constantly (t : Token) : Inputs := fun _ => some t

end StackEndExample

open StackEndExample in
/-- One value is left over, both where the quotient is by zero and where it is none of numbers.  So
    no input at all gives the formula a result. -/
theorem Evaluator.stackEnd_evaluateToken_surplus :
    ofTokensBuiltin surplusTokens = .ok surplusEvaluator ∧
      surplusEvaluator.evaluateToken (constantly (.ofInt 0)) = .error .tooManyValues ∧
      surplusEvaluator.evaluateToken (constantly (.text "a")) = .error .tooManyValues ∧
      surplusEvaluator.program.stackEnd = .tooManyValues ∧
      ∀ inputs t, surplusEvaluator.evaluateToken inputs ≠ .ok t := by
  have hev : ofTokensBuiltin surplusTokens = .ok surplusEvaluator := rfl
  have hzero : surplusEvaluator.evaluateToken (constantly (.ofInt 0)) = .error .tooManyValues := rfl
  have htext : surplusEvaluator.evaluateToken (constantly (.text "a")) = .error .tooManyValues :=
    rfl
  have hend : StackEnd.tooManyValues = surplusEvaluator.program.stackEnd :=
    ((stackEnd_evaluateToken surplusEvaluator (constantly (.ofInt 0)) (constantly (.text "a"))).1
      .tooManyValues .tooManyValues (by rw [hzero]; rfl) (by rw [htext]; rfl)).2
  refine ⟨hev, hzero, htext, hend.symm, fun inputs => ?_⟩
  exact (stackEnd_evaluateToken surplusEvaluator (constantly (.ofInt 0)) inputs).2.1 _ hzero rfl

end SheetFormula
