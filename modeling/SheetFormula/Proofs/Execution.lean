import SheetFormula.Formula.Value
import SheetFormula.Proofs.StackHeight

namespace SheetFormula

/-!
# Executing a formula

The stack machine gives a formula the meaning that its tree has.

* `Formula.Evaluates` is the meaning as a relation, one rule for each way in which a node gets
  its value or its error.  An error of a part is the error of the node, and a part counts only if
  the parts before it have values, so the error is the first one in the order of the items.
* `Formula.evaluates_iff_value` — the rules say what `Formula.value` computes.
* `Formula.run_items` — on top of any stack, the items of a formula push its value.
* `Evaluator.evaluateToken_postfix` — hence a program in the postfix order of a formula evaluates
  to what the rules say, and never meets a stack that is too low or too high.
-/

/-! ### The rules -/

mutual

/-- The outcome of a formula: the token it stands for, or the error that ends its computation. -/
inductive Formula.Evaluates (e : Environment) : Formula → Except EvaluationError Token → Prop
  | operand {t : Token} : Formula.Evaluates e (.operand t) (.ok t)
  | bound {name : String} {t : Token} (h : e.inputs name = some t) :
    Formula.Evaluates e (.range name) (.ok t)
  | unbound {name : String} (h : e.inputs name = none) :
    Formula.Evaluates e (.range name) (.error (.missingInput name))
  | leftFails {s : String} {left right : Formula} {x : EvaluationError}
    (hl : left.Evaluates e (.error x)) : Formula.Evaluates e (.infixOp s left right) (.error x)
  | rightFails {s : String} {left right : Formula} {a : Token} {x : EvaluationError}
    (hl : left.Evaluates e (.ok a)) (hr : right.Evaluates e (.error x)) :
    Formula.Evaluates e (.infixOp s left right) (.error x)
  /-- A quotient by the number zero does not ask what operator `/` stands for. -/
  | zeroDivisor {left right : Formula} {a : Token} {n : Number}
    (hl : left.Evaluates e (.ok a)) (hr : right.Evaluates e (.ok (.number n)))
    (hn : n.isZero = true) :
    Formula.Evaluates e (.infixOp "/" left right)
      (.ok (.failure .divisionByZero "Division by zero"))
  | infixOp {s : String} {left right : Formula} {a b : Token} {op : InfixOperator}
    (hl : left.Evaluates e (.ok a)) (hr : right.Evaluates e (.ok b))
    (hz : s = "/" → ∀ n, b = .number n → n.isZero = false)
    (hop : e.operators.get? s = some op) :
    Formula.Evaluates e (.infixOp s left right) (.ok (op a b))
  | undefinedInfix {s : String} {left right : Formula} {a b : Token}
    (hl : left.Evaluates e (.ok a)) (hr : right.Evaluates e (.ok b))
    (hz : s = "/" → ∀ n, b = .number n → n.isZero = false)
    (hop : e.operators.get? s = none) :
    Formula.Evaluates e (.infixOp s left right) (.error (.undefinedOperator s))
  | argumentFails {s : String} {argument : Formula} {x : EvaluationError}
    (ha : argument.Evaluates e (.error x)) : Formula.Evaluates e (.prefixOp s argument) (.error x)
  | prefixOp {s : String} {argument : Formula} {a : Token} {op : PrefixOperator}
    (ha : argument.Evaluates e (.ok a)) (hop : e.operators.getPrefix? s = some op) :
    Formula.Evaluates e (.prefixOp s argument) (.ok (op a))
  | undefinedPrefix {s : String} {argument : Formula} {a : Token}
    (ha : argument.Evaluates e (.ok a)) (hop : e.operators.getPrefix? s = none) :
    Formula.Evaluates e (.prefixOp s argument) (.error (.undefinedOperator s))
  | group {inner : Formula} {r : Except EvaluationError Token} (h : inner.Evaluates e r) :
    Formula.Evaluates e (.group inner) r
  | argumentsFail {name : String} {args : Arguments} {x : EvaluationError}
    (ha : args.Evaluate e (.error x)) : Formula.Evaluates e (.call name args) (.error x)
  | undefinedFunction {name : String} {args : Arguments} {ts : List Token}
    (ha : args.Evaluate e (.ok ts)) (hd : e.functions.get? name = none) :
    Formula.Evaluates e (.call name args) (.error (.undefinedFunction name))
  /-- A function without slots is given the arguments as they are. -/
  | variadic {name : String} {args : Arguments} {ts : List Token} {d : FunctionDef}
    (ha : args.Evaluate e (.ok ts)) (hd : e.functions.get? name = some d)
    (hs : d.slots = none) : Formula.Evaluates e (.call name args) (.ok (d.body ts))
  | slotted {name : String} {args : Arguments} {ts filled : List Token} {d : FunctionDef}
    {slots : List ArgSlot} (ha : args.Evaluate e (.ok ts))
    (hd : e.functions.get? name = some d) (hs : d.slots = some slots)
    (hf : resolveSlots slots ts = .ok filled) :
    Formula.Evaluates e (.call name args) (.ok (d.body filled))
  | missingArgument {name : String} {args : Arguments} {ts : List Token} {d : FunctionDef}
    {slots : List ArgSlot} {index : Nat} (ha : args.Evaluate e (.ok ts))
    (hd : e.functions.get? name = some d) (hs : d.slots = some slots)
    (hf : resolveSlots slots ts = .error index) :
    Formula.Evaluates e (.call name args) (.error (.missingArgument name index))

/-- The outcome of the arguments of a call, from left to right. -/
inductive Arguments.Evaluate (e : Environment) :
    Arguments → Except EvaluationError (List Token) → Prop
  | none : Arguments.Evaluate e .none (.ok [])
  | firstFails {first : Formula} {rest : Arguments} {x : EvaluationError}
    (hf : first.Evaluates e (.error x)) : Arguments.Evaluate e (.given first rest) (.error x)
  | restFails {first : Formula} {rest : Arguments} {t : Token} {x : EvaluationError}
    (hf : first.Evaluates e (.ok t)) (hr : rest.Evaluate e (.error x)) :
    Arguments.Evaluate e (.given first rest) (.error x)
  | given {first : Formula} {rest : Arguments} {t : Token} {ts : List Token}
    (hf : first.Evaluates e (.ok t)) (hr : rest.Evaluate e (.ok ts)) :
    Arguments.Evaluate e (.given first rest) (.ok (t :: ts))
  | omittedFails {rest : Arguments} {x : EvaluationError} (hr : rest.Evaluate e (.error x)) :
    Arguments.Evaluate e (.omitted rest) (.error x)
  | omitted {rest : Arguments} {ts : List Token} (hr : rest.Evaluate e (.ok ts)) :
    Arguments.Evaluate e (.omitted rest) (.ok (.omitted :: ts))

end

/-! ### The operations -/

namespace Environment

variable {e : Environment} {s name : String} {a b : Token} {n : Number} {ts filled : List Token}
  {d : FunctionDef} {slots : List ArgSlot} {index : Nat}

/-- The zero of a division is a number, and no text or truth value that reads as one. -/
theorem isZeroNumber_iff {t : Token} :
    isZeroNumber t = true ↔ ∃ n, t = .number n ∧ n.isZero = true := by
  cases t <;> simp [isZeroNumber, Token.number?]

/-- The exception for quotients does not apply where the divisor is no zero. -/
theorem not_zeroDivisor (hz : s = "/" → ∀ n, b = .number n → n.isZero = false) :
    ¬(s = "/" ∧ isZeroNumber b = true) := by
  rintro ⟨hs, hb⟩
  obtain ⟨n, rfl, hn⟩ := isZeroNumber_iff.mp hb
  simp [hz hs n rfl] at hn

/-- A quotient by zero is `#DIV/0!`, whatever the table holds under its symbol. -/
theorem applyInfix_zeroDivisor (hn : n.isZero = true) :
    e.applyInfix "/" a (.number n) = .ok (.failure .divisionByZero "Division by zero") :=
  if_pos ⟨rfl, isZeroNumber_iff.mpr ⟨n, rfl, hn⟩⟩

/-- Otherwise the operator in the table is applied. -/
theorem applyInfix_registered {op : InfixOperator}
    (hz : s = "/" → ∀ n, b = .number n → n.isZero = false)
    (hop : e.operators.get? s = some op) : e.applyInfix s a b = .ok (op a b) := by
  rw [applyInfix, if_neg (not_zeroDivisor hz), OperatorTable.applyInfix?, hop]
  rfl

/-- Otherwise a symbol that is not in the table is an error of the evaluation. -/
theorem applyInfix_unregistered (hz : s = "/" → ∀ n, b = .number n → n.isZero = false)
    (hop : e.operators.get? s = none) : e.applyInfix s a b = .error (.undefinedOperator s) := by
  rw [applyInfix, if_neg (not_zeroDivisor hz), OperatorTable.applyInfix?, hop]
  rfl

theorem applyPrefix_registered {op : PrefixOperator}
    (hop : e.operators.getPrefix? s = some op) : e.applyPrefix s a = .ok (op a) := by
  rw [applyPrefix, OperatorTable.applyPrefix?, hop]
  rfl

/-- A prefix symbol that is not in the table is an error of the evaluation. -/
theorem applyPrefix_unregistered (hop : e.operators.getPrefix? s = none) :
    e.applyPrefix s a = .error (.undefinedOperator s) := by
  rw [applyPrefix, OperatorTable.applyPrefix?, hop]
  rfl

theorem findFunction_registered (hd : e.functions.get? name = some d) :
    e.findFunction name = .ok d := by
  rw [findFunction, hd]

/-- A function that is not in the table is an error of the evaluation. -/
theorem findFunction_unregistered (hd : e.functions.get? name = none) :
    e.findFunction name = .error (.undefinedFunction name) := by
  rw [findFunction, hd]

/-- A function without slots is given the arguments as they are. -/
theorem invoke_variadic (hs : d.slots = none) : invoke name d ts = .ok (d.body ts) := by
  rw [invoke, hs]

/-- A function with slots is given what fills them. -/
theorem invoke_filled (hs : d.slots = some slots) (hf : resolveSlots slots ts = .ok filled) :
    invoke name d ts = .ok (d.body filled) := by
  simp only [invoke, hs, hf]

/-- If a slot cannot be filled, the call is an error of the evaluation that names the slot. -/
theorem invoke_missing (hs : d.slots = some slots) (hf : resolveSlots slots ts = .error index) :
    invoke name d ts = .error (.missingArgument name index) := by
  simp only [invoke, hs, hf]

end Environment

/-! ### The rules and the computed value -/

section
variable {e : Environment} {s name : String} {left right argument : Formula} {args : Arguments}
  {a b : Token} {ts : List Token}

/-- The rules for an infix operator whose operands have values. -/
theorem Formula.Evaluates.of_applyInfix (hl : left.Evaluates e (.ok a))
    (hr : right.Evaluates e (.ok b)) :
    (Formula.infixOp s left right).Evaluates e (e.applyInfix s a b) := by
  by_cases hzero : s = "/" ∧ ∃ n, b = .number n ∧ n.isZero = true
  · obtain ⟨rfl, n, rfl, hn⟩ := hzero
    rw [Environment.applyInfix_zeroDivisor hn]
    exact .zeroDivisor hl hr hn
  · -- The table of operators is asked only if this is no quotient by zero.
    have hz : s = "/" → ∀ n, b = .number n → n.isZero = false := fun hs n hb =>
      Bool.eq_false_iff.mpr fun hn => hzero ⟨hs, n, hb, hn⟩
    cases hop : e.operators.get? s with
    | none =>
      rw [Environment.applyInfix_unregistered hz hop]
      exact .undefinedInfix hl hr hz hop
    | some op =>
      rw [Environment.applyInfix_registered hz hop]
      exact .infixOp hl hr hz hop

/-- The rules for a prefix operator whose operand has a value. -/
theorem Formula.Evaluates.of_applyPrefix (ha : argument.Evaluates e (.ok a)) :
    (Formula.prefixOp s argument).Evaluates e (e.applyPrefix s a) := by
  cases hop : e.operators.getPrefix? s with
  | none =>
    rw [Environment.applyPrefix_unregistered hop]
    exact .undefinedPrefix ha hop
  | some op =>
    rw [Environment.applyPrefix_registered hop]
    exact .prefixOp ha hop

/-- The rules for a call whose arguments have values. -/
theorem Formula.Evaluates.of_invoke (ha : args.Evaluate e (.ok ts)) :
    (Formula.call name args).Evaluates e
      (e.findFunction name >>= fun d => Environment.invoke name d ts) := by
  -- Which rule applies is decided by the table first, then by the slots.
  cases hd : e.functions.get? name with
  | none =>
    rw [Environment.findFunction_unregistered hd]
    exact .undefinedFunction ha hd
  | some d =>
    rw [Environment.findFunction_registered hd]
    show Formula.Evaluates e _ (Environment.invoke name d ts)
    cases hs : d.slots with
    | none =>
      rw [Environment.invoke_variadic hs]
      exact .variadic ha hd hs
    | some slots =>
      cases hf : resolveSlots slots ts with
      | error index =>
        rw [Environment.invoke_missing hs hf]
        exact .missingArgument ha hd hs hf
      | ok filled =>
        rw [Environment.invoke_filled hs hf]
        exact .slotted ha hd hs hf

end

mutual

/-- The computed value is an outcome by the rules. -/
theorem Formula.evaluates_value (e : Environment) : (f : Formula) → f.Evaluates e (f.value e)
  | .operand t => .operand
  | .range name => by
    simp only [Formula.value, Environment.load]
    cases h : e.inputs name with
    | none => exact .unbound h
    | some t => exact .bound h
  | .infixOp s left right => by
    have hl := left.evaluates_value e
    have hr := right.evaluates_value e
    rw [Formula.value]
    -- The left operand is computed first, so its error comes before that of the right one.
    cases hleft : left.value e with
    | error x => exact .leftFails (hleft ▸ hl)
    | ok a =>
      cases hright : right.value e with
      | error x => exact .rightFails (hleft ▸ hl) (hright ▸ hr)
      | ok b => exact .of_applyInfix (hleft ▸ hl) (hright ▸ hr)
  | .prefixOp s argument => by
    have ha := argument.evaluates_value e
    rw [Formula.value]
    cases harg : argument.value e with
    | error x => exact .argumentFails (harg ▸ ha)
    | ok a => exact .of_applyPrefix (harg ▸ ha)
  | .group inner => .group (inner.evaluates_value e)
  | .call name args => by
    have ha := args.evaluate_values e
    rw [Formula.value]
    cases hargs : args.values e with
    | error x => exact .argumentsFail (hargs ▸ ha)
    | ok ts => exact .of_invoke (hargs ▸ ha)

/-- The computed arguments are an outcome by the rules. -/
theorem Arguments.evaluate_values (e : Environment) :
    (args : Arguments) → args.Evaluate e (args.values e)
  | .none => .none
  | .given first rest => by
    have hf := first.evaluates_value e
    have hr := rest.evaluate_values e
    rw [Arguments.values]
    cases hfirst : first.value e with
    | error x => exact .firstFails (hfirst ▸ hf)
    | ok t =>
      cases hrest : rest.values e with
      | error x => exact .restFails (hfirst ▸ hf) (hrest ▸ hr)
      | ok ts => exact .given (hfirst ▸ hf) (hrest ▸ hr)
  | .omitted rest => by
    have hr := rest.evaluate_values e
    rw [Arguments.values]
    cases hrest : rest.values e with
    | error x => exact .omittedFails (hrest ▸ hr)
    | ok ts => exact .omitted (hrest ▸ hr)

end

mutual

/-- An outcome by the rules is the computed value: there is one at most. -/
theorem Formula.Evaluates.value_eq {e : Environment} :
    {f : Formula} → {r : Except EvaluationError Token} → f.Evaluates e r → f.value e = r
  | _, _, .operand => rfl
  | _, _, .bound h => by simp only [Formula.value, Environment.load, h]
  | _, _, .unbound h => by simp only [Formula.value, Environment.load, h]
  | _, _, .leftFails hl => by
    rw [Formula.value, hl.value_eq]
    rfl
  | _, _, .rightFails hl hr => by
    rw [Formula.value, hl.value_eq, hr.value_eq]
    rfl
  | _, _, .zeroDivisor hl hr hn => by
    rw [Formula.value, hl.value_eq, hr.value_eq]
    exact Environment.applyInfix_zeroDivisor hn
  | _, _, .infixOp hl hr hz hop => by
    rw [Formula.value, hl.value_eq, hr.value_eq]
    exact Environment.applyInfix_registered hz hop
  | _, _, .undefinedInfix hl hr hz hop => by
    rw [Formula.value, hl.value_eq, hr.value_eq]
    exact Environment.applyInfix_unregistered hz hop
  | _, _, .argumentFails ha => by
    rw [Formula.value, ha.value_eq]
    rfl
  | _, _, .prefixOp ha hop => by
    rw [Formula.value, ha.value_eq]
    exact Environment.applyPrefix_registered hop
  | _, _, .undefinedPrefix ha hop => by
    rw [Formula.value, ha.value_eq]
    exact Environment.applyPrefix_unregistered hop
  | _, _, .group h => by rw [Formula.value, h.value_eq]
  | _, _, .argumentsFail ha => by
    rw [Formula.value, ha.values_eq]
    rfl
  | _, _, .undefinedFunction ha hd => by
    simp only [Formula.value, ha.values_eq, Environment.findFunction_unregistered hd]
    rfl
  | _, _, .variadic ha hd hs => by
    simp only [Formula.value, ha.values_eq, Environment.findFunction_registered hd]
    exact Environment.invoke_variadic hs
  | _, _, .slotted ha hd hs hf => by
    simp only [Formula.value, ha.values_eq, Environment.findFunction_registered hd]
    exact Environment.invoke_filled hs hf
  | _, _, .missingArgument ha hd hs hf => by
    simp only [Formula.value, ha.values_eq, Environment.findFunction_registered hd]
    exact Environment.invoke_missing hs hf

/-- What the rules derive for arguments is what is computed for them. -/
theorem Arguments.Evaluate.values_eq {e : Environment} :
    {args : Arguments} → {r : Except EvaluationError (List Token)} → args.Evaluate e r →
      args.values e = r
  | _, _, .none => rfl
  | _, _, .firstFails hf => by
    rw [Arguments.values, hf.value_eq]
    rfl
  | _, _, .restFails hf hr => by
    rw [Arguments.values, hf.value_eq, hr.values_eq]
    rfl
  | _, _, .given hf hr => by
    rw [Arguments.values, hf.value_eq, hr.values_eq]
    rfl
  | _, _, .omittedFails hr => by
    rw [Arguments.values, hr.values_eq]
    rfl
  | _, _, .omitted hr => by
    rw [Arguments.values, hr.values_eq]
    rfl

end

/-- **Adequacy of the rules.**  Each formula has one outcome, the computed one. -/
theorem Formula.evaluates_iff_value {e : Environment} {f : Formula}
    {r : Except EvaluationError Token} : f.Evaluates e r ↔ f.value e = r :=
  ⟨fun h => h.value_eq, fun h => h ▸ f.evaluates_value e⟩

/-! ### The stack machine -/

section
variable {e : Environment} {stack : List Token}

/-- The arguments of a call come off the stack in the order in which they were pushed. -/
theorem Environment.pop_append {name : String} (ts : List Token) :
    Environment.pop name ts.length (ts.reverse ++ stack) = .ok (ts, stack) := by
  rw [Environment.pop_eq_ok_iff]
  refine ⟨by simp, ?_⟩
  rw [← List.length_reverse, List.take_left, List.drop_left, List.reverse_reverse]

theorem Arguments.values_length :
    {args : Arguments} → {ts : List Token} → args.values e = .ok ts → ts.length = args.count
  | .none, _, h => by
    cases h
    rfl
  | .given first rest, _, h => by
    obtain ⟨t, -, hr⟩ := bind_eq_ok_iff.mp h
    obtain ⟨ts, hts, heq⟩ := bind_eq_ok_iff.mp hr
    cases heq
    exact congrArg (· + 1) (Arguments.values_length hts)
  | .omitted rest, _, h => by
    obtain ⟨ts, hts, heq⟩ := bind_eq_ok_iff.mp h
    cases heq
    exact congrArg (· + 1) (Arguments.values_length hts)

end

mutual

/-- **Simulation.**  On top of any stack, and before any other items, the items of a formula push
    its value, or end the run with its error. -/
theorem Formula.run_items (e : Environment) (stack : List Token) (rest : List Item) :
    (f : Formula) →
      e.run stack (f.items ++ rest) = f.value e >>= fun t => e.run (t :: stack) rest
  | .operand t => rfl
  | .range name => by
    rw [Formula.items, Formula.value, List.singleton_append, Environment.run, Environment.step]
    cases e.load name <;> rfl
  | .infixOp s left right => by
    rw [Formula.items, Formula.value, List.append_assoc, List.append_assoc, left.run_items]
    cases left.value e with
    | error x => rfl
    | ok a =>
      show e.run (a :: stack) (right.items ++ ([.infixOp s] ++ rest)) = _
      -- The left operand is the lower one on the stack.
      rw [right.run_items]
      cases right.value e with
      | error x => rfl
      | ok b =>
        show e.run (b :: a :: stack) (.infixOp s :: rest) = e.applyInfix s a b >>= _
        rw [Environment.run, Environment.step]
        cases e.applyInfix s a b <;> rfl
  | .prefixOp s argument => by
    rw [Formula.items, Formula.value, List.append_assoc, argument.run_items]
    cases argument.value e with
    | error x => rfl
    | ok a =>
      show e.run (a :: stack) (.prefixOp s :: rest) = e.applyPrefix s a >>= _
      rw [Environment.run, Environment.step]
      cases e.applyPrefix s a <;> rfl
  | .group inner => inner.run_items e stack rest
  | .call name args => by
    rw [Formula.items, Formula.value, List.append_assoc, args.run_items]
    cases hargs : args.values e with
    | error x => rfl
    | ok ts =>
      show e.run (ts.reverse ++ stack) (.call name args.count :: rest) =
        (e.findFunction name >>= fun d => Environment.invoke name d ts) >>= _
      rw [Environment.run, Environment.step]
      cases e.findFunction name with
      | error x => rfl
      | ok d =>
        -- The function is looked up first, but its arguments are on the stack by then.
        rw [← Arguments.values_length hargs]
        show (Environment.pop name ts.length (ts.reverse ++ stack) >>= _) >>= _ = _
        rw [Environment.pop_append]
        show (Environment.invoke name d ts >>= _) >>= _ = Environment.invoke name d ts >>= _
        cases Environment.invoke name d ts <;> rfl

/-- The items of arguments push their values, the last one on top. -/
theorem Arguments.run_items (e : Environment) (stack : List Token) (rest : List Item) :
    (args : Arguments) →
      e.run stack (args.items ++ rest) =
        args.values e >>= fun ts => e.run (ts.reverse ++ stack) rest
  | .none => rfl
  | .given first more => by
    rw [Arguments.items, Arguments.values, List.append_assoc, first.run_items]
    cases first.value e with
    | error x => rfl
    | ok t =>
      show e.run (t :: stack) (more.items ++ rest) = _
      rw [more.run_items]
      cases more.values e with
      | error x => rfl
      | ok ts =>
        -- The values lie on the stack with the last one on top.
        show e.run (ts.reverse ++ t :: stack) rest = e.run ((t :: ts).reverse ++ stack) rest
        rw [List.reverse_cons, List.append_assoc, List.singleton_append]
  | .omitted more => by
    rw [Arguments.items, Arguments.values, List.cons_append]
    show e.run (.omitted :: stack) (more.items ++ rest) = _
    rw [more.run_items]
    cases more.values e with
    | error x => rfl
    | ok ts =>
      show e.run (ts.reverse ++ .omitted :: stack) rest =
        e.run ((.omitted :: ts).reverse ++ stack) rest
      rw [List.reverse_cons, List.append_assoc, List.singleton_append]

end

/-- The items of a formula, run from the empty stack, leave nothing but its value. -/
theorem Evaluator.evaluateToken_eq_value {ev : Evaluator} {f : Formula}
    (hitems : ev.program.items = f.items) (inputs : Inputs) :
    ev.evaluateToken inputs = f.value ⟨ev.operators, ev.functions, inputs⟩ := by
  have hrun := f.run_items ⟨ev.operators, ev.functions, inputs⟩ [] []
  rw [List.append_nil] at hrun
  rw [Evaluator.evaluateToken, hitems, hrun]
  cases f.value ⟨ev.operators, ev.functions, inputs⟩ <;> rfl

/-- **The stack machine refines the meaning of a formula.**  An evaluator whose program is the
    postfix order of a formula gives the outcome of the formula: its value, or the first error in
    the order of its parts.  Neither is an error of the stack. -/
theorem Evaluator.evaluateToken_postfix (ev : Evaluator) (f : Formula)
    (hitems : ev.program.items = f.items) (inputs : Inputs) :
    (∀ r, ev.evaluateToken inputs = r ↔ f.Evaluates ⟨ev.operators, ev.functions, inputs⟩ r) ∧
      ev.evaluateToken inputs = f.value ⟨ev.operators, ev.functions, inputs⟩ ∧
      ∀ x, ev.evaluateToken inputs = .error x → x.isStackError = false := by
  have hvalue := Evaluator.evaluateToken_eq_value hitems inputs
  -- That no error is one of the stack follows from the heights alone.
  have hheight : Item.heightAfter 0 ev.program.items = some 1 := by
    have := f.heightAfter_items 0 []
    rwa [List.append_nil, ← hitems] at this
  refine ⟨fun r => ?_, hvalue, fun x hx => Evaluator.isStackError_of_height hheight hx⟩
  rw [hvalue, Formula.evaluates_iff_value]

namespace LengthsExample

open Formula

/-- The built-in tables, and one input. -/
def environment : Environment :=
  ⟨.builtin, .builtin, fun name => if name = "x" then some (.text "abc") else none⟩

/-- The formula `LEN(LEFT(x)) + y`, or without the `y`. -/
def lengths (y : Option Formula) : Formula :=
  let len := call "LEN(" (.given (call "LEFT(" (.given (range "x") (.omitted .none))) .none)
  y.elim len (infixOp "+" len)

end LengthsExample

open LengthsExample in
/-- The formula `LEN(LEFT(x)) + y`, where only `x` has a value: the call is carried out before the
    missing input ends the computation. -/
theorem Evaluator.evaluateToken_postfix_lengths :
    (lengths (some (.range "y"))).program.items = (lengths (some (.range "y"))).items ∧
      Evaluator.evaluateToken ⟨(lengths (some (.range "y"))).program, .builtin, .builtin⟩
        environment.inputs = .error (.missingInput "y") := by
  refine ⟨rfl, ?_⟩
  have hvalue := (Evaluator.evaluateToken_postfix
    ⟨(lengths (some (.range "y"))).program, .builtin, .builtin⟩ _ rfl environment.inputs).2.1
  rw [hvalue]
  rfl

end SheetFormula
