import SheetFormula.Proofs.StackHeight

namespace SheetFormula

/-!
# Running a program

What the stack machine does with one item, and how a run is made of such steps.

* `Environment.Step` has one constructor for each way in which an item can be executed, and
  `Environment.Fails` one for each reason why it cannot.
* `Environment.Reaches` — a run comes to an item with a stack.
* `Environment.run_eq_error_iff` — a run fails where it comes to an item that fails.
* `Environment.exists_step_of_run` — a run that does not fail executes all its items.
-/

variable {e : Environment} {i : Item} {is : List Item} {stack stack' : List Token}
  {x : EvaluationError}

/-- Is `given` what the body of a function is given for the arguments `supplied`? -/
def FunctionDef.Receives (d : FunctionDef) (supplied given : List Token) : Prop :=
  match d.slots with
  | none => given = supplied
  | some slots => resolveSlots slots supplied = .ok given

/-- A function with slots receives what they make of the arguments. -/
theorem FunctionDef.receives_some_iff {d : FunctionDef} {slots : List ArgSlot}
    {supplied given : List Token} (hs : d.slots = some slots) :
    d.Receives supplied given ↔ resolveSlots slots supplied = .ok given := by
  rw [FunctionDef.Receives, hs]

namespace Environment

/-! ### One item -/

/-- **What one item can do.**  The top of the stack is the head of the list. -/
inductive Step (e : Environment) : List Token → Item → List Token → Prop
  | push {stack : List Token} {t : Token} : Step e stack (.push t) (t :: stack)
  | load {stack : List Token} {name : String} {t : Token} (h : e.inputs name = some t) :
    Step e stack (.load name) (t :: stack)
  | infixOp {stack : List Token} {s : String} {a b t : Token} (h : e.applyInfix s a b = .ok t) :
    Step e (b :: a :: stack) (.infixOp s) (t :: stack)
  | prefixOp {stack : List Token} {s : String} {a t : Token} (h : e.applyPrefix s a = .ok t) :
    Step e (a :: stack) (.prefixOp s) (t :: stack)
  | call {stack supplied given : List Token} {name : String} {d : FunctionDef}
    (hd : e.functions.get? name = some d) (hg : d.Receives supplied given) :
    Step e (supplied.reverse ++ stack) (.call name supplied.length) (d.body given :: stack)

/-- **Why an item cannot be executed.** -/
inductive Fails (e : Environment) : List Token → Item → EvaluationError → Prop
  | unbound {stack : List Token} {name : String} (h : e.inputs name = none) :
    Fails e stack (.load name) (.missingInput name)
  | infixValues {stack : List Token} {s : String} (h : stack.length < 2) :
    Fails e stack (.infixOp s) (.notEnoughValues s)
  | undefinedInfix {stack : List Token} {s : String} {a b : Token}
    (h : e.operators.get? s = none) :
    Fails e (b :: a :: stack) (.infixOp s) (.undefinedOperator s)
  | prefixValues {s : String} : Fails e [] (.prefixOp s) (.notEnoughValues s)
  | undefinedPrefix {stack : List Token} {s : String} {a : Token}
    (h : e.operators.getPrefix? s = none) :
    Fails e (a :: stack) (.prefixOp s) (.undefinedOperator s)
  | undefinedFunction {stack : List Token} {name : String} {n : Nat}
    (hd : e.functions.get? name = none) :
    Fails e stack (.call name n) (.undefinedFunction name)
  | callValues {stack : List Token} {name : String} {n : Nat} {d : FunctionDef}
    (hd : e.functions.get? name = some d) (h : stack.length < n) :
    Fails e stack (.call name n) (.notEnoughValues name)
  | missingArgument {stack supplied : List Token} {name : String} {d : FunctionDef}
    {slots : List ArgSlot} {index : Nat} (hd : e.functions.get? name = some d)
    (hs : d.slots = some slots) (hf : resolveSlots slots supplied = .error index) :
    Fails e (supplied.reverse ++ stack) (.call name supplied.length)
      (.missingArgument name index)

/-- An input is read if it is bound. -/
theorem load_eq_ok_iff {name : String} {t : Token} :
    e.load name = .ok t ↔ e.inputs name = some t := by
  unfold load
  cases e.inputs name <;> simp

theorem load_eq_error_iff {name : String} :
    e.load name = .error x ↔ e.inputs name = none ∧ x = .missingInput name := by
  unfold load
  cases e.inputs name <;> simp [eq_comm]

/-- An operator itself never fails: it can only be undefined. -/
theorem applyInfix_error {s : String} {a b : Token} (h : e.applyInfix s a b = .error x) :
    e.operators.get? s = none ∧ x = .undefinedOperator s := by
  unfold applyInfix OperatorTable.applyInfix? at h
  split at h
  · cases h
  · cases hop : e.operators.get? s with
    | none =>
      rw [hop] at h
      cases h
      exact ⟨rfl, rfl⟩
    | some op =>
      rw [hop] at h
      cases h

theorem applyPrefix_error {s : String} {a : Token} (h : e.applyPrefix s a = .error x) :
    e.operators.getPrefix? s = none ∧ x = .undefinedOperator s := by
  unfold applyPrefix OperatorTable.applyPrefix? at h
  cases hop : e.operators.getPrefix? s with
  | none =>
    rw [hop] at h
    cases h
    exact ⟨rfl, rfl⟩
  | some op =>
    rw [hop] at h
    cases h

theorem findFunction_eq_ok_iff {name : String} {d : FunctionDef} :
    e.findFunction name = .ok d ↔ e.functions.get? name = some d := by
  unfold findFunction
  cases e.functions.get? name <;> simp

theorem findFunction_eq_error_iff {name : String} :
    e.findFunction name = .error x ↔
      e.functions.get? name = none ∧ x = .undefinedFunction name := by
  unfold findFunction
  cases e.functions.get? name <;> simp [eq_comm]

/-- Arguments can only be taken if there are enough of them. -/
theorem pop_eq_error_iff {name : String} {n : Nat} :
    pop name n stack = .error x ↔ stack.length < n ∧ x = .notEnoughValues name := by
  unfold pop
  split
  · next h => simp [Nat.not_lt.mpr h]
  · next h => simp [Nat.not_le.mp h, eq_comm]

/-- **A call with its slots filled** gives what the body makes of the arguments received. -/
theorem invoke_eq_ok_iff {name : String} {d : FunctionDef} {supplied : List Token} {t : Token} :
    invoke name d supplied = .ok t ↔ ∃ given, d.Receives supplied given ∧ t = d.body given := by
  unfold invoke FunctionDef.Receives
  cases d.slots with
  | none => simp [eq_comm]
  | some slots => cases h : resolveSlots slots supplied <;> simp [h, eq_comm]

/-- A call fails if a slot without a default is left empty, and only then. -/
theorem invoke_eq_error_iff {name : String} {d : FunctionDef} {supplied : List Token} :
    invoke name d supplied = .error x ↔
      ∃ slots index, d.slots = some slots ∧ resolveSlots slots supplied = .error index ∧
        x = .missingArgument name index := by
  unfold invoke
  cases d.slots with
  | none => simp
  | some slots => cases h : resolveSlots slots supplied <;> simp [h, eq_comm]

/-- The values that a call takes from the stack stand on top of the others. -/
theorem pop_eq_ok {name : String} {n : Nat} {r : List Token × List Token}
    (h : pop name n stack = .ok r) : n = r.1.length ∧ stack = r.1.reverse ++ r.2 := by
  obtain ⟨hn, rfl⟩ := pop_eq_ok_iff.mp h
  constructor
  · rw [List.length_reverse, List.length_take, Nat.min_eq_left hn]
  · rw [List.reverse_reverse, List.take_append_drop]

/-- Whatever the machine does with an item is one of the cases of `Step`. -/
theorem Step.of_step (h : e.step stack i = .ok stack') : Step e stack i stack' := by
  cases i with
  | push t =>
    cases h
    exact .push
  | load name =>
    obtain ⟨t, ht, hr⟩ := bind_eq_ok_iff.mp h
    cases hr
    exact .load (load_eq_ok_iff.mp ht)
  | infixOp s =>
    -- An operator runs only if its operands are there.
    match stack, h with
    | b :: a :: rest, h =>
      obtain ⟨t, ht, hr⟩ := bind_eq_ok_iff.mp h
      cases hr
      exact .infixOp ht
  | prefixOp s =>
    match stack, h with
    | a :: rest, h =>
      obtain ⟨t, ht, hr⟩ := bind_eq_ok_iff.mp h
      cases hr
      exact .prefixOp ht
  | call name n =>
    obtain ⟨d, hd, hcall⟩ := bind_eq_ok_iff.mp h
    obtain ⟨⟨supplied, rest⟩, hpop, hinvoke⟩ := bind_eq_ok_iff.mp hcall
    obtain ⟨t, ht, hr⟩ := bind_eq_ok_iff.mp hinvoke
    cases hr
    obtain ⟨rfl, rfl⟩ := pop_eq_ok hpop
    obtain ⟨given, hg, rfl⟩ := invoke_eq_ok_iff.mp ht
    exact .call (findFunction_eq_ok_iff.mp hd) hg

/-- An item that fails does so for one of the reasons of `Fails`. -/
theorem Fails.of_step (h : e.step stack i = .error x) : Fails e stack i x := by
  cases i with
  | push t => cases h
  | load name =>
    rcases bind_eq_error_iff.mp h with hx | ⟨t, -, ht⟩
    · obtain ⟨hnone, rfl⟩ := load_eq_error_iff.mp hx
      exact .unbound hnone
    · cases ht
  | infixOp s =>
    -- Too few operands, or an operator that is not in the table.
    match stack, h with
    | [], h | [_], h =>
      cases h
      exact .infixValues (by simp)
    | b :: a :: rest, h =>
      rcases bind_eq_error_iff.mp h with hx | ⟨t, -, ht⟩
      · obtain ⟨hnone, rfl⟩ := applyInfix_error hx
        exact .undefinedInfix hnone
      · cases ht
  | prefixOp s =>
    match stack, h with
    | [], h =>
      cases h
      exact .prefixValues
    | a :: rest, h =>
      rcases bind_eq_error_iff.mp h with hx | ⟨t, -, ht⟩
      · obtain ⟨hnone, rfl⟩ := applyPrefix_error hx
        exact .undefinedPrefix hnone
      · cases ht
  | call name n =>
    rcases bind_eq_error_iff.mp h with hx | ⟨d, hd, hcall⟩
    · obtain ⟨hnone, rfl⟩ := findFunction_eq_error_iff.mp hx
      exact .undefinedFunction hnone
    -- The function is found before its arguments are taken, and the slots come last.
    have hfound := findFunction_eq_ok_iff.mp hd
    rcases bind_eq_error_iff.mp hcall with hx | ⟨⟨supplied, rest⟩, hpop, hinvoke⟩
    · obtain ⟨hlt, rfl⟩ := pop_eq_error_iff.mp hx
      exact .callValues hfound hlt
    obtain ⟨rfl, rfl⟩ := pop_eq_ok hpop
    rcases bind_eq_error_iff.mp hinvoke with hx | ⟨t, -, ht⟩
    · obtain ⟨slots, index, hs, hf, rfl⟩ := invoke_eq_error_iff.mp hx
      exact .missingArgument hfound hs hf
    · cases ht

/-! ### Runs -/

/-- Items are run one part after the other, on the stack that the first part leaves. -/
theorem run_append (xs ys : List Item) :
    e.run stack (xs ++ ys) = e.run stack xs >>= fun s => e.run s ys := by
  induction xs generalizing stack with
  | nil => rfl
  | cons i is ih =>
    rw [List.cons_append, run, run]
    cases e.step stack i with
    | error x => rfl
    | ok s => exact ih

/-- Does a run of the items come to this item, with the stack `stack'`? -/
def Reaches (e : Environment) (stack : List Token) (is : List Item) (i : Item)
    (stack' : List Token) : Prop :=
  ∃ before after, is = before ++ i :: after ∧ e.run stack before = .ok stack'

/-- An item that is reached is one of those that are run. -/
theorem Reaches.mem (h : e.Reaches stack is i stack') : i ∈ is := by
  obtain ⟨before, after, rfl, -⟩ := h
  simp

/-- The first item is reached at once. -/
theorem Reaches.head : e.Reaches stack (i :: is) i stack := ⟨[], is, rfl, rfl⟩

/-- What is reached after the first item is reached from the stack that it leaves. -/
theorem Reaches.tail {j : Item} {s : List Token} (hs : e.step stack j = .ok s)
    (h : e.Reaches s is i stack') : e.Reaches stack (j :: is) i stack' := by
  obtain ⟨before, after, rfl, hrun⟩ := h
  refine ⟨j :: before, after, rfl, ?_⟩
  rw [run, hs]
  exact hrun

/-- **Runs that fail** come to an item that fails. -/
theorem run_eq_error_iff :
    e.run stack is = .error x ↔ ∃ i s, e.Reaches stack is i s ∧ e.step s i = .error x := by
  constructor
  · intro h
    -- By induction on the items: the first one fails, or one of the others on the stack it leaves.
    induction is generalizing stack with
    | nil => cases h
    | cons i is ih =>
      rcases bind_eq_error_iff.mp h with hx | ⟨s, hs, hrun⟩
      · exact ⟨i, stack, .head, hx⟩
      · obtain ⟨j, s', hreach, hx⟩ := ih hrun
        exact ⟨j, s', hreach.tail hs, hx⟩
  · rintro ⟨i, s, ⟨before, after, rfl, hrun⟩, hx⟩
    rw [run_append, hrun]
    show e.run s (i :: after) = .error x
    rw [run, hx]
    rfl

/-- **Runs that do not fail** execute all their items. -/
theorem exists_step_of_run (h : e.run stack is = .ok stack') (hi : i ∈ is) :
    ∃ s s', e.Reaches stack is i s ∧ e.step s i = .ok s' := by
  obtain ⟨before, after, rfl⟩ := List.append_of_mem hi
  rw [run_append] at h
  obtain ⟨s, hs, hrest⟩ := bind_eq_ok_iff.mp h
  obtain ⟨s', hs', -⟩ := bind_eq_ok_iff.mp hrest
  exact ⟨s, s', ⟨before, after, rfl, hs⟩, hs'⟩

end Environment

/-! ### Evaluators -/

namespace Evaluator

variable {ev : Evaluator} {inputs : Inputs}

/-- An evaluator has the program of its tokens, and keeps the tables. -/
theorem ofTokens_eq_ok_iff {operators : OperatorTable} {functions : FunctionTable}
    {tokens : List Token} :
    ofTokens operators functions tokens = .ok ev ↔
      ∃ p, Program.ofTokens functions tokens = .ok p ∧ ev = ⟨p, operators, functions⟩ := by
  unfold ofTokens
  cases Program.ofTokens functions tokens <;> simp [Except.map, eq_comm]

/-- What the evaluator runs its program with. -/
def environment (ev : Evaluator) (inputs : Inputs) : Environment :=
  ⟨ev.operators, ev.functions, inputs⟩

/-- Does the evaluation come to this item, with this stack? -/
def Reaches (ev : Evaluator) (inputs : Inputs) (i : Item) (stack : List Token) : Prop :=
  (ev.environment inputs).Reaches [] ev.program.items i stack

/-- An error of the evaluation is one of an item, or says that the values left are not one. -/
theorem evaluateToken_error (h : ev.evaluateToken inputs = .error x) :
    (∃ i stack, ev.Reaches inputs i stack ∧ (ev.environment inputs).Fails stack i x) ∨
      x = .noValue ∨ x = .tooManyValues := by
  rcases bind_eq_error_iff.mp h with hrun | ⟨stack, -, hr⟩
  · obtain ⟨i, s, hreach, hstep⟩ := Environment.run_eq_error_iff.mp hrun
    exact .inl ⟨i, s, hreach, .of_step hstep⟩
  -- A run that succeeds fails afterwards if the stack has no value or several.
  · match stack, hr with
    | [], hr =>
      cases hr
      exact .inr (.inl rfl)
    | _ :: _ :: _, hr =>
      cases hr
      exact .inr (.inr rfl)

/-- An evaluation that yields a token executes all items. -/
theorem exists_step_of_evaluateToken {t : Token} (h : ev.evaluateToken inputs = .ok t)
    (hi : i ∈ ev.program.items) :
    ∃ stack stack', ev.Reaches inputs i stack ∧
      (ev.environment inputs).Step stack i stack' := by
  obtain ⟨stack, hrun, -⟩ := bind_eq_ok_iff.mp h
  obtain ⟨s, s', hreach, hstep⟩ := Environment.exists_step_of_run hrun hi
  exact ⟨s, s', hreach, .of_step hstep⟩

end Evaluator

end SheetFormula
