import SheetFormula.Proofs.Running

namespace SheetFormula

/-!
# Invariants of the stack

What each item of a program keeps true of the stack, a run keeps true of it.  What an item does
depends on the tables, so such a property comes down to one fact about each operator and each
function in them.

* `Environment.run_induction` — a property that the items of a run keep holds when the run ends.
* `Evaluator.Visits` — the stacks between the items of an evaluation.
* `Program.Supplies` — the tokens that come to the stack from outside: operands of the program and
  values of its inputs.
* `OperatorTable.All` and `FunctionTable.All` — a property of all operators or functions of a
  table.
-/

variable {e : Environment} {i : Item} {is : List Item} {stack stack' : List Token} {t : Token}

/-! ### Runs -/

namespace Environment

/-- **A run keeps what its items keep.** -/
theorem run_induction {I : List Token → Prop}
    (hstep : ∀ i ∈ is, ∀ s s', I s → e.Step s i s' → I s') (h : I stack)
    (hrun : e.run stack is = .ok stack') : I stack' := by
  -- By induction on the items, with the stack of each as the start of the rest.
  induction is generalizing stack with
  | nil =>
    cases hrun
    exact h
  | cons i is ih =>
    obtain ⟨s, hs, hrest⟩ := bind_eq_ok_iff.mp hrun
    have hi : I s := hstep i List.mem_cons_self stack s h (.of_step hs)
    exact ih (fun j hj => hstep j (List.mem_cons_of_mem i hj)) hi hrest

/-- A run that does not fail, cut at one of its items. -/
theorem exists_split_of_run (h : e.run stack is = .ok stack') (hi : i ∈ is) :
    ∃ before after s s', is = before ++ i :: after ∧ e.run stack before = .ok s ∧
      e.Step s i s' ∧ e.run s' after = .ok stack' := by
  obtain ⟨before, after, rfl⟩ := List.append_of_mem hi
  rw [run_append] at h
  obtain ⟨s, hs, hrest⟩ := bind_eq_ok_iff.mp h
  obtain ⟨s', hs', hafter⟩ := bind_eq_ok_iff.mp hrest
  exact ⟨before, after, s, s', rfl, hs, .of_step hs', hafter⟩

/-- A result of an infix operator is that of the operator in the table, or of a quotient by the
    number zero. -/
theorem applyInfix_eq_ok {s : String} {a b : Token} (h : e.applyInfix s a b = .ok t) :
    t = .failure .divisionByZero "Division by zero" ∨
      ∃ op, e.operators.get? s = some op ∧ t = op a b := by
  unfold applyInfix OperatorTable.applyInfix? at h
  -- A zero divisor is tested for before the table is looked at.
  split at h
  · cases h
    exact .inl rfl
  · cases hop : e.operators.get? s with
    | none =>
      rw [hop] at h
      cases h
    | some op =>
      rw [hop] at h
      cases h
      exact .inr ⟨op, rfl, rfl⟩

/-- A result of a prefix operator is that of the operator in the table. -/
theorem applyPrefix_eq_ok {s : String} {a : Token} (h : e.applyPrefix s a = .ok t) :
    ∃ op, e.operators.getPrefix? s = some op ∧ t = op a := by
  unfold applyPrefix OperatorTable.applyPrefix? at h
  cases hop : e.operators.getPrefix? s with
  | none =>
    rw [hop] at h
    cases h
  | some op =>
    rw [hop] at h
    cases h
    exact ⟨op, rfl, rfl⟩

end Environment

/-! ### What comes to the stack from outside -/

/-- Is the token an operand of the program, or the value of an input that it reads? -/
def Program.Supplies (p : Program) (inputs : Inputs) (t : Token) : Prop :=
  .push t ∈ p.items ∨ ∃ name ∈ p.requiredInputs, inputs name = some t

/-- A token is supplied by one of the items, which puts it on top of the stack. -/
theorem Program.Supplies.exists_item {p : Program} (h : p.Supplies e.inputs t) :
    ∃ i ∈ p.items, ∀ s s', e.Step s i s' → s' = t :: s := by
  rcases h with hpush | ⟨name, hname, hvalue⟩
  · refine ⟨_, hpush, fun s s' hs => ?_⟩
    cases hs with
    | push => rfl
  · refine ⟨_, Program.mem_requiredInputs.mp hname, fun s s' hs => ?_⟩
    cases hs with
    | load hload =>
      rw [hvalue] at hload
      cases hload
      rfl

/-! ### Evaluations -/

namespace Evaluator

variable {ev : Evaluator} {inputs : Inputs}

/-- Is this the stack before some item of an evaluation, or after the last one? -/
def Visits (ev : Evaluator) (inputs : Inputs) (stack : List Token) : Prop :=
  ∃ before after, ev.program.items = before ++ after ∧
    (ev.environment inputs).run [] before = .ok stack

/-- A property that each item keeps holds of all stacks of an evaluation. -/
theorem Visits.induction {I : List Token → Prop} (h : ev.Visits inputs stack) (hnil : I [])
    (hstep : ∀ i ∈ ev.program.items, ∀ s s', I s → (ev.environment inputs).Step s i s' → I s') :
    I stack := by
  obtain ⟨before, after, hitems, hrun⟩ := h
  refine Environment.run_induction (fun i hi => hstep i ?_) hnil hrun
  rw [hitems]
  exact List.mem_append_left after hi

/-- The token that an evaluation yields is the only one of the last stack. -/
theorem visits_of_evaluateToken (h : ev.evaluateToken inputs = .ok t) :
    ev.Visits inputs [t] := by
  obtain ⟨s, hrun, hresult⟩ := bind_eq_ok_iff.mp h
  match s, hresult with
  | [u], hresult =>
    cases hresult
    exact ⟨ev.program.items, [], (List.append_nil _).symm, hrun⟩

end Evaluator

/-! ### Tables -/

namespace OperatorTable

/-- Do all infix and all prefix operators of the table have a property? -/
structure All (P : InfixOperator → Prop) (Q : PrefixOperator → Prop) (table : OperatorTable) :
    Prop where
  infixOps : ∀ symbol op, table.get? symbol = some op → P op
  prefixOps : ∀ symbol op, table.getPrefix? symbol = some op → Q op

/-- A prefix operator is found under each of its symbols, and no other one changes. -/
theorem getPrefix?_registerPrefix (table : OperatorTable) (symbols : List String)
    (op : PrefixOperator) (symbol : String) :
    (table.registerPrefix symbols op).getPrefix? symbol =
      if symbol ∈ symbols then some op else table.getPrefix? symbol := by
  simp only [getPrefix?, registerPrefix, getElem?_foldl_insert]
  split <;> rfl

end OperatorTable

namespace FunctionTable

/-- Do all functions of the table have a property, under the names by which they are found? -/
def All (P : String → FunctionDef → Prop) (table : FunctionTable) : Prop :=
  ∀ name d, table.get? name = some d → P name d

section
variable {P : String → FunctionDef → Prop} {table : FunctionTable} {d : FunctionDef}

theorem all_empty : empty.All P := by
  intro name d h
  simp [empty, get?] at h

/-- Putting in a function with the property keeps it for the whole table. -/
theorem All.register (h : table.All P) (hd : P d.name d) : (table.register d).All P := by
  intro name d' hget
  rw [get?_register] at hget
  split at hget
  · next hname =>
    cases hget
    exact hname ▸ hd
  · exact h name d' hget

end

end FunctionTable

end SheetFormula
