import SheetFormula.Proofs.Conservation
import SheetFormula.Proofs.Running

namespace SheetFormula

/-!
# What a result depends on

A formula is built with a table of functions and evaluated with two tables and the values of its
inputs.  Of all these only what the tokens mention counts.

* `Program.ofTokens_congr` — building asks for the functions that are called.
* `Environment.run_congr` — a run asks for what its items name.
* `Evaluator.SameOutcome` — two constructions that cannot be told apart.
* `Evaluator.NeedsInputs` — how the outcome of an evaluation shows which inputs are bound.
* `Evaluator.ofTokens_noninterference` — what the tokens do not mention has no influence, and the
  inputs that are required are needed.
-/

/-! ### Agreement -/

/-- Do two tables have the same functions under the names that the tokens call? -/
def FunctionTable.AgreeOn (functions functions' : FunctionTable) (tokens : List Token) : Prop :=
  ∀ name, .callOpen name ∈ tokens → functions.get? name = functions'.get? name

/-- Do two tables have the same operators under the symbols among the tokens? -/
structure OperatorTable.AgreeOn (operators operators' : OperatorTable) (tokens : List Token) :
    Prop where
  infixOps : ∀ symbol, .infixOp symbol ∈ tokens → operators.get? symbol = operators'.get? symbol
  prefixOps : ∀ symbol, .prefixOp symbol ∈ tokens →
    operators.getPrefix? symbol = operators'.getPrefix? symbol

/-- Do the inputs with these names have the same value, or none, in both? -/
def Inputs.AgreeOn (inputs inputs' : Inputs) (names : List String) : Prop :=
  ∀ name ∈ names, inputs name = inputs' name

/-- Does what an item names mean the same in two environments? -/
def Environment.AgreeOn (e e' : Environment) : Item → Prop
  | .push _ => True
  | .load name => e.inputs name = e'.inputs name
  | .infixOp symbol => e.operators.get? symbol = e'.operators.get? symbol
  | .prefixOp symbol => e.operators.getPrefix? symbol = e'.operators.getPrefix? symbol
  | .call name _ => e.functions.get? name = e'.functions.get? name

variable {functions functions' : FunctionTable} {operators operators' : OperatorTable}
  {tokens : List Token}

/-! ### Building -/

namespace Builder

variable {b : Builder} {t : Token} {ts : List Token} {n : Nat}

/-- A token asks for the function that it calls, if it calls one. -/
theorem step_congr (h : ∀ name, t = .callOpen name → functions.get? name = functions'.get? name) :
    b.step functions n t = b.step functions' n t := by
  cases t with
  | callOpen name => simp only [step, openCall, h name rfl]
  | _ => rfl

/-- Tables that agree on the names among the tokens read them alike, errors included. -/
theorem read_congr (h : functions.AgreeOn functions' ts) :
    b.read functions n ts = b.read functions' n ts := by
  induction ts generalizing b n with
  | nil => rfl
  | cons t ts ih =>
    -- A table is asked for the name of the first token at most, and then for those of the others.
    have ht : b.step functions n t = b.step functions' n t := by
      refine step_congr ?_
      rintro name rfl
      exact h name List.mem_cons_self
    have hts : functions.AgreeOn functions' ts := fun name hn => h name (List.mem_cons_of_mem t hn)
    rw [read, read, ht]
    cases b.step functions' n t with
    | error x => rfl
    | ok c => exact ih hts

end Builder

/-- **Building** asks for the functions that are called. -/
theorem Program.ofTokens_congr (h : functions.AgreeOn functions' tokens) :
    Program.ofTokens functions tokens = Program.ofTokens functions' tokens := by
  rw [Program.ofTokens, Program.ofTokens, Builder.read_congr h]

/-! ### Running -/

namespace Environment

variable {e e' : Environment} {i : Item} {is : List Item} {stack : List Token}

/-- One item does the same to every stack in two environments that agree on it. -/
theorem step_congr (h : e.AgreeOn e' i) : e.step stack i = e'.step stack i := by
  cases i with
  | push t => rfl
  | load name =>
    have hinput : e.inputs name = e'.inputs name := h
    simp only [step, load, hinput]
  | infixOp symbol =>
    have hop : e.operators.get? symbol = e'.operators.get? symbol := h
    simp only [step, applyInfix, OperatorTable.applyInfix?, hop]
  | prefixOp symbol =>
    have hop : e.operators.getPrefix? symbol = e'.operators.getPrefix? symbol := h
    simp only [step, applyPrefix, OperatorTable.applyPrefix?, hop]
  | call name count =>
    have hd : e.functions.get? name = e'.functions.get? name := h
    simp only [step, findFunction, hd]

/-- **Running** asks for what the items name. -/
theorem run_congr (h : ∀ i ∈ is, e.AgreeOn e' i) : e.run stack is = e'.run stack is := by
  induction is generalizing stack with
  | nil => rfl
  | cons i is ih =>
    rw [run, run, step_congr (h i List.mem_cons_self)]
    cases e'.step stack i with
    | error x => rfl
    | ok s => exact ih fun j hj => h j (List.mem_cons_of_mem i hj)

/-- What the items of a program name stands among the tokens it is built from. -/
theorem agreeOn_items {p : Program} {inputs inputs' : Inputs}
    (hp : Program.ofTokens functions tokens = .ok p) (ho : operators.AgreeOn operators' tokens)
    (hf : functions.AgreeOn functions' tokens) (hin : inputs.AgreeOn inputs' p.requiredInputs) :
    ∀ i ∈ p.items, AgreeOn ⟨operators, functions, inputs⟩ ⟨operators', functions', inputs'⟩ i := by
  intro i hi
  cases i with
  | push t => trivial
  | load name => exact hin name (Program.mem_requiredInputs.mpr hi)
  -- Operators and calls of the program come from the tokens, where the tables agree.
  | infixOp symbol =>
    exact ho.infixOps symbol ((Program.exists_operation_iff hp rfl).mp ⟨_, hi, rfl⟩)
  | prefixOp symbol =>
    exact ho.prefixOps symbol ((Program.exists_operation_iff hp rfl).mp ⟨_, hi, rfl⟩)
  | call name count => exact hf name ((Program.exists_operation_iff hp rfl).mp ⟨_, hi, rfl⟩)

end Environment

/-! ### The inputs that are required -/

namespace Evaluator

/-- How the outcome of an evaluation shows which of the required inputs are bound.  Any token
    counts as a value of an input. -/
structure NeedsInputs (ev : Evaluator) (inputs : Inputs) : Prop where
  /-- Without one of them there is an error, though it may be another one. -/
  unbound : ∀ name ∈ ev.program.requiredInputs, inputs name = none →
    ∃ x, ev.evaluateToken inputs = .error x
  /-- An input that is said to be missing is a required one and has no value. -/
  missing : ∀ name, ev.evaluateToken inputs = .error (.missingInput name) →
    name ∈ ev.program.requiredInputs ∧ inputs name = none
  /-- With all of them no input is said to be missing. -/
  bound : (∀ name ∈ ev.program.requiredInputs, ∃ t, inputs name = some t) →
    ∀ name, ev.evaluateToken inputs ≠ .error (.missingInput name)

section
variable {ev : Evaluator} {inputs : Inputs} {name : String}

/-- Nothing but reading an input can say that it is missing. -/
theorem unbound_of_missingInput (h : ev.evaluateToken inputs = .error (.missingInput name)) :
    name ∈ ev.program.requiredInputs ∧ inputs name = none := by
  rcases evaluateToken_error h with ⟨i, stack, hreach, hfails⟩ | hx | hx
  · cases hfails with
    | unbound hnone => exact ⟨Program.mem_requiredInputs.mpr hreach.mem, hnone⟩
  · cases hx
  · cases hx

/-- An evaluation with a result has read all its inputs. -/
theorem bound_of_evaluateToken {t : Token} (h : ev.evaluateToken inputs = .ok t)
    (hname : name ∈ ev.program.requiredInputs) : ∃ v, inputs name = some v := by
  have hmem := Program.mem_requiredInputs.mp hname
  obtain ⟨stack, stack', -, hstep⟩ := exists_step_of_evaluateToken h hmem
  cases hstep with
  | load hsome => exact ⟨_, hsome⟩

end

/-- **Required inputs are needed.** This holds of every evaluator, whatever its tables are. -/
theorem needsInputs (ev : Evaluator) (inputs : Inputs) : ev.NeedsInputs inputs where
  unbound name hname hnone := by
    cases hr : ev.evaluateToken inputs with
    | error x => exact ⟨x, rfl⟩
    | ok t =>
      -- An evaluation that succeeds has read all required inputs, so each of them is bound.
      obtain ⟨v, hv⟩ := bound_of_evaluateToken hr hname
      rw [hnone] at hv
      cases hv
  missing name h := unbound_of_missingInput h
  bound hbound name h := by
    obtain ⟨hname, hnone⟩ := unbound_of_missingInput h
    obtain ⟨v, hv⟩ := hbound name hname
    rw [hnone] at hv
    cases hv

/-! ### Two constructions -/

/-- **Two constructions that cannot be told apart**, as long as the inputs are the same as far as
    they are required. -/
inductive SameOutcome : Except SyntaxError Evaluator → Except SyntaxError Evaluator → Prop
  | error (x : SyntaxError) : SameOutcome (.error x) (.error x)
  | ok {ev ev' : Evaluator} (hprogram : ev.program = ev'.program)
    (h : ∀ inputs inputs' : Inputs, inputs.AgreeOn inputs' ev.program.requiredInputs →
      ev.evaluateToken inputs = ev'.evaluateToken inputs') : SameOutcome (.ok ev) (.ok ev')

/-- Evaluators that cannot be told apart give the same result on inputs that agree. -/
theorem SameOutcome.evaluateToken_eq {ev ev' : Evaluator} {inputs inputs' : Inputs}
    (h : SameOutcome (.ok ev) (.ok ev')) (hin : inputs.AgreeOn inputs' ev.program.requiredInputs) :
    ev.evaluateToken inputs = ev'.evaluateToken inputs' := by
  cases h with
  | ok hprogram hrun => exact hrun inputs inputs' hin

/-- **A result depends on what the formula mentions.**  Tables that agree on the names and symbols
    among the tokens give the same outcome, whatever else they hold; and of the inputs those count
    that are required, and each of them does. -/
theorem ofTokens_noninterference (hf : functions.AgreeOn functions' tokens)
    (ho : operators.AgreeOn operators' tokens) :
    SameOutcome (ofTokens operators functions tokens) (ofTokens operators' functions' tokens) ∧
      ∀ (ev : Evaluator) (inputs : Inputs), ev.NeedsInputs inputs := by
  refine ⟨?_, needsInputs⟩
  unfold ofTokens
  rw [← Program.ofTokens_congr hf]
  cases hp : Program.ofTokens functions tokens with
  | error x => exact .error x
  | ok p =>
    refine .ok rfl fun inputs inputs' hin => ?_
    -- Equal programs on environments that agree on their items run alike.
    have hagree := Environment.agreeOn_items hp ho hf hin
    unfold evaluateToken
    rw [Environment.run_congr hagree]

end Evaluator

/-! ### Tables that lack what a formula does not mention -/

namespace NoninterferenceExample

/-- The formula `LEN(x) + 1`. -/
def lengthTokens : List Token :=
  [.callOpen "LEN(", .range "x", .callClose, .infixOp "+", .ofInt 1]

/-- Its program. -/
def lengthProgram : Program :=
  .ofItems [.load "x", .call "LEN(" 1, .push (.ofInt 1), .infixOp "+"]

/-- A table without an operator that the formula does not mention. -/
def fewerOperators : OperatorTable := OperatorTable.builtin.unregister "*"

/-- A table without a function that the formula does not call. -/
def fewerFunctions : FunctionTable := FunctionTable.builtin.unregister "NOT("

/-- The text `abc` as `x`, and an input that is not required. -/
def inputs (y : Option Token) : Inputs :=
  fun name => if name = "x" then some (.text "abc") else if name = "y" then y else none

/-- The formula calls one function, and the smaller table has it. -/
theorem functions_agreeOn : FunctionTable.builtin.AgreeOn fewerFunctions lengthTokens := by
  intro name hname
  obtain rfl : name = "LEN(" := by simpa [lengthTokens, Token.ofInt] using hname
  rw [fewerFunctions, FunctionTable.get?_unregister, if_neg (by decide)]

/-- The formula has one symbol, and the smaller table has it. -/
theorem operators_agreeOn : OperatorTable.builtin.AgreeOn fewerOperators lengthTokens := by
  refine ⟨fun symbol hsymbol => ?_, fun symbol hsymbol => ?_⟩
  · obtain rfl : symbol = "+" := by simpa [lengthTokens, Token.ofInt] using hsymbol
    rw [fewerOperators, OperatorTable.get?_unregister, if_neg (by decide)]
  · simp [lengthTokens, Token.ofInt] at hsymbol

end NoninterferenceExample

open NoninterferenceExample in
/-- Neither what the tables lack nor the other input has an influence on the length of `x`. -/
theorem Evaluator.ofTokens_noninterference_length :
    FunctionTable.builtin.AgreeOn fewerFunctions lengthTokens ∧
      OperatorTable.builtin.AgreeOn fewerOperators lengthTokens ∧
      ∃ ev ev', ofTokens .builtin .builtin lengthTokens = .ok ev ∧
        ofTokens fewerOperators fewerFunctions lengthTokens = .ok ev' ∧
        ev.program.requiredInputs = ["x"] ∧
        ev.evaluateToken (inputs none) = ev'.evaluateToken (inputs (some (.ofInt 2))) := by
  have hev : ofTokens .builtin .builtin lengthTokens =
      .ok ⟨lengthProgram, .builtin, .builtin⟩ := rfl
  have hev' : ofTokens fewerOperators fewerFunctions lengthTokens =
      .ok ⟨lengthProgram, fewerOperators, fewerFunctions⟩ := rfl
  have hrequired : lengthProgram.requiredInputs = ["x"] := by decide +kernel
  have hsame := (ofTokens_noninterference functions_agreeOn operators_agreeOn).1
  rw [hev, hev'] at hsame
  have hin : (inputs none).AgreeOn (inputs (some (.ofInt 2))) lengthProgram.requiredInputs := by
    intro name hname
    rw [hrequired, List.mem_singleton] at hname
    rw [hname]
    rfl
  exact ⟨functions_agreeOn, operators_agreeOn, _, _, hev, hev', hrequired,
    hsame.evaluateToken_eq hin⟩

end SheetFormula
