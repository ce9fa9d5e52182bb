import SheetFormula.Proofs.Calls
import SheetFormula.Proofs.Conservation
import SheetFormula.Proofs.OperatorContract

namespace SheetFormula

/-!
# Values stay values

With the operators and functions of this library, a formula on values computes with values only:
no range and no structural token comes to the stack, no number becomes infinite or a NaN, and the
only errors that are made are `#VALUE!`, `#NUM!` and `#DIV/0!`.

* `Token.Proper` — the tokens that may stand on the stack, one rule for each kind.
* `Operator.Keeps` and `FunctionDef.Keeps` — operators and functions that take tokens with a
  property to tokens with it; `Environment.Step.keeps` is what this means for one item.
* `OperatorTable.builtin_keeps` and `FunctionTable.builtin_keeps` — the tables of this library
  keep proper tokens proper.
* `Program.isValue_of_push` — the operands of a program are values.
* `Evaluator.ofTokens_keepsValues` — hence all stacks of an evaluation are proper, and so is what
  it yields.
-/

/-! ### Proper tokens -/

/-- The codes of the errors that operators and functions make. -/
def ErrorCode.isComputed : ErrorCode → Bool
  | value | number | divisionByZero => true
  | null | reference | name | notAvailable | gettingData => false

/-- **What may stand on the stack**: a value that is no infinite number and no NaN, and no other
    error than a given one or one that a computation makes. -/
inductive Token.Proper (given : ErrorValue → Prop) : Token → Prop
  | logical (b : Bool) : Token.Proper given (.logical b)
  | text (s : String) : Token.Proper given (.text s)
  | number {n : Number} (h : n.isFinite = true) : Token.Proper given (.number n)
  | omitted : Token.Proper given .omitted
  | given {x : ErrorValue} (h : given x) : Token.Proper given (.error x)
  | made {code : ErrorCode} {message : String} (h : code.isComputed = true) :
    Token.Proper given (.failure code message)

/-- Is the token a value, and finite if it is a number? -/
def Token.isFiniteValue (t : Token) : Bool := t.isValue && t.number?.all Number.isFinite

namespace Token

variable {given : ErrorValue → Prop} {t : Token}

/-- An input that is a finite value may stand on the stack, if its error may. -/
theorem proper_of_isFiniteValue (h : t.isFiniteValue = true)
    (hx : ∀ x, t = .error x → given x) : t.Proper given := by
  cases t with
  | logical b => exact .logical b
  | text s => exact .text s
  | number n =>
    have hn : n.isFinite = true := by
      simpa [isFiniteValue, isValue, isOperand, isRange, number?] using h
    exact .number hn
  | omitted => exact .omitted
  | error x => exact .given (hx x rfl)
  | _ => simp [isFiniteValue, isValue, isOperand, isRange] at h

theorem Proper.isValue (h : t.Proper given) : t.isValue = true := by
  cases h <;> rfl

theorem Proper.isOperand (h : t.Proper given) : t.isOperand = true := by
  cases h <;> rfl

/-- A proper token has a scalar. -/
theorem Proper.exists_scalar (h : t.Proper given) : ∃ s, t.scalar? = some s := by
  cases h <;> exact ⟨_, rfl⟩

theorem Proper.isFinite {n : Number} (h : (Token.number n).Proper given) : n.isFinite = true := by
  cases h with
  | number hn => exact hn

/-- An error with a code that no computation makes is a given one. -/
theorem Proper.given_of_code {x : ErrorValue} (h : (Token.error x).Proper given)
    (hx : x.code.isComputed = false) : given x := by
  cases h with
  | given hg => exact hg
  | made hc =>
    rw [hc] at hx
    cases hx

end Token

/-! ### What keeps a property of tokens -/

section
variable (P : Token → Prop)

/-- Does the infix operator take tokens with the property to one with it? -/
def Operator.Keeps (op : InfixOperator) : Prop := ∀ a b, P a → P b → P (op a b)

/-- Does the prefix operator take tokens with the property to one with it? -/
def Operator.KeepsPrefix (op : PrefixOperator) : Prop := ∀ a, P a → P (op a)

/-- Does the function take arguments with the property to a token with it?  The defaults of its
    slots are arguments too. -/
structure FunctionDef.Keeps (d : FunctionDef) : Prop where
  body : ∀ args, (∀ a ∈ args, P a) → P (d.body args)
  default : ∀ slots, d.slots = some slots → ∀ slot ∈ slots, ∀ t, slot.default? = some t → P t

end

section
variable {P : Token → Prop} {slots : List ArgSlot} {supplied given : List Token} {t : Token}

/-- What fills the slots is supplied, or it is a default. -/
theorem mem_of_resolveSlots (h : resolveSlots slots supplied = .ok given) (ht : t ∈ given) :
    t ∈ supplied ∨ ∃ slot ∈ slots, slot.default? = some t := by
  obtain ⟨hlength, hfill⟩ := resolveSlotsFrom_eq_ok h
  obtain ⟨i, hi⟩ := List.getElem?_of_mem ht
  have hslot : i < slots.length := by
    rw [← hlength]
    exact (List.getElem?_eq_some_iff.mp hi).1
  have hfilled := hfill i slots[i] (List.getElem?_eq_getElem hslot)
  rw [hi] at hfilled
  -- Each slot holds the argument in its place, or its default.
  rcases Option.or_eq_some_iff.mp hfilled.symm with hgiven | ⟨-, hdefault⟩
  · exact .inl (List.mem_of_getElem? (Option.filter_eq_some_iff.mp hgiven).1)
  · exact .inr ⟨slots[i], List.getElem_mem hslot, hdefault⟩

/-- What the body of a function is given has the property of the arguments. -/
theorem FunctionDef.Keeps.receives {d : FunctionDef} (h : d.Keeps P)
    (hsupplied : ∀ a ∈ supplied, P a) (hg : d.Receives supplied given) : ∀ a ∈ given, P a := by
  intro a ha
  cases hslots : d.slots with
  | none =>
    rw [FunctionDef.Receives, hslots] at hg
    exact hsupplied a (hg ▸ ha)
  | some slots =>
    rcases mem_of_resolveSlots ((receives_some_iff hslots).mp hg) ha with
      hmem | ⟨slot, hslot, hdefault⟩
    · exact hsupplied a hmem
    · exact h.default slots hslots slot hslot a hdefault

/-- **One item.** If the tables and what comes from outside keep a property, and a quotient by
    zero has it, then so do the tokens that an item leaves on the stack. -/
theorem Environment.Step.keeps {e : Environment} {stack stack' : List Token} {i : Item}
    (ho : e.operators.All (Operator.Keeps P) (Operator.KeepsPrefix P))
    (hf : e.functions.All fun _ d => d.Keeps P)
    (hzero : P (.failure .divisionByZero "Division by zero"))
    (hpush : ∀ t, i = .push t → P t)
    (hload : ∀ name t, i = .load name → e.inputs name = some t → P t)
    (h : ∀ t ∈ stack, P t) (hs : e.Step stack i stack') : ∀ t ∈ stack', P t := by
  -- In each case the tokens below stay as they are, and one is put on top of them.
  cases hs with
  | @push _ t => exact List.forall_mem_cons.mpr ⟨hpush t rfl, h⟩
  | @load _ name t hvalue => exact List.forall_mem_cons.mpr ⟨hload name t rfl hvalue, h⟩
  | @infixOp rest s a b t happly =>
    have hb : P b := h b List.mem_cons_self
    have ha : P a := h a (List.mem_cons_of_mem b List.mem_cons_self)
    have ht : P t := by
      rcases Environment.applyInfix_eq_ok happly with rfl | ⟨op, hop, rfl⟩
      · exact hzero
      · exact ho.infixOps s op hop a b ha hb
    have hrest : ∀ u ∈ rest, P u := fun u hu =>
      h u (List.mem_cons_of_mem b (List.mem_cons_of_mem a hu))
    exact List.forall_mem_cons.mpr ⟨ht, hrest⟩
  | @prefixOp rest s a t happly =>
    have ha : P a := h a List.mem_cons_self
    obtain ⟨op, hop, rfl⟩ := Environment.applyPrefix_eq_ok happly
    have hrest : ∀ u ∈ rest, P u := fun u hu => h u (List.mem_cons_of_mem a hu)
    exact List.forall_mem_cons.mpr ⟨ho.prefixOps s op hop a ha, hrest⟩
  | @call rest supplied given name d hd hg =>
    have hsupplied : ∀ a ∈ supplied, P a := fun a ha =>
      h a (List.mem_append_left rest (List.mem_reverse.mpr ha))
    have hgiven := (hf name d hd).receives hsupplied hg
    have hrest : ∀ t ∈ rest, P t := fun t ht => h t (List.mem_append_right supplied.reverse ht)
    exact List.forall_mem_cons.mpr ⟨(hf name d hd).body given hgiven, hrest⟩

end

/-! ### The operators of this library -/

section
variable {given : ErrorValue → Prop} {a b t : Token} {f : Operator.Family}

/-- No operator rejects a proper token. -/
theorem Token.Proper.accepts (h : a.Proper given) : f.accepts a = true := by
  cases f with
  | equality => exact h.isOperand
  | _ => exact h.isValue

/-- What an operator can give may stand on the stack, if its operands may. -/
theorem Operator.Yields.proper (h : Operator.Yields f a b t) (ha : a.Proper given)
    (hb : b.Proper given) : t.Proper given := by
  cases h with
  | left => exact ha
  | right => exact hb
  -- Operands on the stack are values, which no family rejects.
  | rejected h =>
    rw [ha.accepts, hb.accepts] at h
    exact absurd h (by decide)
  | failure h => obtain rfl | rfl | rfl := h <;> exact .made rfl
  | logical e => exact .logical e
  | text s => exact .text s
  | number h => exact .number h

end

/-- The builtin operators keep the stack proper, since they keep their contracts. -/
theorem OperatorTable.builtin_keeps {given : ErrorValue → Prop} :
    OperatorTable.builtin.All (Operator.Keeps (Token.Proper given))
      (Operator.KeepsPrefix (Token.Proper given)) :=
  builtin_keepsContracts.all (fun _ _ hop a b ha hb => (hop a b).yields.proper ha hb)
    fun _ hop a ha => (hop a).yields.proper ha ha

/-! ### The functions of this library -/

namespace Function

variable {given : ErrorValue → Prop} {args : List Token} {t u : Token} {i : Nat}

/-- An argument that is not there counts as omitted. -/
theorem proper_argument (h : ∀ a ∈ args, a.Proper given) (i : Nat) :
    (argument args i).Proper given := by
  unfold argument
  cases ha : args[i]? with
  | none => exact .omitted
  | some a => exact h a (List.mem_of_getElem? ha)

/-- What ends a computation early is an argument that is an error, or a new error. -/
theorem proper_of_textOf (h : t.Proper given) (hu : textOf t = .error u) : u.Proper given := by
  unfold textOf at hu
  split at hu
  · cases hu
    exact h
  · cases hu
  · cases hu
    exact .made rfl

/-- An error that comes out of reading a count is the argument itself or a new one. -/
theorem proper_of_countOf (h : t.Proper given) (hu : countOf t = .error u) : u.Proper given := by
  unfold countOf at hu
  split at hu
  · cases hu
    exact h
  · split at hu <;> cases hu
    exact .made rfl
  · cases hu
    exact .made rfl

theorem proper_of_optionalCount (h : ∀ a ∈ args, a.Proper given)
    (hu : optionalCount args i = .error u) : u.Proper given := by
  unfold optionalCount at hu
  split at hu
  · next a ha => exact proper_of_countOf (h a (List.mem_of_getElem? ha)) hu
  · cases hu

theorem proper_of_lengthOf (h : ∀ a ∈ args, a.Proper given) (hu : lengthOf args i = .error u) :
    u.Proper given := by
  rcases bind_eq_error_iff.mp hu with hcount | ⟨n, -, hn⟩
  · exact proper_of_optionalCount h hcount
  · split at hn <;> cases hn
    exact .made rfl

theorem keeps_not (h : ∀ a ∈ args, a.Proper given) : (not args).Proper given := by
  have harg := proper_argument h 0
  unfold not
  split
  · exact .logical _
  · exact .logical _
  · next e he => exact he ▸ harg
  · exact .made rfl

theorem keeps_len (h : ∀ a ∈ args, a.Proper given) : (len args).Proper given := by
  refine settle_bind (fun u hu => proper_of_textOf (proper_argument h 0) hu) fun s _ => ?_
  exact .number rfl

theorem keeps_slice (cut : Nat → List Char → List Char) (h : ∀ a ∈ args, a.Proper given) :
    (slice cut args).Proper given := by
  refine settle_bind (fun u hu => proper_of_textOf (proper_argument h 0) hu) fun s _ => ?_
  refine settle_bind (fun u hu => proper_of_lengthOf h hu) fun n _ => ?_
  exact .text _

/-- A position is a finite number, and there is `#VALUE!` without one. -/
theorem proper_searchFrom (needle haystack : List Char) (start : Int) :
    (settle (searchFrom needle haystack start)).Proper given := by
  unfold searchFrom
  split
  · exact .made rfl
  · dsimp only
    split
    · exact .number rfl
    · exact .made rfl

theorem keeps_search (h : ∀ a ∈ args, a.Proper given) : (search args).Proper given := by
  refine settle_bind (fun u hu => proper_of_textOf (proper_argument h 0) hu) fun needle _ => ?_
  refine settle_bind (fun u hu => proper_of_textOf (proper_argument h 1) hu) fun haystack _ => ?_
  refine settle_bind (fun u hu => proper_of_optionalCount h hu) fun start _ => ?_
  exact proper_searchFrom needle.toList haystack.toList start

end Function

/-- The builtin functions keep the stack proper, and so do the defaults of their slots. -/
theorem FunctionTable.builtin_keeps {given : ErrorValue → Prop} :
    FunctionTable.builtin.All fun _ d => d.Keeps (Token.Proper given) := by
  have hone : ∀ slots, some [ArgSlot.required] = some slots →
      ∀ slot ∈ slots, ∀ t, slot.default? = some t → t.Proper given := by
    rintro _ ⟨⟩
    simp [ArgSlot.default?]
  have htwo : ∀ slots, some [ArgSlot.required, .required] = some slots →
      ∀ slot ∈ slots, ∀ t, slot.default? = some t → t.Proper given := by
    rintro _ ⟨⟩
    simp [ArgSlot.default?]
  -- The only default is the number one, for the count of `LEFT(` and `RIGHT(`.
  have hcount : ∀ slots, some [ArgSlot.required, .optional (.ofInt 1)] = some slots →
      ∀ slot ∈ slots, ∀ t, slot.default? = some t → t.Proper given := by
    rintro _ ⟨⟩
    have hdefault : (Token.ofInt 1).Proper given := .number rfl
    simp [ArgSlot.default?, hdefault]
  exact all_empty
    |>.register ⟨fun _ h => Function.keeps_not h, hone⟩
    |>.register ⟨fun _ _ => .logical _, hone⟩
    |>.register ⟨fun _ h => Function.keeps_len h, hone⟩
    |>.register ⟨fun _ h => Function.keeps_slice List.take h, hcount⟩
    |>.register ⟨fun _ h => Function.keeps_slice (fun n cs => cs.drop (cs.length - n)) h, hcount⟩
    |>.register ⟨fun _ h => Function.keeps_search h, htwo⟩

/-! ### The operands of a program -/

/-- **The operands of a program are values**: they are operands of the tokens, or marks for
    arguments that are left out. -/
theorem Program.isValue_of_push {functions : FunctionTable} {tokens : List Token} {p : Program}
    {t : Token} (hp : ofTokens functions tokens = .ok p) (h : .push t ∈ p.items) :
    t.isValue = true := by
  rcases eq_omitted_or_mem_of_push hp h with rfl | ⟨hmem, hrange⟩
  · rfl
  · have hoperand : t.isOperand = true := (List.mem_filter.mp hmem).2
    rw [Token.isValue, hoperand, hrange]
    rfl

/-! ### Evaluations -/

namespace Evaluator

variable {tokens : List Token} {ev : Evaluator} {inputs : Inputs} {stack : List Token} {t : Token}

/-- The value of a formula is the scalar of the token that it yields. -/
theorem evaluate_eq_ok_iff {s : Scalar} :
    ev.evaluate inputs = .ok s ↔ ∃ t, ev.evaluateToken inputs = .ok t ∧ t.scalar? = some s := by
  have hscalar : ∀ t, scalarOf t = .ok s ↔ t.scalar? = some s := by
    intro t
    unfold scalarOf
    cases t.scalar? <;> simp
  simp only [evaluate, bind_eq_ok_iff, hscalar]

/-- A formula has no value only if it yields a token without a scalar. -/
theorem evaluateToken_of_notAValue (h : ev.evaluate inputs = .error (.notAValue t)) :
    ev.evaluateToken inputs = .ok t ∧ t.scalar? = none := by
  rcases bind_eq_error_iff.mp h with hx | ⟨u, hu, hscalar⟩
  · -- The evaluation itself has no such error.
    rcases evaluateToken_error hx with ⟨i, s, -, hfails⟩ | hno | hmany
    · cases hfails
    · cases hno
    · cases hmany
  · unfold scalarOf at hscalar
    cases hs : u.scalar? with
    | some s =>
      rw [hs] at hscalar
      cases hscalar
    | none =>
      rw [hs] at hscalar
      cases hscalar
      exact ⟨hu, hs⟩

/-- **The stacks of an evaluation are proper.** -/
theorem Visits.proper (hev : ofTokensBuiltin tokens = .ok ev)
    (hliterals : ∀ n, .push (.number n) ∈ ev.program.items → n.isFinite = true)
    (hinputs : ∀ name t, inputs name = some t → t.isFiniteValue = true)
    (h : ev.Visits inputs stack) :
    ∀ t ∈ stack, t.Proper fun x => ev.program.Supplies inputs (.error x) := by
  obtain ⟨p, hp, rfl⟩ := ofTokens_eq_ok_iff.mp hev
  -- By induction on the run, with this property of stacks as the invariant.
  refine h.induction (I := fun s => ∀ t ∈ s, t.Proper fun x => p.Supplies inputs (.error x))
    (List.forall_mem_nil _) fun i hi s s' hs hstep => ?_
  refine hstep.keeps OperatorTable.builtin_keeps FunctionTable.builtin_keeps (.made rfl) ?_ ?_ hs
  · rintro t rfl
    refine Token.proper_of_isFiniteValue ?_ fun x hx => .inl (hx ▸ hi)
    rw [Token.isFiniteValue, Program.isValue_of_push hp hi]
    cases t with
    | number n => exact hliterals n hi
    | _ => rfl
  · rintro name t rfl hvalue
    have hname : name ∈ p.requiredInputs := Program.mem_requiredInputs.mpr hi
    exact Token.proper_of_isFiniteValue (hinputs name t hvalue)
      fun x hx => .inr ⟨name, hname, hx ▸ hvalue⟩

section
variable (hev : ofTokensBuiltin tokens = .ok ev)
  (hliterals : ∀ n, .push (.number n) ∈ ev.program.items → n.isFinite = true)
  (hinputs : ∀ name t, inputs name = some t → t.isFiniteValue = true)
include hev hliterals hinputs

/-- **Values stay values.**  Take a formula with the operators and functions of this library, whose
    numbers are finite, and inputs that are values and finite.  Then each token that ever stands on
    the stack is a value, a number among them is finite, and an error among them is one of those
    supplied by the formula or the inputs, or it is `#VALUE!`, `#NUM!` or `#DIV/0!`.  So the result
    is always a value, it is finite if it is a number, and it has no other code of its own. -/
theorem ofTokens_keepsValues :
    (∀ stack, ev.Visits inputs stack →
      ∀ t ∈ stack, t.Proper fun x => ev.program.Supplies inputs (.error x)) ∧
    (∀ t, ev.evaluate inputs ≠ .error (.notAValue t)) ∧
    (∀ n, ev.evaluateToken inputs = .ok (.number n) → n.isFinite = true) ∧
    (∀ n, ev.evaluate inputs = .ok (.number n) → n.isFinite = true) ∧
    ∀ x, ev.evaluateToken inputs = .ok (.error x) → x.code.isComputed = false →
      ev.program.Supplies inputs (.error x) := by
  -- The result is the last stack that is visited.
  have hproper : ∀ t, ev.evaluateToken inputs = .ok t →
      t.Proper fun x => ev.program.Supplies inputs (.error x) := fun t ht =>
    (visits_of_evaluateToken ht).proper hev hliterals hinputs t List.mem_cons_self
  refine ⟨fun stack h => h.proper hev hliterals hinputs, ?_, ?_, ?_, ?_⟩
  · intro t h
    obtain ⟨ht, hnone⟩ := evaluateToken_of_notAValue h
    obtain ⟨s, hs⟩ := (hproper t ht).exists_scalar
    rw [hnone] at hs
    cases hs
  · exact fun n hn => (hproper _ hn).isFinite
  · intro n hn
    obtain ⟨t, ht, hs⟩ := evaluate_eq_ok_iff.mp hn
    have heq : t = .number n := by
      cases t <;> cases hs
      rfl
    exact (heq ▸ hproper t ht).isFinite
  · exact fun x hx hcode => (hproper _ hx).given_of_code hcode

end

end Evaluator

/-! ### Two errors on a stack -/

namespace ValueSafetyExample

/-- The formula `2.5 / 0 & x`. -/
def quotientTokens : List Token :=
  [.number (.float 2.5), .infixOp "/", .ofInt 0, .infixOp "&", .range "x"]

/-- The evaluator of the formula. -/
def quotientEvaluator : Evaluator :=
  ⟨.ofItems [.push (.number (.float 2.5)), .push (.ofInt 0), .infixOp "/", .load "x", .infixOp "&"],
    .builtin, .builtin⟩

/-- An error from outside as the value of each input. -/
def noData : ErrorValue := ⟨.notAvailable, "no data", some 0⟩

/-- This error as the value of each input. -/
def noDataInputs : Inputs := fun _ => some (.error noData)

end ValueSafetyExample

open ValueSafetyExample in
/-- There are two errors on the last stack but one: a new `#DIV/0!`, and the `#N/A` of the input,
    which no computation makes. -/
theorem Evaluator.ofTokens_keepsValues_quotient :
    ofTokensBuiltin quotientTokens = .ok quotientEvaluator ∧
      (∀ n, .push (.number n) ∈ quotientEvaluator.program.items → n.isFinite = true) ∧
      (∀ name t, noDataInputs name = some t → t.isFiniteValue = true) ∧
      quotientEvaluator.Visits noDataInputs
        [.error noData, .failure .divisionByZero "Division by zero"] ∧
      (∀ stack, quotientEvaluator.Visits noDataInputs stack → ∀ t ∈ stack,
        t.Proper fun x => quotientEvaluator.program.Supplies noDataInputs (.error x)) := by
  have hev : ofTokensBuiltin quotientTokens = .ok quotientEvaluator := rfl
  have hliterals : ∀ n, .push (.number n) ∈ quotientEvaluator.program.items →
      n.isFinite = true := by
    intro n hn
    have hcases : n = .float 2.5 ∨ n = .int 0 := by
      simpa [quotientEvaluator, Token.ofInt] using hn
    rcases hcases with rfl | rfl <;> decide +kernel
  have hinputs : ∀ name t, noDataInputs name = some t → t.isFiniteValue = true := by
    rintro name _ ⟨⟩
    rfl
  have hvisits : quotientEvaluator.Visits noDataInputs
      [.error noData, .failure .divisionByZero "Division by zero"] :=
    ⟨quotientEvaluator.program.items.take 4, [.infixOp "&"], rfl, rfl⟩
  exact ⟨hev, hliterals, hinputs, hvisits, (ofTokens_keepsValues hev hliterals hinputs).1⟩

end SheetFormula
