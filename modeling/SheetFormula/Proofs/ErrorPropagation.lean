import SheetFormula.Proofs.Calls
import SheetFormula.Proofs.OperatorContract

namespace SheetFormula

/-!
# Errors are not swallowed

An error in a formula shows in its result, wherever in the formula it stands: each operator and
function of this library gives an error if one of its operands is an error.  The one exception is
`ISERROR(`, which is there to look at errors.

* `HasError` — one of some tokens is an error.
* `Operator.Strict` and `FunctionDef.Strict` — operators and functions that give an error if they
  are given one.
* `Environment.Step.hasError` — with strict tables, an item leaves an error on the stack if there
  is one.  What it takes from the stack it may replace by another error.
* `OperatorTable.builtin_strict` and `FunctionTable.builtin_strict` — the tables of this library
  are strict.
* `Evaluator.ofTokens_propagatesErrors` — hence a formula that is given an error yields an error,
  or has no result.
-/

/-- Is one of the tokens an error? -/
def HasError (ts : List Token) : Prop := ∃ t ∈ ts, t.isError = true

section
variable {t : Token} {ts us : List Token}

/-- An error on top of a stack is an error on the stack. -/
theorem hasError_cons (ht : t.isError = true) : HasError (t :: ts) :=
  ⟨t, List.mem_cons_self, ht⟩

theorem HasError.cons (h : HasError ts) : HasError (t :: ts) := by
  obtain ⟨u, hu, herror⟩ := h
  exact ⟨u, List.mem_cons_of_mem t hu, herror⟩

/-- An error among values in two parts is in one of the parts. -/
theorem hasError_append : HasError (ts ++ us) ↔ HasError ts ∨ HasError us := by
  simp only [HasError, List.mem_append, or_and_right, exists_or]

theorem hasError_reverse : HasError ts.reverse ↔ HasError ts := by
  simp only [HasError, List.mem_reverse]

theorem hasError_cons_iff : HasError (t :: ts) ↔ t.isError = true ∨ HasError ts := by
  simp [HasError]

theorem Token.ne_omitted_of_isError (h : t.isError = true) : t ≠ .omitted := by
  rintro rfl
  cases h

end

/-! ### Strict operators and functions -/

/-- Is the result an error if one of the operands is? -/
def Operator.Strict (op : InfixOperator) : Prop :=
  ∀ a b, a.isError = true ∨ b.isError = true → (op a b).isError = true

/-- Is the result an error if the operand is? -/
def Operator.StrictPrefix (op : PrefixOperator) : Prop :=
  ∀ a, a.isError = true → (op a).isError = true

/-- Is the result an error if one of the arguments is?  There is one argument for each slot. -/
def FunctionDef.Strict (d : FunctionDef) : Prop :=
  ∀ args, (∀ slots, d.slots = some slots → args.length = slots.length) → HasError args →
    (d.body args).isError = true

/-- An error among the arguments of a call is given to the body of the function. -/
theorem FunctionDef.Receives.hasError {d : FunctionDef} {supplied given : List Token}
    (hfits : ∀ slots, d.slots = some slots → supplied.length = slots.length)
    (hg : d.Receives supplied given) (h : HasError supplied) :
    HasError given ∧ ∀ slots, d.slots = some slots → given.length = slots.length := by
  cases hslots : d.slots with
  | none =>
    rw [FunctionDef.Receives, hslots] at hg
    refine ⟨hg ▸ h, fun slots hsome => ?_⟩
    cases hsome
  | some slots =>
    have hfilled : FillsSlots slots supplied given :=
      fillsSlots_of_resolveSlots (hfits slots hslots) ((receives_some_iff hslots).mp hg)
    obtain ⟨t, ht, herror⟩ := h
    obtain ⟨i, hi⟩ := List.getElem?_of_mem ht
    -- An error is not left out, so it stays in its slot.
    have hkept := hfilled.kept i t hi (Token.ne_omitted_of_isError herror)
    refine ⟨⟨t, List.mem_of_getElem? hkept, herror⟩, fun slots' hsome => ?_⟩
    cases hsome
    exact hfilled.given_length

/-- **One item.** An error on the stack stays, or another error takes its place. -/
theorem Environment.Step.hasError {e : Environment} {stack stack' : List Token} {i : Item}
    (ho : e.operators.All Operator.Strict Operator.StrictPrefix)
    (hf : ∀ name n d, i = .call name n → e.functions.get? name = some d →
      d.Strict ∧ ∀ slots, d.slots = some slots → n = slots.length)
    (h : HasError stack) (hs : e.Step stack i stack') : HasError stack' := by
  cases hs with
  | push | load => exact h.cons
  | @infixOp rest s a b t happly =>
    rw [hasError_cons_iff, hasError_cons_iff, ← or_assoc] at h
    rcases h with hoperand | hrest
    · rcases applyInfix_eq_ok happly with rfl | ⟨op, hop, rfl⟩
      · -- A quotient by zero forgets the error in its dividend, but it is an error itself.
        exact hasError_cons rfl
      · exact hasError_cons (ho.infixOps s op hop a b hoperand.symm)
    · exact hrest.cons
  | @prefixOp rest s a t happly =>
    rcases hasError_cons_iff.mp h with hoperand | hrest
    · obtain ⟨op, hop, rfl⟩ := applyPrefix_eq_ok happly
      exact hasError_cons (ho.prefixOps s op hop a hoperand)
    · exact hrest.cons
  | @call rest supplied given name d hd hg =>
    rw [hasError_append, hasError_reverse] at h
    rcases h with hsupplied | hrest
    · obtain ⟨hstrict, hfits⟩ := hf name supplied.length d rfl hd
      obtain ⟨hgiven, hlength⟩ := hg.hasError hfits hsupplied
      exact hasError_cons (hstrict given hlength hgiven)
    · exact hrest.cons

/-! ### The operators of this library -/

/-- All operators of the table hand an error on, by their contracts. -/
theorem OperatorTable.builtin_strict :
    OperatorTable.builtin.All Operator.Strict Operator.StrictPrefix := by
  refine builtin_keepsContracts.all (fun f op hop a b h => ?_) fun op hop a ha => ?_
  · cases ha : a.isError with
    | true => rwa [(hop a b).leftError ha]
    | false =>
      have hb : b.isError = true := h.resolve_left (Bool.eq_false_iff.mp ha)
      rwa [(hop a b).rightError ha hb]
  · rwa [(hop a).error ha]

/-! ### The functions of this library -/

namespace Function

variable {t u : Token} {a b : Token} {args : List Token} {i : Nat}

/-- A computation that ends early ends with an error. -/
theorem isError_of_textOf (h : textOf t = .error u) : u.isError = true := by
  unfold textOf at h
  split at h <;> cases h <;> rfl

/-- What is refused as a count gives an error. -/
theorem isError_of_countOf (h : countOf t = .error u) : u.isError = true := by
  unfold countOf at h
  split at h
  · cases h
    rfl
  · split at h <;> cases h
    rfl
  · cases h
    rfl

/-- Nor does a count that may be left out hide an error. -/
theorem isError_of_optionalCount (h : optionalCount args i = .error u) : u.isError = true := by
  unfold optionalCount at h
  split at h
  · exact isError_of_countOf h
  · cases h

/-- What is refused as the number of letters gives an error. -/
theorem isError_of_lengthOf (h : lengthOf args i = .error u) : u.isError = true := by
  rcases bind_eq_error_iff.mp h with hcount | ⟨n, -, hn⟩
  · exact isError_of_optionalCount hcount
  · split at hn <;> cases hn
    rfl

/-- What has a text is no error. -/
theorem not_isError_of_textOf {s : String} (h : textOf t = .ok s) : t.isError = false := by
  cases t <;> first | rfl | cases h

/-- An error is refused as the number of letters. -/
theorem not_isError_of_lengthOf {n : Nat} (ha : args[i]? = some a) (h : lengthOf args i = .ok n) :
    a.isError = false := by
  obtain ⟨m, hm, -⟩ := bind_eq_ok_iff.mp h
  unfold optionalCount at hm
  rw [ha] at hm
  cases a <;> first | rfl | cases hm

/-- `NOT` hands an error on, because it asks for the truth value of its argument. -/
theorem strict_not (h : HasError [a]) : (not [a]).isError = true := by
  have ha : a.isError = true := by simpa [HasError] using h
  cases a <;> first | rfl | cases ha

/-- `LEN` hands an error on, because it asks for the text of its argument. -/
theorem strict_len (h : HasError [a]) : (len [a]).isError = true := by
  refine settle_bind (fun u hu => isError_of_textOf hu) fun s hs => ?_
  have ha : a.isError = false := not_isError_of_textOf hs
  simp [HasError, ha] at h

/-- Whatever piece is cut out, both the text and the number of letters are asked for. -/
theorem strict_slice (cut : Nat → List Char → List Char) (h : HasError [a, b]) :
    (slice cut [a, b]).isError = true := by
  refine settle_bind (fun u hu => isError_of_textOf hu) fun s hs => ?_
  refine settle_bind (fun u hu => isError_of_lengthOf hu) fun n hn => ?_
  have ha : a.isError = false := not_isError_of_textOf hs
  have hb : b.isError = false := not_isError_of_lengthOf rfl hn
  simp [HasError, ha, hb] at h

theorem strict_left : HasError [a, b] → (left [a, b]).isError = true := strict_slice _

theorem strict_right : HasError [a, b] → (right [a, b]).isError = true := strict_slice _

/-- `SEARCH` hands an error on, be it in the text sought or in the text searched. -/
theorem strict_search (h : HasError [a, b]) : (search [a, b]).isError = true := by
  refine settle_bind (fun u hu => isError_of_textOf hu) fun needle hneedle => ?_
  refine settle_bind (fun u hu => isError_of_textOf hu) fun haystack hhaystack => ?_
  have ha : a.isError = false := not_isError_of_textOf hneedle
  have hb : b.isError = false := not_isError_of_textOf hhaystack
  simp [HasError, ha, hb] at h

end Function

namespace FunctionDef

variable {d : FunctionDef} {slot slot' : ArgSlot}

/-- A function with one slot is given one argument. -/
theorem strict_of_one_slot (hs : d.slots = some [slot])
    (h : ∀ a, HasError [a] → (d.body [a]).isError = true) : d.Strict := by
  intro args hfits herror
  match args, hfits _ hs, herror with
  | [a], _, herror => exact h a herror

/-- A function with two slots is given two arguments. -/
theorem strict_of_two_slots (hs : d.slots = some [slot, slot'])
    (h : ∀ a b, HasError [a, b] → (d.body [a, b]).isError = true) : d.Strict := by
  intro args hfits herror
  match args, hfits _ hs, herror with
  | [a, b], _, herror => exact h a b herror

end FunctionDef

/-- Each function of this library is strict, but for the one that tells errors from values. -/
theorem FunctionTable.builtin_strict :
    FunctionTable.builtin.All fun name d => name ≠ "ISERROR(" → d.Strict :=
  all_empty
    |>.register (fun _ => FunctionDef.strict_of_one_slot rfl fun _ => Function.strict_not)
    |>.register (fun hname => absurd rfl hname)
    |>.register (fun _ => FunctionDef.strict_of_one_slot rfl fun _ => Function.strict_len)
    |>.register (fun _ => FunctionDef.strict_of_two_slots rfl fun _ _ => Function.strict_left)
    |>.register (fun _ => FunctionDef.strict_of_two_slots rfl fun _ _ => Function.strict_right)
    |>.register (fun _ => FunctionDef.strict_of_two_slots rfl fun _ _ => Function.strict_search)

/-! ### Evaluations -/

namespace Evaluator

variable {tokens : List Token} {ev : Evaluator} {inputs : Inputs}

/-- The result of an evaluation that meets an error is an error. -/
theorem isError_of_supplies {t : Token} {x : ErrorValue} (hev : ofTokensBuiltin tokens = .ok ev)
    (hcalls : ∀ n, .call "ISERROR(" n ∉ ev.program.items)
    (hx : ev.program.Supplies inputs (.error x)) (ht : ev.evaluateToken inputs = .ok t) :
    t.isError = true := by
  obtain ⟨p, hp, rfl⟩ := ofTokens_eq_ok_iff.mp hev
  obtain ⟨last, hrun, hresult⟩ := bind_eq_ok_iff.mp ht
  -- The error comes to the stack with some item; from there on there is an error on the stack.
  obtain ⟨i, hi, htop⟩ := hx.exists_item (e := ⟨.builtin, .builtin, inputs⟩)
  obtain ⟨before, after, s, s', hitems, -, hstep, hafter⟩ :=
    Environment.exists_split_of_run hrun hi
  have hs' : HasError s' := by
    rw [htop s s' hstep]
    exact hasError_cons rfl
  have hlast : HasError last := by
    refine Environment.run_induction (I := HasError) (fun j hj s s' hs hstep => ?_) hs' hafter
    refine hstep.hasError OperatorTable.builtin_strict ?_ hs
    rintro name n d rfl hd
    have hmem : .call name n ∈ p.items := by
      rw [hitems]
      exact List.mem_append_right before (List.mem_cons_of_mem i hj)
    have hname : name ≠ "ISERROR(" := fun heq => hcalls n (heq ▸ hmem)
    obtain ⟨d', hd', hcount⟩ := Program.canCall_ofTokens hp hmem
    rw [hd] at hd'
    cases hd'
    exact ⟨FunctionTable.builtin_strict name d hd hname, hcount⟩
  match last, hresult with
  | [u], hresult =>
    cases hresult
    obtain ⟨v, hv, herror⟩ := hlast
    rw [List.mem_singleton] at hv
    exact hv ▸ herror

/-- **No error is swallowed.**  Take a formula with the operators and functions of this library
    that does not call `ISERROR(`.  If one of its operands is an error, or one of the inputs that
    it requires, then it yields an error or has no result. -/
theorem ofTokens_propagatesErrors {x : ErrorValue} (hev : ofTokensBuiltin tokens = .ok ev)
    (hcalls : ∀ n, .call "ISERROR(" n ∉ ev.program.items)
    (hx : ev.program.Supplies inputs (.error x)) :
    (∃ y, ev.evaluateToken inputs = .ok (.error y)) ∨
      ∃ y, ev.evaluateToken inputs = .error y := by
  cases hr : ev.evaluateToken inputs with
  | error y => exact .inr ⟨y, rfl⟩
  | ok t =>
    -- An evaluation that succeeds has had the error on its stack, and errors stay there.
    have ht : t.isError = true := isError_of_supplies hev hcalls hx hr
    cases t with
    | error y => exact .inl ⟨y, rfl⟩
    | _ => cases ht

end Evaluator

/-! ### An error in the place of another -/

namespace ErrorPropagationExample

/-- The formula `RIGHT(TRUE, x / 0) <> y`. -/
def rightTokens : List Token :=
  [.callOpen "RIGHT(", .logical true, .separator ",", .range "x", .infixOp "/", .ofInt 0,
    .callClose, .infixOp "<>", .range "y"]

/-- The evaluator of the formula. -/
def rightEvaluator : Evaluator :=
  ⟨.ofItems [.push (.logical true), .load "x", .push (.ofInt 0), .infixOp "/", .call "RIGHT(" 2,
    .load "y", .infixOp "<>"], .builtin, .builtin⟩

/-- An error from outside. -/
def missing : ErrorValue := ⟨.notAvailable, "no rate", some 0⟩

/-- An error as `x`, and a text as `y`. -/
def rates : Inputs :=
  fun name => if name = "x" then some (.error missing) else some (.text "E")

end ErrorPropagationExample

open ErrorPropagationExample in
/-- The quotient by zero puts another error in the place of `x`, and the formula yields that. -/
theorem Evaluator.ofTokens_propagatesErrors_right :
    ofTokensBuiltin rightTokens = .ok rightEvaluator ∧
      (∀ n, .call "ISERROR(" n ∉ rightEvaluator.program.items) ∧
      rightEvaluator.program.Supplies rates (.error missing) ∧
      ((∃ y, rightEvaluator.evaluateToken rates = .ok (.error y)) ∨
        ∃ y, rightEvaluator.evaluateToken rates = .error y) := by
  have hev : ofTokensBuiltin rightTokens = .ok rightEvaluator := rfl
  have hcalls : ∀ n, .call "ISERROR(" n ∉ rightEvaluator.program.items := by
    simp [rightEvaluator]
  have hx : rightEvaluator.program.Supplies rates (.error missing) := by
    refine .inr ⟨"x", Program.mem_requiredInputs.mpr ?_, rfl⟩
    simp [rightEvaluator]
  exact ⟨hev, hcalls, hx, ofTokens_propagatesErrors hev hcalls hx⟩

end SheetFormula
