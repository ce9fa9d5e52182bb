import SheetFormula.Proofs.Conservation
import SheetFormula.Proofs.ErrorPropagation
import SheetFormula.Proofs.ValueSafety

namespace SheetFormula

/-!
# Where infinite numbers come from

The operators and functions of this library never make an infinite number or a NaN, whatever they
are given: arithmetic gives `#NUM!` in its place, and all else that they hand on are errors.  Such a
number on the stack is therefore an operand of the formula or the value of an input.

* `Token.isNonFinite` — the numbers without a finite value.
* `OperatorTable.builtin_finite` and `FunctionTable.builtin_finite` — the tables of this library
  make none of them.
* `Evaluator.Visits.supplied_of_isNonFinite` — so one that stands on the stack is supplied.
* `Evaluator.isNonFinite_source` — a result of this kind is a token of the formula, or it is bound
  to an input of it.
-/

/-- Is the token an infinite number or a NaN? -/
def Token.isNonFinite : Token → Bool
  | .number n => !n.isFinite
  | _ => false

/-- An error is no number, so no number that is not finite. -/
theorem Token.not_isNonFinite_of_isError {t : Token} (h : t.isError = true) :
    t.isNonFinite = false := by
  cases t <;> first | rfl | cases h

/-! ### The operators of this library -/

namespace Operator

/-- An infix operator that never makes an infinite number or a NaN. -/
def Finite (op : InfixOperator) : Prop := ∀ a b, (op a b).isNonFinite = false

def FinitePrefix (op : PrefixOperator) : Prop := ∀ a, (op a).isNonFinite = false

/-- What an operator yields is checked: a result that is not finite becomes an error. -/
theorem Yields.not_isNonFinite {f : Family} {a b t : Token} (h : Yields f a b t) :
    t.isNonFinite = false := by
  cases h with
  | left h => exact Token.not_isNonFinite_of_isError h
  | right h => exact Token.not_isNonFinite_of_isError h
  | number h => simp [Token.isNonFinite, h]
  | _ => rfl

end Operator

/-- No operator of the table yields a number that is not finite. -/
theorem OperatorTable.builtin_finite :
    OperatorTable.builtin.All Operator.Finite Operator.FinitePrefix :=
  builtin_keepsContracts.all (fun _ _ hop a b => (hop a b).yields.not_isNonFinite)
    fun _ hop a => (hop a).yields.not_isNonFinite

/-! ### The functions of this library -/

namespace Function

/-- A function that never makes an infinite number or a NaN. -/
def Finite (body : FunctionBody) : Prop := ∀ args, (body args).isNonFinite = false

theorem finite_not : Finite not := by
  intro args
  unfold not
  split <;> rfl

theorem finite_isError : Finite isError := fun _ => rfl

/-- A computation whose first part can only fail with an error. -/
theorem not_isNonFinite_bind {α : Type} {x : Except Token α} {f : α → Except Token Token}
    (hx : ∀ {u}, x = .error u → u.isError = true)
    (hf : ∀ a, (settle (f a)).isNonFinite = false) : (settle (x >>= f)).isNonFinite = false :=
  settle_bind (P := fun t => t.isNonFinite = false)
    (fun _ hu => Token.not_isNonFinite_of_isError (hx hu)) fun a _ => hf a

theorem finite_len : Finite len := fun _ =>
  not_isNonFinite_bind isError_of_textOf fun _ => rfl

theorem finite_slice (cut : Nat → List Char → List Char) : Finite (slice cut) := fun _ =>
  not_isNonFinite_bind isError_of_textOf fun _ =>
    not_isNonFinite_bind isError_of_lengthOf fun _ => rfl

/-- A place in a text is an integer. -/
theorem not_isNonFinite_searchFrom (needle haystack : List Char) (start : Int) :
    (settle (searchFrom needle haystack start)).isNonFinite = false := by
  unfold searchFrom
  split
  · rfl
  · dsimp only
    split <;> rfl

theorem finite_search : Finite search := fun _ =>
  not_isNonFinite_bind isError_of_textOf fun needle =>
    not_isNonFinite_bind isError_of_textOf fun haystack =>
      not_isNonFinite_bind isError_of_optionalCount fun start =>
        not_isNonFinite_searchFrom needle.toList haystack.toList start

end Function

/-- No function of the table yields a number that is not finite. -/
theorem FunctionTable.builtin_finite :
    FunctionTable.builtin.All fun _ d => Function.Finite d.body :=
  all_empty
    |>.register Function.finite_not
    |>.register Function.finite_isError
    |>.register Function.finite_len
    |>.register (Function.finite_slice List.take)
    |>.register (Function.finite_slice fun n cs => cs.drop (cs.length - n))
    |>.register Function.finite_search

/-! ### Evaluations -/

namespace Environment

variable {e : Environment} {stack stack' : List Token} {i : Item} {supplied : Token → Prop}

/-- **One item.**  If the tables make no infinite numbers, those on the stack are supplied. -/
theorem Step.nonFinite_supplied (ho : e.operators.All Operator.Finite Operator.FinitePrefix)
    (hf : e.functions.All fun _ d => Function.Finite d.body)
    (hpush : ∀ t, i = .push t → supplied t)
    (hload : ∀ name t, i = .load name → e.inputs name = some t → supplied t)
    (h : ∀ t ∈ stack, t.isNonFinite = true → supplied t) (hs : e.Step stack i stack') :
    ∀ t ∈ stack', t.isNonFinite = true → supplied t := by
  -- The top of the stack is supplied, or it is finite; the values below it stay.
  have hmade : ∀ {t : Token}, t.isNonFinite = false → t.isNonFinite = true → supplied t := by
    intro t hfalse htrue
    rw [hfalse] at htrue
    cases htrue
  cases hs with
  | push => exact List.forall_mem_cons.mpr ⟨fun _ => hpush _ rfl, h⟩
  | load hvalue => exact List.forall_mem_cons.mpr ⟨fun _ => hload _ _ rfl hvalue, h⟩
  | infixOp happly =>
    refine List.forall_mem_cons.mpr ⟨hmade ?_, fun u hu => h u (by simp [hu])⟩
    rcases applyInfix_eq_ok happly with rfl | ⟨op, hop, rfl⟩
    · rfl
    · exact ho.infixOps _ op hop _ _
  | prefixOp happly =>
    refine List.forall_mem_cons.mpr ⟨hmade ?_, fun u hu => h u (by simp [hu])⟩
    obtain ⟨op, hop, rfl⟩ := applyPrefix_eq_ok happly
    exact ho.prefixOps _ op hop _
  | call hd hg =>
    refine List.forall_mem_cons.mpr ⟨hmade ?_, fun u hu => h u (by simp [hu])⟩
    exact hf _ _ hd _

end Environment

namespace Evaluator

variable {tokens : List Token} {ev : Evaluator} {inputs : Inputs} {stack : List Token} {t : Token}

/-- Infinite numbers and NaNs on the stack are supplied. -/
theorem Visits.supplied_of_isNonFinite (hev : ofTokensBuiltin tokens = .ok ev)
    (h : ev.Visits inputs stack) :
    ∀ t ∈ stack, t.isNonFinite = true → ev.program.Supplies inputs t := by
  obtain ⟨p, hp, rfl⟩ := ofTokens_eq_ok_iff.mp hev
  refine h.induction (I := fun s => ∀ t ∈ s, t.isNonFinite = true → p.Supplies inputs t)
    (List.forall_mem_nil _) fun i hi s s' hs hstep => ?_
  -- Operators and functions make finite numbers only, so there are two items left to look at.
  refine hstep.nonFinite_supplied OperatorTable.builtin_finite FunctionTable.builtin_finite ?_ ?_ hs
  · rintro t rfl
    exact .inl hi
  · rintro name t rfl hvalue
    exact .inr ⟨name, Program.mem_requiredInputs.mpr hi, hvalue⟩

/-- **A result that is infinite or a NaN** is a token of the formula, or the value of an input that
    it reads. -/
theorem isNonFinite_source (hev : ofTokensBuiltin tokens = .ok ev)
    (ht : ev.evaluateToken inputs = .ok t) (h : t.isNonFinite = true) :
    t ∈ tokens ∨ ∃ name, inputs name = some t := by
  have hsupplied : ev.program.Supplies inputs t :=
    (visits_of_evaluateToken ht).supplied_of_isNonFinite hev t List.mem_cons_self h
  obtain ⟨p, hp, rfl⟩ := ofTokens_eq_ok_iff.mp hev
  rcases hsupplied with hpush | ⟨name, -, hvalue⟩
  · rcases Program.eq_omitted_or_mem_of_push hp hpush with rfl | ⟨hmem, -⟩
    · cases h
    · exact .inl (List.mem_filter.mp hmem).1
  · exact .inr ⟨name, hvalue⟩

end Evaluator

end SheetFormula
