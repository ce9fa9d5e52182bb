import SheetFormula.Proofs.Reading

namespace SheetFormula

/-!
# Operands and gaps

Where an argument of a call is left out, its place shows only in the tokens around it: a separator
or a closing token comes right after a separator or after the token that opens the call.

* `omittedArguments` — how many arguments are left out.
* `operandSequence` — the operands of a formula in their order, with a gap in each of these places.
* `operandSequence_operands` and `operandSequence_gaps` — it has no other operands, and no other
  gaps.
-/

variable {functions : FunctionTable} {t u : Token} {ts : List Token} {last : Option Token}

/-! ### Arguments that are left out -/

/-- Has an empty call of this function no argument?  Otherwise it has one that is left out. -/
def FunctionTable.takesNone (functions : FunctionTable) (name : String) : Bool :=
  (functions.get? name).any fun d => d.arity.all (· = 0)

/-- Is an argument left out between two neighbouring tokens? -/
def leavesOut (functions : FunctionTable) (t u : Token) : Bool :=
  match t with
  | .separator _ => u.isSeparator || u.isClose
  | .callOpen name => u.isSeparator || (u.isClose && !functions.takesNone name)
  | _ => false

/-- The number of arguments that are left out, white-space aside. -/
def omittedArguments (functions : FunctionTable) (tokens : List Token) : Nat :=
  ((significant tokens).zip (significant tokens).tail).countP fun p =>
    leavesOut functions p.1 p.2

/-- The gap before a token, if an argument is left out between the last token and this one. -/
def gap (functions : FunctionTable) (last : Option Token) (t : Token) : List (Option Token) :=
  if last.any fun l => leavesOut functions l t then [none] else []

/-- A token as an operand, if it is one. -/
def ownPlace (t : Token) : List (Option Token) := if t.isOperand then [some t] else []

/-- The operands and gaps of tokens that follow another one. -/
def operandsAfter (functions : FunctionTable) (last : Option Token) :
    List Token → List (Option Token)
  | [] => []
  | t :: ts => gap functions last t ++ ownPlace t ++ operandsAfter functions (some t) ts

/-- **The operands of a formula** in their order, with `none` in the place of each argument that
    is left out. -/
def operandSequence (functions : FunctionTable) (tokens : List Token) : List (Option Token) :=
  operandsAfter functions none (significant tokens)

/-! ### What the sequence consists of -/

/-- No gap is left before a token that is no separator and closes nothing. -/
theorem gap_eq_nil (hs : t.isSeparator = false) (hc : t.isClose = false) :
    gap functions last t = [] := by
  cases last with
  | none => rfl
  | some l => cases l <;> simp [gap, leavesOut, hs, hc]

/-- A closing token is no operand. -/
theorem ownPlace_of_isClose (ht : t.isClose = true) : ownPlace t = [] := by
  cases t <;> first | rfl | cases ht

/-- A token is no gap. -/
theorem count_none_ownPlace : (ownPlace t).count none = 0 := by
  unfold ownPlace
  split <;> simp

/-- Without the gaps, the sequence consists of the operands. -/
theorem operandsAfter_operands :
    (operandsAfter functions last ts).filterMap id = ts.filter Token.isOperand := by
  induction ts generalizing last with
  | nil => rfl
  | cons t ts ih =>
    have hgap : (gap functions last t).filterMap id = [] := by
      unfold gap
      split <;> rfl
    rw [operandsAfter, List.filterMap_append, List.filterMap_append, ih, hgap, ownPlace]
    cases h : t.isOperand <;> simp [h]

/-- The gaps are the arguments that are left out. -/
theorem operandsAfter_gaps :
    (operandsAfter functions (some t) ts).count none =
      ((t :: ts).zip ts).countP fun p => leavesOut functions p.1 p.2 := by
  -- By induction on the tokens; the pair of the last token and the next one is the first of the
  -- pairs.
  induction ts generalizing t with
  | nil => rfl
  | cons u us ih =>
    have hgap : (gap functions (some t) u).count none =
        if leavesOut functions t u = true then 1 else 0 := by
      unfold gap
      rw [Option.any_some]
      split <;> rfl
    rw [operandsAfter, List.count_append, List.count_append, ih, count_none_ownPlace, hgap,
      List.zip_cons_cons, List.countP_cons, Nat.add_zero, Nat.add_comm]

/-- Without its gaps the sequence has the operands of the formula, in their order. -/
theorem operandSequence_operands (functions : FunctionTable) (tokens : List Token) :
    (operandSequence functions tokens).filterMap id = tokens.filter Token.isOperand := by
  unfold operandSequence significant
  rw [operandsAfter_operands, List.filter_filter]
  refine List.filter_congr fun t _ => ?_
  cases h : t.isOperand with
  | false => rfl
  | true => rw [Token.isWhitespace_of_isOperand h]; rfl

/-- The sequence has one gap for each argument that is left out. -/
theorem operandSequence_gaps (functions : FunctionTable) (tokens : List Token) :
    (operandSequence functions tokens).count none = omittedArguments functions tokens := by
  unfold operandSequence omittedArguments
  cases significant tokens with
  | nil => rfl
  | cons t ts =>
    rw [operandsAfter, List.count_append, List.count_append, operandsAfter_gaps,
      count_none_ownPlace]
    simp [gap]

end SheetFormula
