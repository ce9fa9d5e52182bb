import Mathlib.Data.List.Sort
import SheetFormula.Proofs.Running

namespace SheetFormula

/-!
# Inlining inputs

Where a formula reads an input, the value of the input can as well be written into the formula.

* `Token.inline`, `Item.inline` and `Program.inline` write the values in, before and after the
  program is built.
* `Builder.step_inline` and `Builder.read_inline` — the builder does not tell a range from another
  operand.
* `Program.ofTokens_inline` — hence it makes no difference when the values are written in.
* `Environment.run_inline` — nor does it to a run whether an operand is read or was there.
* `Evaluator.evaluateToken_inline` — inlining keeps the errors and the result of a formula, and
  leaves the other inputs to be required.
-/

/-! ### Writing values in -/

/-- Some of the inputs. -/
def Inputs.restrict (inputs : Inputs) (names : Set String) [DecidablePred (· ∈ names)] : Inputs :=
  fun name => if name ∈ names then inputs name else none

/-- Are all values operands other than ranges? -/
def Inputs.Plain (inputs : Inputs) : Prop :=
  ∀ name t, inputs name = some t → t.isValue = true

/-- Replaces a range by the value of its input, if it has one. -/
def Token.inline (inputs : Inputs) : Token → Token
  | range name => (inputs name).getD (.range name)
  | t => t

/-- Replaces an item that reads an input by one that pushes the value, if there is one. -/
def Item.inline (inputs : Inputs) : Item → Item
  | load name => .ofOperand ((inputs name).getD (.range name))
  | i => i

def Program.inline (inputs : Inputs) (p : Program) : Program :=
  .ofItems (p.items.map (Item.inline inputs))

@[simp] theorem Program.inline_items (inputs : Inputs) (p : Program) :
    (p.inline inputs).items = p.items.map (Item.inline inputs) := rfl

variable {inputs : Inputs} {functions : FunctionTable} {tokens : List Token} {t : Token}

theorem Token.isOperand_of_isValue (h : t.isValue = true) : t.isOperand = true := by
  cases t <;> first | rfl | cases h

/-- A value is pushed and not loaded. -/
theorem Item.ofOperand_of_isValue (h : t.isValue = true) : Item.ofOperand t = .push t := by
  cases t <;> first | rfl | cases h

/-- An input that has no value is still read. -/
theorem Item.inline_load_of_none {name : String} (hname : inputs name = none) :
    (Item.load name).inline inputs = .load name := by
  simp only [Item.inline, hname, Option.getD_none, Item.ofOperand]

/-- An input that has a value is pushed in place of being read. -/
theorem Item.inline_load_of_some {name : String} (h : inputs.Plain) (hname : inputs name = some t) :
    (Item.load name).inline inputs = .push t := by
  simp only [Item.inline, hname, Option.getD_some]
  exact Item.ofOperand_of_isValue (h name t hname)

/-- A range becomes an operand. -/
theorem Inputs.Plain.isOperand (h : inputs.Plain) (name : String) :
    ((inputs name).getD (.range name)).isOperand = true := by
  cases hname : inputs name with
  | none => rfl
  | some v => exact Token.isOperand_of_isValue (h name v hname)

/-! ### Building -/

namespace Builder

variable {b : Builder} {n : Nat} {ts : List Token}

/-- Writes values into what is passed on.  What is held back reads no inputs. -/
def inline (inputs : Inputs) (b : Builder) : Builder :=
  .of (b.emitted.map (Item.inline inputs)) b.pending b.previous

@[simp] theorem inline_emitted :
    (b.inline inputs).emitted = b.emitted.map (Item.inline inputs) := rfl

@[simp] theorem inline_pending : (b.inline inputs).pending = b.pending := rfl

@[simp] theorem inline_previous : (b.inline inputs).previous = b.previous := rfl

/-- What is held back reads no inputs. -/
theorem item_inline (p : Pending) : p.item?.map (Item.inline inputs) = p.item? := by
  cases p <;> rfl

/-- Operators that are passed on read no inputs, so they can be passed on before or after. -/
theorem release_inline (q : Pending → Bool) :
    (b.inline inputs).release q = (b.release q).inline inputs := by
  have hitems : ∀ ps : List Pending, (ps.filterMap Pending.item?).map (Item.inline inputs) =
      ps.filterMap Pending.item? := by
    intro ps
    rw [List.map_filterMap]
    exact List.filterMap_congr fun p _ => item_inline p
  refine Builder.ext ?_ rfl rfl
  simp only [release, inline_emitted, inline_pending, List.map_append, List.map_reverse, hitems]

/-- The same for all operators of a segment. -/
theorem flush_inline : (b.inline inputs).flush = b.flush.inline inputs := release_inline _

/-- What is held back reads no inputs either. -/
theorem hold_inline (p : Pending) (previous : Previous) :
    (b.inline inputs).hold p previous = (b.hold p previous).inline inputs :=
  Builder.ext rfl rfl rfl

/-- An item that is passed on is inlined with those before it. -/
theorem operand_inline (i : Item) :
    (b.inline inputs).operand (i.inline inputs) = (b.operand i).inline inputs :=
  Builder.ext rfl rfl rfl

/-- The mark for an argument that is left out is no input. -/
theorem markOmitted_inline : (b.inline inputs).markOmitted = b.markOmitted.inline inputs := by
  unfold markOmitted
  by_cases hgap : b.previous = .callOpen ∨ b.previous = .separator
  · rw [if_pos hgap, inline_previous, if_pos hgap]
    exact Builder.ext rfl rfl rfl
  · rw [if_neg hgap, inline_previous, if_neg hgap]

/-- **A separator** is read in the same way, or refused with the same error. -/
theorem separate_inline :
    (b.inline inputs).separate n t = (b.separate n t).map (inline inputs) := by
  simp only [separate, flush_inline, inline_pending, markOmitted_inline]
  cases b.flush.pending with
  | nil => rfl
  | cons p rest =>
    cases p with
    | call c => exact congrArg Except.ok (Builder.ext rfl rfl rfl)
    | _ => rfl

/-- **A call** is completed in the same way, or refused with the same error. -/
theorem closeCall_inline (c : OpenCall) :
    (b.inline inputs).closeCall c = (b.closeCall c).map (inline inputs) := by
  simp only [closeCall, inline_previous, markOmitted_inline]
  cases argumentCount b.previous c with
  | error x => rfl
  | ok k =>
    show (checkArity c k >>= _) = (checkArity c k >>= _).map _
    cases checkArity c k with
    | error x => rfl
    | ok _ =>
      -- An empty call has no mark; both cases pass the call on itself.
      have hmarked : (if k = 0 then b.inline inputs else b.markOmitted.inline inputs) =
          (if k = 0 then b else b.markOmitted).inline inputs := by split <;> rfl
      rw [hmarked]
      exact congrArg Except.ok (operand_inline (.call c.name k))

/-- **A closing token** is read in the same way, or refused with the same error. -/
theorem close_inline : (b.inline inputs).close n = (b.close n).map (inline inputs) := by
  simp only [close, flush_inline, inline_pending]
  -- Inlining changes no brackets, so the same one is closed.
  cases b.flush.pending with
  | nil => rfl
  | cons p rest =>
    cases p with
    | paren => exact congrArg Except.ok (Builder.ext rfl rfl rfl)
    | call c =>
      have hinner : { b.flush.inline inputs with pending := rest } =
          ({ b.flush with pending := rest } : Builder).inline inputs := Builder.ext rfl rfl rfl
      simp only [hinner]
      exact closeCall_inline c
    | _ => rfl

/-- **One token.** The builder reads a value as it reads the range in its place. -/
theorem step_inline (h : inputs.Plain) :
    (b.inline inputs).step functions n (t.inline inputs) =
      (b.step functions n t).map (inline inputs) := by
  -- Tokens other than ranges stay as they are, and of the state they see what was not inlined.
  cases t with
  | range name =>
    simp only [Token.inline, step_operand (h.isOperand name)]
    exact congrArg Except.ok (operand_inline (.load name))
  | infixOp symbol =>
    simp only [Token.inline, step, infixSymbol, release_inline, hold_inline]
    rw [inline_previous]
    by_cases hv : b.previous = .value
    · rw [if_pos hv, if_pos hv]
      rfl
    · rw [if_neg hv, if_neg hv]
      rfl
  | prefixOp symbol => exact congrArg Except.ok (hold_inline _ _)
  | parenOpen =>
    simp only [Token.inline, step, hold_inline]
    rw [inline_previous]
    by_cases hv : b.previous = .value
    · rw [if_pos hv, if_pos hv]
      rfl
    · rw [if_neg hv, if_neg hv]
      rfl
  | callOpen name =>
    simp only [Token.inline, step, openCall, hold_inline]
    cases functions.get? name <;> rfl
  | separator s => exact separate_inline
  | callClose | parenClose => exact close_inline
  | whitespace s => rfl
  | unrecognized kind subtype value => rfl
  | logical _ | text _ | number _ | error _ | omitted =>
    exact congrArg Except.ok (operand_inline (.push _))

/-- **A sequence of tokens.** -/
theorem read_inline (h : inputs.Plain) :
    (b.inline inputs).read functions n (ts.map (Token.inline inputs)) =
      (b.read functions n ts).map (inline inputs) := by
  induction ts generalizing b n with
  | nil => rfl
  | cons t ts ih =>
    rw [List.map_cons, read, read, step_inline h]
    cases b.step functions n t with
    | error x => rfl
    | ok c => exact ih

/-- **The end of a formula** gives the inlined program, or the same error. -/
theorem finish_inline : (b.inline inputs).finish = b.finish.map (Program.inline inputs) := by
  simp only [finish, flush_inline, inline_pending]
  split
  · refine congrArg Except.ok (Program.ext ?_)
    simp only [inline_emitted, Program.inline_items, List.map_reverse]
  · rfl

end Builder

/-- **Building and inlining** can be done in either order. -/
theorem Program.ofTokens_inline (h : inputs.Plain) :
    ofTokens functions (tokens.map (Token.inline inputs)) =
      (ofTokens functions tokens).map (inline inputs) := by
  have hinitial : Builder.initial.inline inputs = .initial := Builder.ext rfl rfl rfl
  have hread : Builder.initial.read functions 0 (tokens.map (Token.inline inputs)) =
      (Builder.initial.read functions 0 tokens).map (Builder.inline inputs) := by
    rw [← Builder.read_inline h, hinitial]
  rw [ofTokens, ofTokens, hread]
  cases Builder.initial.read functions 0 tokens with
  | error x => rfl
  | ok b => exact Builder.finish_inline

/-! ### Running -/

namespace Environment

variable {e : Environment} {i : Item} {is : List Item} {stack : List Token}

/-- **One item.** What is pushed is what would be read. -/
theorem step_inline (h : inputs.Plain)
    (hin : ∀ name t, inputs name = some t → e.inputs name = some t) :
    e.step stack (i.inline inputs) = e.step stack i := by
  cases i with
  | load name =>
    cases hname : inputs name with
    | none => rw [Item.inline_load_of_none hname]
    | some v =>
      rw [Item.inline_load_of_some h hname, step, step, load_eq_ok_iff.mpr (hin name v hname)]
      rfl
  | _ => rfl

/-- **A run** does not tell an operand that is pushed from one that is read. -/
theorem run_inline (h : inputs.Plain)
    (hin : ∀ name t, inputs name = some t → e.inputs name = some t) :
    e.run stack (is.map (Item.inline inputs)) = e.run stack is := by
  induction is generalizing stack with
  | nil => rfl
  | cons i is ih =>
    rw [List.map_cons, run, run, step_inline h hin]
    cases e.step stack i with
    | error x => rfl
    | ok s => exact ih

end Environment

/-! ### The inputs that are still required -/

/-- The inputs that are still read are those without a value. -/
theorem Item.inline_eq_load_iff (h : inputs.Plain) {i : Item} {name : String} :
    i.inline inputs = .load name ↔ i = .load name ∧ inputs name = none := by
  cases i with
  | load other =>
    cases hother : inputs other with
    | none =>
      rw [Item.inline_load_of_none hother]
      constructor
      · rintro ⟨⟩
        exact ⟨rfl, hother⟩
      · exact And.left
    -- No other item than a load is turned into one, and a value is pushed.
    | some v =>
      rw [Item.inline_load_of_some h hother]
      constructor
      · rintro ⟨⟩
      · rintro ⟨⟨⟩, hnone⟩
        rw [hother] at hnone
        cases hnone
  | _ => simp [Item.inline]

/-- The inputs that are required are listed in ascending order, so they are determined by which
    they are. -/
theorem Program.requiredInputs_eq_filter {p q : Program} {keep : String → Bool}
    (h : ∀ name, name ∈ q.requiredInputs ↔ name ∈ p.requiredInputs ∧ keep name = true) :
    q.requiredInputs = p.requiredInputs.filter keep := by
  have : Std.Asymm fun a b : String => compare a b = .lt :=
    ⟨fun _ _ => Std.OrientedCmp.not_lt_of_lt⟩
  refine q.requiredInputs_ascending.eq_of_mem_iff (p.requiredInputs_ascending.filter keep) ?_
  simpa only [List.mem_filter] using h

/-- **Required inputs** of an inlined program are those without a value. -/
theorem Program.requiredInputs_inline (h : inputs.Plain) (p : Program) :
    (p.inline inputs).requiredInputs =
      p.requiredInputs.filter fun name => (inputs name).isNone := by
  -- Sorted names without repetitions are the same if they are the same set.
  refine requiredInputs_eq_filter fun name => ?_
  rw [mem_requiredInputs, mem_requiredInputs, inline_items, List.mem_map,
    Option.isNone_iff_eq_none]
  simp only [Item.inline_eq_load_iff h]
  constructor
  · rintro ⟨i, hi, rfl, hnone⟩
    exact ⟨hi, hnone⟩
  · rintro ⟨hi, hnone⟩
    exact ⟨_, hi, rfl, hnone⟩

/-! ### Evaluators -/

namespace Inputs

variable {names : Set String} [DecidablePred (· ∈ names)]

/-- A restricted input is one of the names and has the value it had. -/
theorem restrict_eq_some {name : String} (h : inputs.restrict names name = some t) :
    name ∈ names ∧ inputs name = some t := by
  unfold restrict at h
  split at h
  · next hname => exact ⟨hname, h⟩
  · cases h

/-- What is left out of bound inputs has no value, and nothing else. -/
theorem restrict_isNone (h : ∀ name ∈ names, ∃ t, inputs name = some t ∧ t.isValue = true)
    (name : String) : (inputs.restrict names name).isNone = decide (name ∉ names) := by
  unfold restrict
  split
  · next hname =>
    obtain ⟨t, ht, -⟩ := h name hname
    simp [ht, hname]
  · next hname => simp [hname]

/-- If the names are bound to values, then only values are inlined. -/
theorem restrict_plain (h : ∀ name ∈ names, ∃ t, inputs name = some t ∧ t.isValue = true) :
    (inputs.restrict names).Plain := by
  intro name t ht
  obtain ⟨hname, hbound⟩ := restrict_eq_some ht
  obtain ⟨v, hv, hvalue⟩ := h name hname
  rw [hbound] at hv
  cases hv
  exact hvalue

end Inputs

/-- **Inlining inputs** keeps what a formula means.  If some names are bound to values, and these
    are written into the tokens, then the formula is built or rejected as before, it evaluates to
    the same token or error, and the other inputs stay required. -/
theorem Evaluator.evaluateToken_inline (operators : OperatorTable) (functions : FunctionTable)
    (tokens : List Token) (inputs : Inputs) (names : Set String) [DecidablePred (· ∈ names)]
    (h : ∀ name ∈ names, ∃ t, inputs name = some t ∧ t.isValue = true) :
    (∀ x, ofTokens operators functions (tokens.map (Token.inline (inputs.restrict names))) =
        .error x ↔ ofTokens operators functions tokens = .error x) ∧
      ∀ ev, ofTokens operators functions tokens = .ok ev →
        ∃ ev', ofTokens operators functions (tokens.map (Token.inline (inputs.restrict names))) =
            .ok ev' ∧
          ev'.evaluateToken inputs = ev.evaluateToken inputs ∧
          ev'.program.requiredInputs = ev.program.requiredInputs.filter (· ∉ names) := by
  have hplain : (inputs.restrict names).Plain := Inputs.restrict_plain h
  -- Inlining commutes with building, and then with running.
  unfold ofTokens
  rw [Program.ofTokens_inline hplain]
  cases Program.ofTokens functions tokens with
  | error x =>
    refine ⟨fun y => Iff.rfl, fun ev hev => ?_⟩
    cases hev
  | ok p =>
    refine ⟨fun y => iff_of_false nofun nofun, fun ev hev => ?_⟩
    cases hev
    refine ⟨⟨p.inline (inputs.restrict names), operators, functions⟩, rfl, ?_, ?_⟩
    · simp only [evaluateToken, Program.inline_items]
      rw [Environment.run_inline hplain fun name t ht => (Inputs.restrict_eq_some ht).2]
    · rw [Program.requiredInputs_inline hplain]
      exact List.filter_congr fun name _ => Inputs.restrict_isNone h name

/-! ### An omitted argument as an input -/

namespace InliningExample

/-- The formula `LEFT(x, n)`. -/
def leftTokens : List Token :=
  [.callOpen "LEFT(", .range "x", .separator ",", .range "n", .callClose]

/-- The formula `LEFT(x, )`, up to the token in the gap. -/
def inlinedTokens : List Token :=
  [.callOpen "LEFT(", .range "x", .separator ",", .omitted, .callClose]

/-- The text `abc` as `x`, and an omitted argument as `n`. -/
def leftInputs : Inputs :=
  fun name => if name = "x" then some (.text "abc") else if name = "n" then some .omitted else none

end InliningExample

open InliningExample in
/-- An input may be bound to an omitted argument: the default of the slot is taken in both cases. -/
theorem Evaluator.evaluateToken_inline_left :
    (∀ name ∈ ({"n"} : Set String), ∃ t, leftInputs name = some t ∧ t.isValue = true) ∧
      ∃ ev ev', ofTokens .builtin .builtin leftTokens = .ok ev ∧
        ofTokens .builtin .builtin inlinedTokens = .ok ev' ∧
        ev'.evaluateToken leftInputs = ev.evaluateToken leftInputs ∧
        ev'.program.requiredInputs =
          ev.program.requiredInputs.filter (· ∉ ({"n"} : Set String)) := by
  have hbound : ∀ name ∈ ({"n"} : Set String),
      ∃ t, leftInputs name = some t ∧ t.isValue = true := by
    rintro _ rfl
    exact ⟨.omitted, rfl, rfl⟩
  have htokens : leftTokens.map (Token.inline (leftInputs.restrict {"n"})) = inlinedTokens := by
    decide
  obtain ⟨ev', hev', hresult⟩ :=
    (evaluateToken_inline .builtin .builtin leftTokens leftInputs {"n"} hbound).2 _ rfl
  rw [htokens] at hev'
  exact ⟨hbound, _, ev', rfl, hev', hresult⟩

end SheetFormula
