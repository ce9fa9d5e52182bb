import SheetFormula.Proofs.ReadingBack
import SheetFormula.Proofs.Running

namespace SheetFormula

/-!
# Calls

A call is counted when it is built and looked up when it is executed.  Both agree, and no slot of
a function loses an argument.

* `resolveSlotsFrom_eq_ok` — what each slot of a function makes of the argument in its place.
* `FunctionTable.CanCall` — a call that has a function, and as many arguments as it has slots.
* `Builder.CallsFit` — the invariant of building: so is each call that is closed, and the calls
  that are open know the function they are of.
* `Evaluator.Invokes` — the body of a function is given some arguments in an evaluation.
* `Evaluator.ofTokens_calls` — hence each function that is called is there, and the body of a
  function with slots is given an argument for each of them.
-/

variable {functions : FunctionTable} {tokens ts : List Token} {t : Token} {p : Program}

/-! ### Slots -/

section
variable {slot : ArgSlot} {slots : List ArgSlot} {supplied given : List Token} {i : Nat}

/-- An argument that is not left out takes its slot. -/
theorem ArgSlot.fill?_of_ne (ht : t ≠ .omitted) : slot.fill? (some t) = some t := by
  have hplain : t.isOmitted = false := by
    cases t <;> first | rfl | exact absurd rfl ht
  simp [ArgSlot.fill?, hplain]

/-- Only a slot with this default stays empty. -/
theorem ArgSlot.eq_of_fill?_omitted {argument : Option Token}
    (h : slot.fill? argument = some .omitted) : slot = .optional .omitted := by
  -- A gap among the arguments is passed over, so it is the default that is a gap.
  have hgiven : argument.filter (!·.isOmitted) ≠ some .omitted := by
    intro hfilter
    have := (Option.filter_eq_some_iff.mp hfilter).2
    cases this
  have hdefault : slot.default? = some .omitted := by
    rcases Option.or_eq_some_iff.mp h with hleft | ⟨-, hright⟩
    · exact absurd hleft hgiven
    · exact hright
  cases slot with
  | required => cases hdefault
  | optional default =>
    cases hdefault
    rfl

/-- **Slots.** Each slot is filled from the argument in its place, and there is nothing else. -/
theorem resolveSlotsFrom_eq_ok {start : Nat}
    (h : resolveSlotsFrom start slots supplied = .ok given) :
    given.length = slots.length ∧
      ∀ (i : Nat) (slot : ArgSlot), slots[i]? = some slot →
        given[i]? = slot.fill? supplied[i]? := by
  -- By induction on the slots; each takes the head of the arguments, if any are left.
  induction slots generalizing start supplied given with
  | nil =>
    cases h
    exact ⟨rfl, fun i slot hslot => by simp at hslot⟩
  | cons first rest ih =>
    simp only [resolveSlotsFrom] at h
    split at h
    · cases h
    · next filled hfilled =>
      cases hrest : resolveSlotsFrom (start + 1) rest supplied.tail with
      | error index =>
        rw [hrest] at h
        cases h
      | ok more =>
        rw [hrest] at h
        cases h
        obtain ⟨hlength, hfill⟩ := ih hrest
        refine ⟨congrArg (· + 1) hlength, fun i slot hslot => ?_⟩
        cases i with
        | zero =>
          cases hslot
          rw [← List.head?_eq_getElem? (l := supplied), hfilled]
          rfl
        | succ i =>
          have hplace := hfill i slot hslot
          rw [List.getElem?_tail] at hplace
          exact hplace

end

/-- The arguments of a function with slots, as they are supplied and as its body is given them. -/
structure FillsSlots (slots : List ArgSlot) (supplied given : List Token) : Prop where
  supplied_length : supplied.length = slots.length
  given_length : given.length = slots.length
  /-- Nothing stays left out, unless this is what the slot has as its default. -/
  omitted : ∀ i : Nat, given[i]? = some .omitted → slots[i]? = some (.optional .omitted)
  /-- Nothing that is supplied is dropped. -/
  kept : ∀ (i : Nat) (t : Token), supplied[i]? = some t → t ≠ .omitted → given[i]? = some t

/-- As many arguments as slots fill them. -/
theorem fillsSlots_of_resolveSlots {slots : List ArgSlot} {supplied given : List Token}
    (hlength : supplied.length = slots.length) (h : resolveSlots slots supplied = .ok given) :
    FillsSlots slots supplied given := by
  obtain ⟨hgiven, hfill⟩ := resolveSlotsFrom_eq_ok h
  -- Each index of one of the lists is an index of the slots.
  have hslot : ∀ {i : Nat} {t : Token} {l : List Token}, l.length = slots.length →
      l[i]? = some t → ∃ slot, slots[i]? = some slot := by
    intro i t l hl ht
    obtain ⟨hi, -⟩ := List.getElem?_eq_some_iff.mp ht
    exact ⟨slots[i], List.getElem?_eq_getElem (hl ▸ hi)⟩
  refine ⟨hlength, hgiven, fun i hi => ?_, fun i t hi ht => ?_⟩
  · obtain ⟨slot, hs⟩ := hslot hgiven hi
    rw [hfill i slot hs] at hi
    rw [hs, ArgSlot.eq_of_fill?_omitted hi]
  · obtain ⟨slot, hs⟩ := hslot hlength hi
    rw [hfill i slot hs, hi, ArgSlot.fill?_of_ne ht]

/-! ### Building -/

/-- Is there a function with this name, and does it take this number of arguments? -/
def FunctionTable.CanCall (functions : FunctionTable) (name : String) (count : Nat) : Prop :=
  ∃ d, functions.get? name = some d ∧ ∀ slots, d.slots = some slots → count = slots.length

namespace Builder

variable {b b' : Builder}

/-- **The invariant of calls.** -/
structure CallsFit (functions : FunctionTable) (b : Builder) : Prop where
  /-- The calls that are passed on can be carried out. -/
  emitted : ∀ name n, .call name n ∈ b.emitted → functions.CanCall name n
  /-- The calls that are held back have a function, and know how many arguments it takes. -/
  pending : ∀ c, .call c ∈ b.pending →
    ∃ d, functions.get? c.name = some d ∧ c.arity = d.arity

theorem callsFit_initial : CallsFit functions .initial := ⟨nofun, nofun⟩

/-- Operators and gaps are no calls. -/
theorem not_call_mem_items {ops : List Pending} {name : String} {n : Nat} :
    .call name n ∉ Pending.items ops := by
  intro h
  rcases Pending.eq_of_mem_items h with ⟨s, hs⟩ | ⟨s, hs⟩ <;> cases hs

theorem not_call_mem_marker {previous : Previous} {name : String} {n : Nat} :
    .call name n ∉ previous.marker := by
  unfold Previous.marker
  split <;> simp

theorem not_call_mem_marks {previous : Previous} {name : String} {k n : Nat} :
    .call name n ∉ (if k = 0 then [] else previous.marker) := by
  split
  · exact List.not_mem_nil
  · exact not_call_mem_marker

/-- What is passed on besides calls does not matter. -/
theorem CallsFit.passed (h : CallsFit functions b) {is : List Item}
    (his : ∀ name n, .call name n ∉ is) (name : String) (n : Nat)
    (hi : .call name n ∈ is ++ b.emitted) : functions.CanCall name n := by
  rcases List.mem_append.mp hi with hi | hi
  · exact absurd hi (his name n)
  · exact h.emitted name n hi

/-- What stays held back was held back before. -/
theorem CallsFit.held (h : CallsFit functions b) {ops rest : List Pending}
    (hb : b.pending = ops ++ rest) (c : OpenCall) (hc : .call c ∈ rest) :
    ∃ d, functions.get? c.name = some d ∧ c.arity = d.arity := by
  refine h.pending c ?_
  rw [hb]
  exact List.mem_append_right ops hc

/-- A call that is closed has as many arguments as it knew from its function. -/
theorem canCall_of_checkArity {c : OpenCall} {n : Nat}
    (h : ∃ d, functions.get? c.name = some d ∧ c.arity = d.arity)
    (hfits : checkArity c n = .ok ()) : functions.CanCall c.name n := by
  obtain ⟨d, hd, harity⟩ := h
  refine ⟨d, hd, fun slots hslots => ?_⟩
  have hcount : c.arity = some slots.length := by rw [harity, FunctionDef.arity, hslots]; rfl
  exact checkArity_eq_ok_iff.mp hfits slots.length hcount

/-- **One token.** -/
theorem CallsFit.step (h : CallsFit functions b) (hs : Step functions b t b') :
    CallsFit functions b' := by
  cases hs with
  | whitespace => exact h
  | operand ht =>
    have hitem : ∀ name n, .call name n ∉ [Item.ofOperand t] := by
      intro name n hmem
      cases t <;> cases List.mem_singleton.mp hmem
    exact ⟨h.passed hitem, h.pending⟩
  | infixOp hv hb hops hrest =>
    refine ⟨h.passed fun _ _ => not_call_mem_items, fun c hc => ?_⟩
    rcases List.mem_cons.mp hc with hc | hc
    · cases hc
    · exact h.held hb c hc
  | prefixOp | parenOpen =>
    refine ⟨h.emitted, fun c hc => ?_⟩
    rcases List.mem_cons.mp hc with hc | hc
    · cases hc
    · exact h.pending c hc
  | callOpen hd =>
    refine ⟨h.emitted, fun c hc => ?_⟩
    rcases List.mem_cons.mp hc with hc | hc
    · cases hc
      exact ⟨_, hd, rfl⟩
    · exact h.pending c hc
  | @separator _ ops rest c hb hops =>
    have hitems : ∀ name n, .call name n ∉ b.previous.marker ++ Pending.items ops :=
      fun _ _ => List.not_mem_append not_call_mem_marker not_call_mem_items
    refine ⟨fun name n hi => h.passed hitems name n (by rwa [List.append_assoc]), fun c' hc => ?_⟩
    -- The call that goes on is the one that was held back, but for its count.
    rcases List.mem_cons.mp hc with hc | hc
    · cases hc
      exact h.held hb c List.mem_cons_self
    · exact h.held hb c' (List.mem_cons_of_mem _ hc)
  | closeParen ht hb hops =>
    exact ⟨h.passed fun _ _ => not_call_mem_items,
      fun c hc => h.held hb c (List.mem_cons_of_mem _ hc)⟩
  | @closeCall _ ops rest c k ht hb hops hn hfits =>
    have hitems : ∀ name n,
        .call name n ∉ (if k = 0 then [] else b.previous.marker) ++ Pending.items ops :=
      fun _ _ => List.not_mem_append not_call_mem_marks not_call_mem_items
    refine ⟨fun name n hi => ?_, fun c' hc => h.held hb c' (List.mem_cons_of_mem _ hc)⟩
    rcases List.mem_cons.mp hi with hi | hi
    · cases hi
      exact canCall_of_checkArity (h.held hb c List.mem_cons_self) hfits
    · exact h.passed hitems name n (by rwa [List.append_assoc])

/-- **A sequence of tokens** keeps the invariant, by induction. -/
theorem CallsFit.reads (h : CallsFit functions b) (hs : Reads functions b ts b') :
    CallsFit functions b' := by
  induction hs with
  | nil => exact h
  | cons hs _ ih => exact ih (h.step hs)

end Builder

/-- The calls of a program can be carried out. -/
theorem Program.canCall_ofTokens (hp : ofTokens functions tokens = .ok p) {name : String}
    {n : Nat} (hi : .call name n ∈ p.items) : functions.CanCall name n := by
  obtain ⟨b, hs, -, rfl⟩ := ofTokens_eq_ok_iff.mp hp
  have hfit : Builder.CallsFit functions b := Builder.callsFit_initial.reads hs
  exact hfit.passed (fun _ _ => Builder.not_call_mem_items) name n (List.mem_reverse.mp hi)

/-! ### Evaluating -/

namespace Evaluator

variable {ev : Evaluator} {inputs : Inputs} {name : String} {d : FunctionDef}
  {supplied given : List Token}

/-- **An invocation.** The evaluation comes to a call of the function with the supplied arguments
    on top of the stack, and these or what the slots make of them are given to its body. -/
structure Invokes (ev : Evaluator) (inputs : Inputs) (name : String) (d : FunctionDef)
    (supplied given : List Token) : Prop where
  reaches : ∃ rest, ev.Reaches inputs (.call name supplied.length) (supplied.reverse ++ rest)
  defined : ev.functions.get? name = some d
  receives : d.Receives supplied given

/-- **A call that is executed is an invocation.**  It takes the supplied arguments from the stack,
    as many as were counted, and leaves what the body makes of those that it is given. -/
theorem Invokes.of_step {n : Nat} {stack stack' : List Token}
    (hreach : ev.Reaches inputs (.call name n) stack)
    (hstep : (ev.environment inputs).step stack (.call name n) = .ok stack') :
    ∃ d supplied given rest, ev.Invokes inputs name d supplied given ∧ supplied.length = n ∧
      stack = supplied.reverse ++ rest ∧ stack' = d.body given :: rest := by
  cases Environment.Step.of_step hstep with
  | call hd hg => exact ⟨_, _, _, _, ⟨⟨_, hreach⟩, hd, hg⟩, rfl, rfl, rfl⟩

/-- An error of an evaluator comes from its program, or says that the result is no value. -/
theorem evaluate_error {x : EvaluationError} (h : ev.evaluate inputs = .error x) :
    ev.evaluateToken inputs = .error x ∨ ∃ t, x = .notAValue t := by
  rcases bind_eq_error_iff.mp h with hx | ⟨t, -, ht⟩
  · exact .inl hx
  · unfold scalarOf at ht
    split at ht <;> cases ht
    exact .inr ⟨t, rfl⟩

section
variable {operators : OperatorTable} (hev : ofTokens operators functions tokens = .ok ev)
include hev

/-- The calls of an evaluator are those of the program it was built from. -/
theorem canCall_of_ofTokens {n : Nat} (hi : .call name n ∈ ev.program.items) :
    ev.functions.CanCall name n := by
  obtain ⟨p, hp, rfl⟩ := ofTokens_eq_ok_iff.mp hev
  exact Program.canCall_ofTokens hp hi

/-- Nothing but a call can say that its function is undefined. -/
theorem evaluateToken_ne_undefinedFunction :
    ev.evaluateToken inputs ≠ .error (.undefinedFunction name) := by
  intro h
  rcases evaluateToken_error h with ⟨i, stack, hreach, hfails⟩ | hx | hx
  -- A call that is reached is one of the program, and its function was found when it was built.
  · cases hfails with
    | undefinedFunction hnone =>
      obtain ⟨d, hd, -⟩ := canCall_of_ofTokens hev hreach.mem
      have hnone : ev.functions.get? name = none := hnone
      rw [hd] at hnone
      cases hnone
  · cases hx
  · cases hx

/-- The function that is invoked is the one that the call was counted for. -/
theorem Invokes.fillsSlots {slots : List ArgSlot} (h : ev.Invokes inputs name d supplied given)
    (hslots : d.slots = some slots) : FillsSlots slots supplied given := by
  obtain ⟨rest, hreach⟩ := h.reaches
  obtain ⟨d', hd', hcount⟩ := canCall_of_ofTokens hev hreach.mem
  rw [h.defined] at hd'
  cases hd'
  have hgiven := (FunctionDef.receives_some_iff hslots).mp h.receives
  exact fillsSlots_of_resolveSlots (hcount slots hslots) hgiven

/-- **Calls fit their functions.**  In an evaluator that is built from tokens, each call has a
    function in the table that the evaluator keeps, and an argument for each of its slots.  So no
    function is undefined in an evaluation, and each call that the machine executes is an
    invocation: it puts what the body makes of the given arguments in place of the supplied ones.
    Where a function with slots is invoked, the slots are filled from the supplied arguments and
    none of these is dropped. -/
theorem ofTokens_calls :
    (∀ name n, .call name n ∈ ev.program.items → ev.functions.CanCall name n) ∧
      ∀ inputs : Inputs,
        (∀ name, ev.evaluateToken inputs ≠ .error (.undefinedFunction name)) ∧
        (∀ name, ev.evaluate inputs ≠ .error (.undefinedFunction name)) ∧
        (∀ name n stack stack', ev.Reaches inputs (.call name n) stack →
          (ev.environment inputs).step stack (.call name n) = .ok stack' →
          ∃ d supplied given rest, ev.Invokes inputs name d supplied given ∧
            supplied.length = n ∧ stack = supplied.reverse ++ rest ∧
            stack' = d.body given :: rest) ∧
        ∀ name d supplied given slots, ev.Invokes inputs name d supplied given →
          d.slots = some slots → FillsSlots slots supplied given := by
  -- First what the builder has checked, then what follows for runs and for the slots.
  refine ⟨fun name n hi => canCall_of_ofTokens hev hi, fun inputs => ⟨?_, ?_, ?_, ?_⟩⟩
  · exact fun name => evaluateToken_ne_undefinedFunction hev
  · intro name h
    rcases evaluate_error h with hx | ⟨t, ht⟩
    · exact evaluateToken_ne_undefinedFunction hev hx
    · cases ht
  · exact fun name n stack stack' hreach hstep => Invokes.of_step hreach hstep
  · exact fun name d supplied given slots h hslots => h.fillsSlots hev hslots

end

end Evaluator

/-! ### A call with an argument that is left out -/

namespace RightCall

/-- The formula `RIGHT(x, )`. -/
def formula : List Token := [.callOpen "RIGHT(", .range "x", .separator ",", .callClose]

/-- The slots of the function, of which the second has the number one as its default. -/
def slots : List ArgSlot := [.required, .optional (.ofInt 1)]

/-- The function itself. -/
def function : FunctionDef := ⟨"RIGHT(", some slots, Function.right⟩

/-- The evaluator of the formula. -/
def evaluator : Evaluator :=
  ⟨.ofItems [.load "x", .push .omitted, .call "RIGHT(" 2], .builtin, .builtin⟩

/-- The text `abc` as the value of each input. -/
def texts : Inputs := fun _ => some (.text "abc")

/-- The run comes to the call with both arguments on the stack. -/
theorem reaches : evaluator.Reaches texts (.call "RIGHT(" 2) [.omitted, .text "abc"] :=
  ⟨[.load "x", .push .omitted], [], rfl, rfl⟩

/-- The argument that is left out is replaced by the default of its slot. -/
theorem invokes :
    evaluator.Invokes texts "RIGHT(" function [.text "abc", .omitted] [.text "abc", .ofInt 1] where
  reaches := ⟨[], reaches⟩
  defined := rfl
  receives := rfl

end RightCall

open RightCall in
/-- In `RIGHT(x, )` the body is given two arguments, none of them empty, and its result takes the
    place of what was supplied. -/
theorem Evaluator.ofTokens_calls_right :
    ofTokens .builtin .builtin formula = .ok evaluator ∧
      evaluator.Invokes texts "RIGHT(" function [.text "abc", .omitted] [.text "abc", .ofInt 1] ∧
      FillsSlots slots [.text "abc", .omitted] [.text "abc", .ofInt 1] ∧
      ∃ d supplied given rest, evaluator.Invokes texts "RIGHT(" d supplied given ∧
        supplied.length = 2 ∧ [.omitted, .text "abc"] = supplied.reverse ++ rest ∧
        [.text "c"] = d.body given :: rest := by
  have hev : ofTokens .builtin .builtin formula = .ok evaluator := rfl
  obtain ⟨-, -, hexecuted, hfills⟩ := (ofTokens_calls hev).2 texts
  have hstep : (evaluator.environment texts).step [.omitted, .text "abc"] (.call "RIGHT(" 2) =
      .ok [.text "c"] := rfl
  exact ⟨hev, invokes, hfills _ _ _ _ slots invokes rfl,
    hexecuted "RIGHT(" 2 _ _ reaches hstep⟩

end SheetFormula
