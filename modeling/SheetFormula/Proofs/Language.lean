import SheetFormula.Proofs.Brackets

namespace SheetFormula

open Brackets

/-!
# The language of formulas

Which sequences of tokens are formulas, and what is wrong with the others.

* `WellFormed` — the language, one field for each rule.
* `Violation` — what can be wrong with a token, given the tokens before it.
* `FirstViolation` — what is wrong with the first token that violates a rule.
* `wellFormed_iff` — the language consists of the balanced sequences without violation.
-/

variable {functions : FunctionTable} {t : Token} {ts inner : List Token} {e : SyntaxError}

/-! ### Rules -/

/-- Does a value end with the last of the tokens, white-space aside? -/
def EndsValue (ts : List Token) : Prop :=
  ∃ t, (significant ts).getLast? = some t ∧ t.endsValue = true

/-- Is there nothing but white-space? -/
def IsBlank (ts : List Token) : Prop := ∀ t ∈ ts, t.isWhitespace = true

/-- Do the slots of a function take what stands between the brackets of its call? -/
def SlotsTake (slots : List ArgSlot) (inner : List Token) : Prop :=
  (IsBlank inner → slots = [] ∨ ∃ default, slots = [.optional default]) ∧
    (¬ IsBlank inner → slots.length = separators inner + 1)

/-- **The language of formulas.** -/
structure WellFormed (functions : FunctionTable) (tokens : List Token) : Prop where
  recognized : ∀ kind subtype value, .unrecognized kind subtype value ∉ tokens
  registered : ∀ name, .callOpen name ∈ tokens → ∃ d, functions.get? name = some d
  /-- Each infix operator has a left operand. -/
  infixOp : ∀ before symbol after, tokens = before ++ .infixOp symbol :: after → EndsValue before
  /-- No value stands right before a parenthesis. -/
  parenOpen : ∀ before after, tokens = before ++ .parenOpen :: after → ¬ EndsValue before
  balanced : Balanced tokens
  /-- Each separator stands directly inside a call. -/
  separator : ∀ before text after, tokens = before ++ .separator text :: after →
    ∃ name inner, Innermost before (.callOpen name) inner
  /-- Each call has the arguments that its function takes. -/
  call : ∀ outer name inner close after,
    tokens = outer ++ .callOpen name :: inner ++ close :: after →
    Balanced inner → close.isClose = true → ∀ d slots, functions.get? name = some d →
      d.slots = some slots → SlotsTake slots inner

/-- What is wrong with the arguments of a call whose function has these slots. -/
inductive BadArguments (name : String) (inner : List Token) : List ArgSlot → SyntaxError → Prop
  /-- The call is empty, and the first argument is required. -/
  | missing {slots : List ArgSlot} (hblank : IsBlank inner) :
    BadArguments name inner (.required :: slots) (.missingArgument name 0)
  /-- A call has one argument more than separators.  This includes an empty call, whose sole
      argument is left out, if the first slot has a default. -/
  | count {slots : List ArgSlot}
    (hblank : IsBlank inner → ∃ default rest, slots = .optional default :: rest)
    (hn : slots.length ≠ separators inner + 1) :
    BadArguments name inner slots
      (.argumentCount name slots.length (separators inner + 1))

/-- **What is wrong with a token**, given the tokens before it. -/
inductive Violation (functions : FunctionTable) (before : List Token) :
    Token → SyntaxError → Prop
  | unrecognizedToken {kind subtype value : String} :
    Violation functions before (.unrecognized kind subtype value)
      (.unrecognizedToken (.unrecognized kind subtype value) before.length)
  | unknownFunction {name : String} (hd : functions.get? name = none) :
    Violation functions before (.callOpen name) (.unknownFunction name before.length)
  | unexpectedOperator {symbol : String} (hv : ¬ EndsValue before) :
    Violation functions before (.infixOp symbol)
      (.unexpectedOperator (.infixOp symbol) before.length)
  | missingOperator (hv : EndsValue before) :
    Violation functions before .parenOpen (.missingOperator before.length)
  | unexpectedClose {t : Token} (ht : t.isClose = true)
    (hopen : ∀ o inner, ¬ Innermost before o inner) :
    Violation functions before t (.unexpectedClose before.length)
  | unexpectedSeparator {text : String}
    (hopen : ∀ name inner, ¬ Innermost before (.callOpen name) inner) :
    Violation functions before (.separator text)
      (.unexpectedSeparator (.separator text) before.length)
  | badArguments {t : Token} {name : String} {inner : List Token} {d : FunctionDef}
    {slots : List ArgSlot} {e : SyntaxError} (ht : t.isClose = true)
    (hopen : Innermost before (.callOpen name) inner) (hd : functions.get? name = some d)
    (hslots : d.slots = some slots) (h : BadArguments name inner slots e) :
    Violation functions before t e

/-- Is no rule violated by any of the tokens? -/
def Clean (functions : FunctionTable) (tokens : List Token) : Prop :=
  ∀ before t after, tokens = before ++ t :: after → ∀ e, ¬ Violation functions before t e

/-- Is this what is wrong with the first of the tokens that violates a rule? -/
def FirstViolation (functions : FunctionTable) (tokens : List Token) (e : SyntaxError) : Prop :=
  ∃ before t after, tokens = before ++ t :: after ∧ Clean functions before ∧
    Violation functions before t e

/-! ### Rules and violations -/

/-- A blank part has no brackets and no separators. -/
theorem IsBlank.balanced (h : IsBlank ts) : Balanced ts ∧ separators ts = 0 := by
  induction ts with
  | nil => exact ⟨balanced_nil, separators_nil⟩
  | cons t ts ih =>
    obtain ⟨hts, hn⟩ := ih fun u hu => h u (List.mem_cons_of_mem t hu)
    have ht := h t List.mem_cons_self
    -- White-space is neither a bracket nor a separator.
    have hplain : IsPlain t ∧ t.isSeparator = false := by
      cases t <;> simp_all [IsPlain, Token.isOpen, Token.isClose, Token.isSeparator,
        Token.isWhitespace]
    refine ⟨(balanced_singleton hplain.1).append hts, ?_⟩
    rw [← List.singleton_append, separators_append (balanced_singleton hplain.1),
      separators_singleton, hplain.2, hn]
    rfl

/-- The slots take the arguments unless something is wrong with them. -/
theorem slotsTake_iff (name : String) {slots : List ArgSlot} :
    SlotsTake slots inner ↔ ∀ e, ¬ BadArguments name inner slots e := by
  constructor
  · rintro ⟨hempty, hother⟩ e (hblank | ⟨hfirst, hn⟩)
    · rcases hempty hblank with h | ⟨default, h⟩ <;> cases h
    · by_cases hblank : IsBlank inner
      · obtain ⟨default, rest, rfl⟩ := hfirst hblank
        rcases hempty hblank with h | ⟨default, h⟩
        · cases h
        · cases h
          exact hn (by rw [hblank.balanced.2]; rfl)
      · exact hn (hother hblank)
  · intro h
    constructor
    · intro hblank
      cases slots with
      | nil => exact .inl rfl
      | cons slot rest =>
        cases slot with
        | required => exact absurd (.missing hblank) (h _)
        | optional default =>
          -- An empty call counts as one argument here, so there is only this slot.
          have hlength : (ArgSlot.optional default :: rest).length = separators inner + 1 :=
            Decidable.byContradiction fun hn => h _ (.count (fun _ => ⟨default, rest, rfl⟩) hn)
          rw [hblank.balanced.2, List.length_cons, Nat.add_right_cancel_iff] at hlength
          rw [List.eq_nil_of_length_eq_zero hlength]
          exact .inr ⟨default, rfl⟩
    · intro hblank
      exact Decidable.byContradiction fun hn => h _ (.count (fun hb => absurd hb hblank) hn)

/-- A bracket stands open before each token that closes one. -/
theorem Balanced.exists_innermost_of_close {after : List Token} (h : Balanced (ts ++ t :: after))
    (ht : t.isClose = true) : ∃ o inner, Innermost ts o inner := by
  obtain ⟨d, hts, hafter⟩ := exists_depthFrom_left h
  cases d with
  | zero =>
    rw [depthFrom_cons, depthAfter_zero_close ht] at hafter
    cases hafter
  | succ d => exact exists_innermost hts

/-- Well-formed sequences break no rule. -/
theorem WellFormed.clean (h : WellFormed functions ts) : Clean functions ts := by
  rintro before t after rfl e hv
  -- Each way to violate a rule contradicts one of the conditions.
  cases hv with
  | unrecognizedToken => exact h.recognized _ _ _ (List.mem_append_right before List.mem_cons_self)
  | unknownFunction hd =>
    obtain ⟨d, hd'⟩ := h.registered _ (List.mem_append_right before List.mem_cons_self)
    rw [hd] at hd'
    cases hd'
  | unexpectedOperator hv => exact hv (h.infixOp before _ after rfl)
  | missingOperator hv => exact h.parenOpen before after rfl hv
  | unexpectedClose ht hopen =>
    obtain ⟨o, inner, hi⟩ := Balanced.exists_innermost_of_close h.balanced ht
    exact hopen o inner hi
  | unexpectedSeparator hopen =>
    obtain ⟨name, inner, hi⟩ := h.separator before _ after rfl
    exact hopen name inner hi
  | badArguments ht hopen hd hslots hbad =>
    obtain ⟨-, hi, outer, rfl⟩ := hopen
    exact (slotsTake_iff _).mp (h.call outer _ _ _ after rfl hi ht _ _ hd hslots) _ hbad

/-- **The language** consists of the balanced sequences without violation. -/
theorem wellFormed_iff : WellFormed functions ts ↔ Clean functions ts ∧ Balanced ts := by
  refine ⟨fun h => ⟨h.clean, h.balanced⟩, ?_⟩
  rintro ⟨hclean, hbalanced⟩
  -- Conversely, a condition that failed at some token would be a violation there.
  refine ⟨?_, ?_, ?_, ?_, hbalanced, ?_, ?_⟩
  · intro kind subtype value hmem
    obtain ⟨before, after, heq⟩ := List.append_of_mem hmem
    exact hclean before _ after heq _ .unrecognizedToken
  · intro name hmem
    obtain ⟨before, after, heq⟩ := List.append_of_mem hmem
    cases hd : functions.get? name with
    | none => exact absurd (.unknownFunction hd) (hclean before _ after heq _)
    | some d => exact ⟨d, rfl⟩
  · intro before symbol after heq
    exact Classical.byContradiction fun hv =>
      hclean before _ after heq _ (.unexpectedOperator hv)
  · intro before after heq hv
    exact hclean before _ after heq _ (.missingOperator hv)
  · intro before text after heq
    refine Classical.byContradiction fun hopen => ?_
    refine hclean before _ after heq _ (.unexpectedSeparator fun name inner hi => ?_)
    exact hopen ⟨name, inner, hi⟩
  · intro outer name inner close after heq hi hc d slots hd hslots
    refine (slotsTake_iff name).mpr fun e hbad => ?_
    exact hclean _ close after heq e (.badArguments hc ⟨rfl, hi, outer, rfl⟩ hd hslots hbad)

end SheetFormula
