import Mathlib.Data.List.Induction
import SheetFormula.Proofs.Language

namespace SheetFormula

open Brackets

/-!
# The builder accepts the language

The builder reads exactly the well-formed sequences of tokens, and of the others it reports the
first violation.

* `Tracks` — the invariant of the builder: what it holds back are the brackets that stand open,
  each call with the separators directly inside it, and operators.
* `Tracks.step` — each token that can be read keeps it.
* `Tracks.step_error_iff` — the builder fails at a token exactly if the token violates a rule.
* `Tracks.read_error_iff` — so a run fails with the first violation.
* `Program.ofTokens_language` — the language, and the errors, of the builder as a whole.
-/

variable {functions : FunctionTable} {t o : Token} {ts us before inner outer : List Token}
  {e : SyntaxError} {ps : List Pending} {b b' : Builder}

/-! ### The previous token -/

/-- A value ends where the builder remembers one. -/
theorem endsValue_iff : EndsValue ts ↔ Previous.after ts = .value := by
  unfold EndsValue Previous.after
  cases (significant ts).getLast? with
  | none => simp
  | some t => cases t <;> simp [Previous.ofToken, Token.endsValue, Token.isOperand, Token.isClose]

/-- Nothing but white-space stands in a blank part. -/
theorem IsBlank.significant_eq (h : IsBlank ts) : significant ts = [] := by
  simpa [significant, IsBlank] using h

/-- After the opening token of a call there is nothing but white-space. -/
theorem exists_callOpen (h : Previous.after ts = .callOpen) :
    ∃ outer name inner, ts = outer ++ .callOpen name :: inner ∧ IsBlank inner := by
  -- By induction from the right: the builder remembers the last token that is not white-space.
  induction ts using List.reverseRecOn with
  | nil => cases h
  | append_singleton ts t ih =>
    rw [Previous.after_concat] at h
    by_cases ht : t.isWhitespace = true
    · rw [if_pos ht] at h
      obtain ⟨outer, name, inner, rfl, hi⟩ := ih h
      refine ⟨outer, name, inner ++ [t], by simp, ?_⟩
      intro u hu
      rcases List.mem_append.mp hu with hu | hu
      · exact hi u hu
      · rw [List.mem_singleton.mp hu]
        exact ht
    · rw [if_neg ht] at h
      cases t with
      | callOpen name => exact ⟨ts, name, [], rfl, nofun⟩
      | _ => cases h

/-- **Empty calls.**  What stands between the brackets of a call is blank exactly if the builder
    has read nothing since it opened the call. -/
theorem after_eq_callOpen_iff {name : String} (hi : Balanced inner) :
    Previous.after (outer ++ .callOpen name :: inner) = .callOpen ↔ IsBlank inner := by
  constructor
  · intro h
    obtain ⟨outer', name', inner', heq, hblank⟩ := exists_callOpen h
    -- The token remembered opens the innermost bracket, and there is only one.
    have hopen : Innermost (outer ++ .callOpen name :: inner) (.callOpen name') inner' :=
      ⟨rfl, hblank.balanced.1, outer', heq⟩
    rw [(hopen.unique ⟨rfl, hi, outer, rfl⟩).2] at hblank
    exact hblank
  · intro h
    unfold Previous.after
    rw [significant_append, significant_cons rfl, h.significant_eq, List.getLast?_concat]
    rfl

/-! ### The invariant -/

/-- A call that stands open, with what stands in it so far. -/
def OpenCall.containing (name : String) (d : FunctionDef) (inner : List Token) : OpenCall :=
  { OpenCall.start name d with count := separators inner + 1 }

/-- The brackets among what is held back are those that stand open after the tokens. -/
inductive Scopes (functions : FunctionTable) : List Pending → List Token → Prop
  | balanced {ts : List Token} (h : Balanced ts) : Scopes functions [] ts
  | operator {p : Pending} {ps : List Pending} {ts : List Token} (hp : p.isOperator = true)
    (h : Scopes functions ps ts) : Scopes functions (p :: ps) ts
  | paren {ps : List Pending} {outer inner : List Token} (h : Scopes functions ps outer)
    (hi : Balanced inner) : Scopes functions (.paren :: ps) (outer ++ .parenOpen :: inner)
  | call {ps : List Pending} {outer inner : List Token} {name : String} {d : FunctionDef}
    (h : Scopes functions ps outer) (hi : Balanced inner) (hd : functions.get? name = some d) :
    Scopes functions (.call (.containing name d inner) :: ps) (outer ++ .callOpen name :: inner)

/-- The state of the builder after tokens that it could read. -/
structure Tracks (functions : FunctionTable) (before : List Token) (b : Builder) : Prop where
  previous : b.previous = .after before
  scopes : Scopes functions b.pending before

theorem tracks_initial : Tracks functions [] .initial := ⟨rfl, .balanced balanced_nil⟩

/-- Operators do not count. -/
theorem Scopes.append_iff {ops : List Pending} (hops : ∀ p ∈ ops, p.isOperator = true) :
    Scopes functions (ops ++ ps) ts ↔ Scopes functions ps ts := by
  induction ops with
  | nil => exact Iff.rfl
  | cons p ops ih =>
    rw [List.cons_append, ← ih fun q hq => hops q (List.mem_cons_of_mem p hq)]
    have hp := hops p List.mem_cons_self
    constructor
    · intro h
      cases h with
      | operator _ h => exact h
      | paren | call => cases hp
    · exact .operator hp

/-- Tokens that close what they open change nothing, if no separator stands directly among
    them. -/
theorem Scopes.extend (h : Scopes functions ps ts) (hus : Balanced us) (hn : separators us = 0) :
    Scopes functions ps (ts ++ us) := by
  induction h with
  | balanced h => exact .balanced (h.append hus)
  | operator hp _ ih => exact .operator hp ih
  | paren h hi =>
    rw [List.append_assoc]
    exact .paren h (hi.append hus)
  | @call ps outer inner name d h hi hd =>
    have hcall : OpenCall.containing name d (inner ++ us) = .containing name d inner := by
      unfold OpenCall.containing
      rw [separators_append hi, hn, Nat.add_zero]
    rw [List.append_assoc, ← hcall]
    exact .call h (hi.append hus) hd

/-- A token that is no bracket and no separator changes nothing. -/
theorem Scopes.extend_plain (h : Scopes functions ps ts) (ht : IsPlain t)
    (hs : t.isSeparator = false) : Scopes functions ps (ts ++ [t]) := by
  refine h.extend (balanced_singleton ht) ?_
  rw [separators_singleton, hs]
  rfl

/-- A bracket that is closed is part of what stands around it. -/
theorem Scopes.extend_close (h : Scopes functions ps outer) (ho : o.isOpen = true)
    (hi : Balanced inner) (ht : t.isClose = true) :
    Scopes functions ps (outer ++ o :: inner ++ [t]) := by
  rw [List.append_assoc]
  exact h.extend (hi.bracket ho ht) (separators_bracket ho hi ht)

/-- Is no bracket held back?  Then none stands open, and conversely. -/
theorem Scopes.balanced_iff (h : Scopes functions ps ts) :
    (∀ p ∈ ps, p.isOperator = true) ↔ Balanced ts := by
  induction h with
  | balanced h => exact iff_of_true nofun h
  | operator hp _ ih =>
    rw [List.forall_mem_cons, ih]
    exact and_iff_right hp
  | @paren _ outer inner _ hi =>
    refine iff_of_false (fun hps => ?_) fun hb => hb.not_innermost ⟨rfl, hi, outer, rfl⟩
    cases hps .paren List.mem_cons_self
  | @call _ outer inner _ _ _ hi =>
    refine iff_of_false (fun hps => ?_) fun hb => hb.not_innermost ⟨rfl, hi, outer, rfl⟩
    cases hps _ List.mem_cons_self

/-- Some bracket stands open, or none does. -/
theorem Scopes.balanced_or_innermost (h : Scopes functions ps ts) :
    Balanced ts ∨ ∃ o inner, Innermost ts o inner := by
  induction h with
  | balanced h => exact .inl h
  | operator _ _ ih => exact ih
  | paren _ hi => exact .inr ⟨_, _, rfl, hi, _, rfl⟩
  | call _ hi => exact .inr ⟨_, _, rfl, hi, _, rfl⟩

/-! ### One token -/

/-- **The invariant is kept** by each token that can be read. -/
theorem Scopes.step (h : Scopes functions b.pending ts) (hs : Builder.Step functions b t b') :
    Scopes functions b'.pending (ts ++ [t]) := by
  cases hs with
  | whitespace => exact h.extend_plain ⟨rfl, rfl⟩ rfl
  | operand ht =>
    have hplain : IsPlain t ∧ t.isSeparator = false := by
      cases t <;> first | exact ⟨⟨rfl, rfl⟩, rfl⟩ | cases ht
    exact h.extend_plain hplain.1 hplain.2
  | infixOp _ hb hops =>
    -- What is released on the way are operators, so no bracket is lost.
    rw [hb, append_iff fun p hp => Pending.isOperator_of_yieldsTo (hops p hp)] at h
    exact .operator rfl (h.extend_plain ⟨rfl, rfl⟩ rfl)
  | prefixOp => exact .operator rfl (h.extend_plain ⟨rfl, rfl⟩ rfl)
  | parenOpen => exact .paren h balanced_nil
  | callOpen hd => exact .call h balanced_nil hd
  | @separator text ops rest c hb hops =>
    rw [hb, append_iff hops] at h
    cases h with
    | operator hp => cases hp
    | @call _ outer inner name d h hi hd =>
      -- The separator stands directly inside the call, which counts it.
      have hsep : Balanced [Token.separator text] := balanced_singleton ⟨rfl, rfl⟩
      have hcount : OpenCall.containing name d (inner ++ [.separator text]) =
          { OpenCall.containing name d inner with
            count := (OpenCall.containing name d inner).count + 1 } := by
        unfold OpenCall.containing
        rw [separators_append hi, separators_singleton]
        rfl
      rw [List.append_assoc, ← hcount]
      exact .call h (hi.append hsep) hd
  | closeParen ht hb hops =>
    rw [hb, append_iff hops] at h
    cases h with
    | operator hp => cases hp
    | paren h hi => exact h.extend_close rfl hi ht
  | closeCall ht hb hops =>
    rw [hb, append_iff hops] at h
    cases h with
    | operator hp => cases hp
    | call h hi => exact h.extend_close rfl hi ht

/-- **One token** keeps what the builder remembers in step with what has been read. -/
theorem Tracks.step (h : Tracks functions before b) (hs : Builder.Step functions b t b') :
    Tracks functions (before ++ [t]) b' :=
  ⟨hs.previous_eq h.previous, h.scopes.step hs⟩

/-- The innermost bracket that stands open, as the builder sees it. -/
theorem Tracks.exists_scope (h : Tracks functions before b) :
    ∃ emitted rest, b.flush = .of emitted rest b.previous ∧
      (∀ p ∈ rest.head?, p.isOperator = false) ∧ Scopes functions rest before := by
  obtain ⟨ops, rest, hb, hops, hrest, hflush⟩ := b.exists_segment
  refine ⟨_, rest, hflush, hrest, ?_⟩
  rw [← Scopes.append_iff hops, ← hb]
  exact h.scopes

/-- A call cannot be completed if its arguments cannot be counted, or are too many or too few. -/
theorem Builder.closeCall_eq_error_iff {c : OpenCall} :
    b.closeCall c = .error e ↔ argumentCount b.previous c = .error e ∨
      ∃ n, argumentCount b.previous c = .ok n ∧ checkArity c n = .error e := by
  simp only [Builder.closeCall, bind_eq_error_iff, pure, Except.pure]
  refine or_congr_right (exists_congr fun n => and_congr_right fun _ => ?_)
  simp

/-- Only a call whose function has a fixed number of arguments can have a wrong one. -/
theorem Builder.checkArity_eq_error_iff {c : OpenCall} {n : Nat} :
    checkArity c n = .error e ↔
      ∃ k, c.arity = some k ∧ n ≠ k ∧ e = .argumentCount c.name k n := by
  unfold checkArity
  cases c.arity with
  | none => simp
  | some k => by_cases hn : n = k <;> simp [hn, eq_comm]

/-- The two ways in which arguments are bad, side by side. -/
theorem badArguments_iff {name : String} {slots : List ArgSlot} :
    BadArguments name inner slots e ↔
      (∃ rest, slots = .required :: rest ∧ IsBlank inner ∧ e = .missingArgument name 0) ∨
      ((IsBlank inner → ∃ default rest, slots = .optional default :: rest) ∧
        slots.length ≠ separators inner + 1 ∧
        e = .argumentCount name slots.length (separators inner + 1)) := by
  constructor
  · rintro (hblank | ⟨hblank, hn⟩)
    · exact .inl ⟨_, rfl, hblank, rfl⟩
    · exact .inr ⟨hblank, hn, rfl⟩
  · rintro (⟨_, rfl, hblank, rfl⟩ | ⟨hblank, hn, rfl⟩)
    · exact .missing hblank
    · exact .count hblank hn

/-- **Closing a call** fails when its function has slots that do not take its arguments. -/
theorem Builder.closeCall_containing_iff {name : String} {d : FunctionDef}
    (hblank : b.previous = .callOpen ↔ IsBlank inner) :
    b.closeCall (.containing name d inner) = .error e ↔
      ∃ slots, d.slots = some slots ∧ BadArguments name inner slots e := by
  rw [closeCall_eq_error_iff]
  simp only [checkArity_eq_error_iff, badArguments_iff]
  by_cases hb : IsBlank inner
  · have hprev : b.previous = .callOpen := hblank.mpr hb
    have hn : separators inner = 0 := hb.balanced.2
    -- An empty call is treated as the first slot demands.
    rcases hd : d.slots with _ | (_ | ⟨_ | default, slots⟩) <;>
      simp [argumentCount, hprev, OpenCall.containing, OpenCall.start, FunctionDef.arity,
        FunctionDef.firstRequired, hd, hb, hn, @eq_comm _ e]
  · have hprev : b.previous ≠ .callOpen := mt hblank.mp hb
    cases hd : d.slots with
    | none =>
      simp [argumentCount, hprev, OpenCall.containing, OpenCall.start, FunctionDef.arity, hd]
    | some slots =>
      simp [argumentCount, hprev, OpenCall.containing, OpenCall.start, FunctionDef.arity, hd, hb,
        @eq_comm _ e, @eq_comm _ slots.length]

/-- What is wrong with a closing token. -/
theorem Violation.close_iff (ht : t.isClose = true) :
    Violation functions before t e ↔
      ((∀ o inner, ¬ Innermost before o inner) ∧ e = .unexpectedClose before.length) ∨
      ∃ name inner d slots, Innermost before (.callOpen name) inner ∧
        functions.get? name = some d ∧ d.slots = some slots ∧
        BadArguments name inner slots e := by
  constructor
  · intro h
    cases h with
    | unexpectedClose _ hopen => exact .inl ⟨hopen, rfl⟩
    | badArguments _ hopen hd hslots h => exact .inr ⟨_, _, _, _, hopen, hd, hslots, h⟩
    | _ => cases ht
  · rintro (⟨hopen, rfl⟩ | ⟨name, inner, d, slots, hopen, hd, hslots, h⟩)
    · exact .unexpectedClose ht hopen
    · exact .badArguments ht hopen hd hslots h

/-- **A closing token** fails if no bracket stands open, or if it closes a call with arguments
    that do not fit. -/
theorem Tracks.close_error_iff (h : Tracks functions before b) (ht : t.isClose = true) :
    b.close before.length = .error e ↔ Violation functions before t e := by
  obtain ⟨emitted, rest, hflush, hrest, hscopes⟩ := h.exists_scope
  rw [Violation.close_iff ht]
  simp only [Builder.close, hflush, Builder.of_pending]
  cases hscopes with
  | operator hp => simp [hp] at hrest
  | balanced hb =>
    have hopen : ∀ o inner, ¬ Innermost before o inner := fun o inner => hb.not_innermost
    constructor
    · rintro ⟨⟩
      exact .inl ⟨hopen, rfl⟩
    · rintro (⟨-, rfl⟩ | ⟨_, _, _, _, h, -⟩)
      · rfl
      · exact absurd h (hopen _ _)
  | @paren _ outer inner _ hi =>
    have hopen : Innermost (outer ++ .parenOpen :: inner) .parenOpen inner := ⟨rfl, hi, outer, rfl⟩
    refine iff_of_false (by rintro ⟨⟩) ?_
    rintro (⟨hnone, -⟩ | ⟨_, _, _, _, h, -⟩)
    · exact hnone _ _ hopen
    · cases (hopen.unique h).1
  | @call _ outer inner name d _ hi hd =>
    have hopen : Innermost (outer ++ .callOpen name :: inner) (.callOpen name) inner :=
      ⟨rfl, hi, outer, rfl⟩
    have hblank : b.previous = .callOpen ↔ IsBlank inner := by
      rw [h.previous]
      exact after_eq_callOpen_iff hi
    refine (Builder.closeCall_containing_iff (b := .of emitted _ b.previous) hblank).trans ?_
    constructor
    · rintro ⟨slots, hslots, hbad⟩
      exact .inr ⟨name, inner, d, slots, hopen, hd, hslots, hbad⟩
    · rintro (⟨hnone, -⟩ | ⟨name', inner', d', slots, h, hd', hslots, hbad⟩)
      · exact absurd hopen (hnone _ _)
      · -- The call of the violation is the one that the builder is about to close.
        obtain ⟨hname, rfl⟩ := hopen.unique h
        cases hname
        rw [hd] at hd'
        cases hd'
        exact ⟨slots, hslots, hbad⟩

/-- **A separator** fails if the innermost open bracket is not a call. -/
theorem Tracks.separate_error_iff {text : String} (h : Tracks functions before b) :
    b.separate before.length (.separator text) = .error e ↔
      (∀ name inner, ¬ Innermost before (.callOpen name) inner) ∧
        e = .unexpectedSeparator (.separator text) before.length := by
  obtain ⟨emitted, rest, hflush, hrest, hscopes⟩ := h.exists_scope
  simp only [Builder.separate, hflush, Builder.of_pending]
  -- What the segment stands on decides: only a call has arguments to separate.
  cases hscopes with
  | operator hp => simp [hp] at hrest
  | balanced hb =>
    rw [Except.error.injEq, eq_comm]
    exact (and_iff_right fun name inner => hb.not_innermost).symm
  | @paren _ outer inner _ hi =>
    have hopen : Innermost (outer ++ .parenOpen :: inner) .parenOpen inner := ⟨rfl, hi, outer, rfl⟩
    rw [Except.error.injEq, eq_comm]
    refine (and_iff_right fun name inner' h' => ?_).symm
    cases (hopen.unique h').1
  | @call _ outer inner name d _ hi hd =>
    exact iff_of_false (by rintro ⟨⟩) fun h => h.1 name inner ⟨rfl, hi, outer, rfl⟩

/-- The builder knows whether a value ends where it stands. -/
theorem Tracks.previous_eq_value_iff (h : Tracks functions before b) :
    b.previous = .value ↔ EndsValue before := by
  rw [h.previous, endsValue_iff]

/-- The builder fails only at a token that violates a rule. -/
theorem Tracks.violation_of_step (h : Tracks functions before b)
    (he : b.step functions before.length t = .error e) : Violation functions before t e := by
  cases t with
  | parenClose | callClose => exact (h.close_error_iff rfl).mp he
  | separator text =>
    obtain ⟨hopen, rfl⟩ := h.separate_error_iff.mp he
    exact .unexpectedSeparator hopen
  -- The builder tests what it remembers, and the rule says where a value ends.
  | infixOp symbol =>
    simp only [Builder.step] at he
    split at he
    · cases he
    · next hv =>
      cases he
      exact .unexpectedOperator (mt h.previous_eq_value_iff.mpr hv)
  | parenOpen =>
    simp only [Builder.step] at he
    split at he
    · next hv =>
      cases he
      exact .missingOperator (h.previous_eq_value_iff.mp hv)
    · cases he
  | callOpen name =>
    simp only [Builder.step, Builder.openCall] at he
    split at he
    · next hd =>
      cases he
      exact .unknownFunction hd
    · cases he
  | unrecognized kind subtype value =>
    cases he
    exact .unrecognizedToken
  | _ => cases he

/-- The builder fails at each token that violates a rule. -/
theorem Tracks.step_of_violation (h : Tracks functions before b)
    (hv : Violation functions before t e) : b.step functions before.length t = .error e := by
  cases hv with
  | unrecognizedToken => rfl
  | unknownFunction hd => simp only [Builder.step, Builder.openCall, hd]
  | unexpectedOperator hv => exact if_neg (mt h.previous_eq_value_iff.mp hv)
  | missingOperator hv => exact if_pos (h.previous_eq_value_iff.mpr hv)
  | unexpectedSeparator hopen => exact h.separate_error_iff.mpr ⟨hopen, rfl⟩
  | unexpectedClose ht hopen =>
    rw [Builder.step_close ht, h.close_error_iff ht]
    exact .unexpectedClose ht hopen
  | badArguments ht hopen hd hslots hbad =>
    rw [Builder.step_close ht, h.close_error_iff ht]
    exact .badArguments ht hopen hd hslots hbad

/-- **Errors are violations.**  The builder fails at a token if the token violates a rule, with
    the error of that rule. -/
theorem Tracks.step_error_iff (h : Tracks functions before b) :
    b.step functions before.length t = .error e ↔ Violation functions before t e :=
  ⟨h.violation_of_step, h.step_of_violation⟩

/-- A token that can be read breaks no rule. -/
theorem Tracks.not_violation (h : Tracks functions before b)
    (hs : Builder.Step functions b t b') (e : SyntaxError) : ¬ Violation functions before t e := by
  intro he
  have hstep := h.step_of_violation he
  rw [hs.step_eq] at hstep
  cases hstep

/-! ### A sequence of tokens -/

theorem clean_nil : Clean functions [] := by
  intro before t after h
  simp at h

/-- One token more is clean if it violates no rule. -/
theorem Clean.concat (h : Clean functions before) (ht : ∀ e, ¬ Violation functions before t e) :
    Clean functions (before ++ [t]) := by
  intro mid u after heq e
  -- The token in question is the new one, or one of those before it.
  rcases List.eq_nil_or_concat after with rfl | ⟨after, v, rfl⟩
  · obtain ⟨rfl, hu⟩ := List.append_inj' heq rfl
    cases hu
    exact ht e
  · rw [List.concat_eq_append, ← List.cons_append, ← List.append_assoc] at heq
    exact h mid u after (List.append_inj' heq rfl).1 e

/-- Once a token violates a rule, the tokens after it do not matter. -/
theorem firstViolation_iff {after : List Token} {e' : SyntaxError}
    (h : Clean functions before) (ht : Violation functions before t e') :
    FirstViolation functions (before ++ t :: after) e ↔ Violation functions before t e := by
  constructor
  · rintro ⟨mid, u, rest, heq, hmid, hu⟩
    -- The token with the first violation can stand neither behind nor before the given one.
    rcases List.append_eq_append_iff.mp heq with ⟨a, rfl, ha⟩ | ⟨a, rfl, ha⟩
    · cases a with
      | nil =>
        cases ha
        rwa [List.append_nil] at hu
      | cons v a =>
        cases (List.cons.inj ha).1
        exact absurd ht (hmid before t a rfl e')
    · cases a with
      | nil =>
        cases ha
        rwa [List.append_nil]
      | cons v a =>
        cases (List.cons.inj ha).1
        exact absurd hu (h mid u a rfl e)
  · exact fun hv => ⟨before, t, after, rfl, h, hv⟩

/-- **Runs that fail** do so with the first violation. -/
theorem Tracks.read_error_iff (h : Tracks functions before b) (hclean : Clean functions before) :
    b.read functions before.length ts = .error e ↔ FirstViolation functions (before ++ ts) e := by
  -- The induction is on the tokens still to come; those read so far are clean.
  induction ts generalizing before b with
  | nil =>
    rw [List.append_nil]
    refine iff_of_false nofun ?_
    rintro ⟨mid, t, after, rfl, -, ht⟩
    exact hclean mid t after rfl e ht
  | cons t ts ih =>
    rw [Builder.read, bind_eq_error_iff]
    cases hstep : b.step functions before.length t with
    | error e' =>
      rw [firstViolation_iff hclean (h.step_error_iff.mp hstep), ← h.step_error_iff, hstep]
      simp
    | ok b' =>
      have hs : Builder.Step functions b t b' := .of_step hstep
      have hrest := ih (h.step hs) (hclean.concat (h.not_violation hs))
      rw [List.append_assoc, List.singleton_append, List.length_append] at hrest
      rw [← hrest]
      simp

/-- **Runs that succeed** keep the invariant, and violate no rule. -/
theorem Tracks.reads (h : Tracks functions before b) (hclean : Clean functions before)
    (hs : Builder.Reads functions b ts b') :
    Tracks functions (before ++ ts) b' ∧ Clean functions (before ++ ts) := by
  induction hs generalizing before with
  | nil =>
    rw [List.append_nil]
    exact ⟨h, hclean⟩
  | @cons _ _ _ t ts hs _ ih =>
    have hrest := ih (h.step hs) (hclean.concat (h.not_violation hs))
    rwa [List.append_assoc] at hrest

/-- Tokens can be read if none of them violates a rule. -/
theorem exists_reads_iff :
    (∃ b, Builder.Reads functions .initial ts b) ↔ Clean functions ts := by
  constructor
  · rintro ⟨b, hs⟩
    exact (tracks_initial.reads clean_nil hs).2
  · intro h
    cases hread : Builder.initial.read functions 0 ts with
    | ok b => exact ⟨b, Builder.read_eq_ok_iff.mp hread⟩
    | error e =>
      have hfirst := (tracks_initial.read_error_iff clean_nil).mp hread
      -- Reading stops at a violation only, and there is none.
      obtain ⟨before, t, after, heq, -, ht⟩ := hfirst
      exact absurd ht (h before t after heq e)

/-- After tokens that were read, the brackets that are held back are those that stand open. -/
theorem Builder.Reads.scopes (hs : Reads functions .initial ts b) :
    Scopes functions b.pending ts :=
  (tracks_initial.reads clean_nil hs).1.scopes

/-! ### Programs -/

/-- **The language of formulas.**  A program is built for well-formed sequences of tokens, and for
    no others. -/
theorem Program.exists_ofTokens_iff :
    (∃ p, Program.ofTokens functions ts = .ok p) ↔ WellFormed functions ts := by
  rw [wellFormed_iff, ← exists_reads_iff]
  simp only [ofTokens_eq_ok_iff]
  constructor
  · rintro ⟨_, b, hs, hops, -⟩
    exact ⟨⟨b, hs⟩, hs.scopes.balanced_iff.mp hops⟩
  · rintro ⟨⟨b, hs⟩, hbalanced⟩
    exact ⟨_, b, hs, hs.scopes.balanced_iff.mpr hbalanced, rfl⟩

/-- **The errors.**  What is reported is the first rule that is broken, or else a bracket that stays
    open. -/
theorem Program.ofTokens_eq_error_iff :
    Program.ofTokens functions ts = .error e ↔
      FirstViolation functions ts e ∨
        (e = .unmatchedOpen ∧ Clean functions ts ∧ ∃ o inner, Innermost ts o inner) := by
  simp only [ofTokens, bind_eq_error_iff, Builder.read_eq_ok_iff, Builder.finish_eq]
  -- Either a token fails, or all of them can be read and a bracket is left open.
  refine or_congr (tracks_initial.read_error_iff clean_nil) ?_
  rw [← exists_reads_iff]
  constructor
  · rintro ⟨b, hs, hfinish⟩
    split at hfinish
    · cases hfinish
    · next hops =>
      cases hfinish
      have hopen : ¬ Balanced ts := mt hs.scopes.balanced_iff.mpr hops
      exact ⟨rfl, ⟨b, hs⟩, hs.scopes.balanced_or_innermost.resolve_left hopen⟩
  · rintro ⟨rfl, ⟨b, hs⟩, o, inner, hi⟩
    have hopen : ¬ Balanced ts := fun hb => hb.not_innermost hi
    exact ⟨b, hs, if_neg (mt hs.scopes.balanced_iff.mp hopen)⟩

/-- **The language, and what is wrong with the rest.**  A sequence of tokens has a program exactly
    if it is well-formed.  If it is not, the error is the first violation of a rule, or, without
    any, that a bracket stays open. -/
theorem Program.ofTokens_language (functions : FunctionTable) (tokens : List Token) :
    ((∃ p, Program.ofTokens functions tokens = .ok p) ↔ WellFormed functions tokens) ∧
      ∀ e, Program.ofTokens functions tokens = .error e ↔
        FirstViolation functions tokens e ∨
          (e = .unmatchedOpen ∧ Clean functions tokens ∧ ∃ o inner, Innermost tokens o inner) :=
  ⟨exists_ofTokens_iff, fun _ => ofTokens_eq_error_iff⟩

end SheetFormula
