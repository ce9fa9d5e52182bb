import SheetFormula.Proofs.OperandSequence
import SheetFormula.Proofs.Regrouping

namespace SheetFormula

/-!
# Default arguments

An argument that is left out stands for the default of its slot: to write the default out, in any
call of a formula, changes nothing.

* `Arguments.FillsGap` — an argument that is left out is given instead.
* `Formula.WritesDefault` — this is done in one call of a formula, with the default of the slot.
* `Formula.WritesDefault.tokens` — in the infix spelling it inserts one token, in a gap.
* `Formula.WritesDefault.regroup` — the formula is grouped as before.
* `Formula.WritesDefault.value_eq` — it has the value that it had.
* `Evaluator.ofTokens_writesDefault` — hence an evaluator of the one is as good as an evaluator of
  the other.
-/

/-! ### Writing a default out -/

/-- The second arguments are the first ones with `t` given in the place of argument `i`, which is
    left out of them. -/
inductive Arguments.FillsGap (t : Token) : Nat → Arguments → Arguments → Prop
  | here {rest : Arguments} : FillsGap t 0 (.omitted rest) (.given (.operand t) rest)
  | given {i : Nat} {first : Formula} {rest rest' : Arguments} (h : FillsGap t i rest rest') :
    FillsGap t (i + 1) (.given first rest) (.given first rest')
  | omitted {i : Nat} {rest rest' : Arguments} (h : FillsGap t i rest rest') :
    FillsGap t (i + 1) (.omitted rest) (.omitted rest')

mutual

/-- The second formula is the first one with `t` given in one call, anywhere in it, in the place
    of an argument that is left out and has the default `t`. -/
inductive Formula.WritesDefault (functions : FunctionTable) (t : Token) :
    Formula → Formula → Prop
  | infixLeft {s : String} {l l' r : Formula} (h : Formula.WritesDefault functions t l l') :
    Formula.WritesDefault functions t (.infixOp s l r) (.infixOp s l' r)
  | infixRight {s : String} {l r r' : Formula} (h : Formula.WritesDefault functions t r r') :
    Formula.WritesDefault functions t (.infixOp s l r) (.infixOp s l r')
  | prefixOp {s : String} {a a' : Formula} (h : Formula.WritesDefault functions t a a') :
    Formula.WritesDefault functions t (.prefixOp s a) (.prefixOp s a')
  | group {f f' : Formula} (h : Formula.WritesDefault functions t f f') :
    Formula.WritesDefault functions t (.group f) (.group f')
  | here {name : String} {args args' : Arguments} {d : FunctionDef} {slots : List ArgSlot} {i : Nat}
    (hd : functions.get? name = some d) (hslots : d.slots = some slots)
    (hi : slots[i]? = some (.optional t)) (h : args.FillsGap t i args') :
    Formula.WritesDefault functions t (.call name args) (.call name args')
  | inside {name : String} {args args' : Arguments}
    (h : Arguments.WriteDefault functions t args args') :
    Formula.WritesDefault functions t (.call name args) (.call name args')

/-- The same inside one of some arguments. -/
inductive Arguments.WriteDefault (functions : FunctionTable) (t : Token) :
    Arguments → Arguments → Prop
  | first {f f' : Formula} {rest : Arguments} (h : Formula.WritesDefault functions t f f') :
    Arguments.WriteDefault functions t (.given f rest) (.given f' rest)
  | given {f : Formula} {rest rest' : Arguments}
    (h : Arguments.WriteDefault functions t rest rest') :
    Arguments.WriteDefault functions t (.given f rest) (.given f rest')
  | omitted {rest rest' : Arguments} (h : Arguments.WriteDefault functions t rest rest') :
    Arguments.WriteDefault functions t (.omitted rest) (.omitted rest')

end

section
variable {functions : FunctionTable} {t : Token} {f f' : Formula} {args args' : Arguments}
  {i : Nat}

/-! ### Nodes -/

/-- A gap counts as an argument, so filling it adds none. -/
theorem Arguments.FillsGap.count_eq (h : args.FillsGap t i args') : args'.count = args.count := by
  induction h with
  | here => rfl
  | given _ ih | omitted _ ih => exact congrArg (· + 1) ih

/-- Where a gap is filled, something is given. -/
theorem Arguments.FillsGap.ne_omitted (h : args.FillsGap t i args') :
    args' ≠ .omitted .none := by
  cases h with
  | here | given => simp
  | omitted h => cases h <;> simp

/-- A rule about all operands holds of the filled arguments if it holds of the new one. -/
theorem Arguments.FillsGap.all {P : NodeRule} (ht : P.operand t) (h : args.FillsGap t i args')
    (hargs : args.All P) : args'.All P := by
  induction h with
  | here => exact ⟨ht, hargs⟩
  | given _ ih => exact ⟨hargs.1, ih hargs.2⟩
  | omitted _ ih => exact ih hargs

/-- Nor does a default that is written further inside add an argument. -/
theorem Arguments.WriteDefault.count_eq :
    {args args' : Arguments} → args.WriteDefault functions t args' → args'.count = args.count
  | _, _, .first _ => rfl
  | _, _, .given h | _, _, .omitted h => congrArg (· + 1) h.count_eq

/-- A gap alone has nothing inside it to write into. -/
theorem Arguments.WriteDefault.ne_omitted (h : args.WriteDefault functions t args') :
    args' ≠ .omitted .none := by
  cases h with
  | first | given => simp
  | omitted h => cases h <;> simp

/-- Writing a default leaves the node at the top as it is, and so its rank. -/
theorem Formula.WritesDefault.rank_eq (h : f.WritesDefault functions t f') :
    f'.rank = f.rank := by
  cases h <;> rfl

mutual

/-- A rule on the nodes holds as before, if the default keeps it and a call keeps it that has as
    many arguments as before. -/
theorem Formula.WritesDefault.all {P : NodeRule} (ht : P.operand t)
    (hcall : ∀ name args args', args'.count = args.count → args' ≠ .omitted .none →
      P.call name args → P.call name args') :
    {f f' : Formula} → f.WritesDefault functions t f' → f.All P → f'.All P
  | _, _, .infixLeft h, ⟨hs, hl, hr⟩ => ⟨hs, h.all ht hcall hl, hr⟩
  | _, _, .infixRight h, ⟨hs, hl, hr⟩ => ⟨hs, hl, h.all ht hcall hr⟩
  | _, _, .prefixOp h, ⟨hs, ha⟩ => ⟨hs, h.all ht hcall ha⟩
  | _, _, .group h, hf => h.all ht hcall hf
  | _, _, .here _ _ _ h, ⟨hname, hargs⟩ =>
    ⟨hcall _ _ _ h.count_eq h.ne_omitted hname, h.all ht hargs⟩
  | _, _, .inside h, ⟨hname, hargs⟩ =>
    ⟨hcall _ _ _ h.count_eq h.ne_omitted hname, h.all ht hcall hargs⟩

/-- The same for arguments with the default written inside one of them. -/
theorem Arguments.WriteDefault.all {P : NodeRule} (ht : P.operand t)
    (hcall : ∀ name args args', args'.count = args.count → args' ≠ .omitted .none →
      P.call name args → P.call name args') :
    {args args' : Arguments} → args.WriteDefault functions t args' → args.All P → args'.All P
  | _, _, .first h, ⟨hf, hr⟩ => ⟨h.all ht hcall hf, hr⟩
  | _, _, .given h, ⟨hf, hr⟩ => ⟨hf, h.all ht hcall hr⟩
  | _, _, .omitted h, hr => h.all ht hcall hr

end

/-- The functions can be called with the new arguments. -/
theorem Formula.WritesDefault.fits (h : f.WritesDefault functions t f')
    (hf : f.Fits functions) : f'.Fits functions := by
  rw [Formula.fits_iff_all] at hf ⊢
  refine h.all trivial ?_ hf
  rintro name args args' hcount hne ⟨d, hd, htakes⟩
  refine ⟨d, hd, FunctionDef.takes_of_count hne fun k hk => ?_⟩
  rw [hcount]
  exact htakes.arity_eq hk

/-! ### Tokens -/

/-- Is there a gap between these tokens, where an argument of a call is left out? -/
def IsGap (functions : FunctionTable) (before after : List Token) : Prop :=
  ∃ l u, before.getLast? = some l ∧ after.head? = some u ∧ leavesOut functions l u = true

/-- The second tokens are the first ones with `t` inserted in a gap. -/
def InsertsInGap (functions : FunctionTable) (t : Token) (ts ts' : List Token) : Prop :=
  ∃ before after, ts = before ++ after ∧ ts' = before ++ t :: after ∧ IsGap functions before after

namespace InsertsInGap

variable {ts ts' : List Token} {l u : Token}

/-- The default stands between two tokens that leave an argument out. -/
theorem gap (h : leavesOut functions l u = true) (us : List Token) :
    InsertsInGap functions t (l :: u :: us) (l :: t :: u :: us) :=
  ⟨[l], u :: us, rfl, rfl, l, u, rfl, rfl, h⟩

/-- Tokens in front of the gap make no difference. -/
theorem append_left (h : InsertsInGap functions t ts ts') (us : List Token) :
    InsertsInGap functions t (us ++ ts) (us ++ ts') := by
  obtain ⟨before, after, rfl, rfl, l, u, hl, hu, hgap⟩ := h
  refine ⟨us ++ before, after, by simp, by simp, l, u, ?_, hu, hgap⟩
  rw [List.getLast?_append, hl, Option.some_or]

theorem cons (h : InsertsInGap functions t ts ts') (u : Token) :
    InsertsInGap functions t (u :: ts) (u :: ts') := h.append_left [u]

theorem append_right (h : InsertsInGap functions t ts ts') (us : List Token) :
    InsertsInGap functions t (ts ++ us) (ts' ++ us) := by
  obtain ⟨before, after, rfl, rfl, l, u, hl, hu, hgap⟩ := h
  refine ⟨before, after ++ us, by simp, by simp, l, u, hl, ?_, hgap⟩
  rw [List.head?_append, hu, Option.some_or]

end InsertsInGap

/-- What follows an argument is a separator or the end of the call. -/
theorem Arguments.exists_moreTokens (args : Arguments) :
    ∃ u us, args.moreTokens ++ [.callClose] = u :: us ∧
      (u.isSeparator = true ∨ u = .callClose) := by
  cases args with
  | none => exact ⟨_, _, rfl, .inr rfl⟩
  | given first rest => exact ⟨_, _, rfl, .inl rfl⟩
  | omitted rest => exact ⟨_, _, rfl, .inl rfl⟩

/-- In the arguments after the first one, the gap comes after a separator. -/
theorem Arguments.FillsGap.moreTokens (functions : FunctionTable)
    (h : args.FillsGap t i args') :
    InsertsInGap functions t (args.moreTokens ++ [.callClose])
      (args'.moreTokens ++ [.callClose]) := by
  induction h with
  -- The gap is seen from the separator in front of it and the token after it.
  | @here rest =>
    obtain ⟨u, us, heq, hu⟩ := rest.exists_moreTokens
    have hgap : leavesOut functions Arguments.separator u = true := by
      rcases hu with hu | rfl
      · simp [leavesOut, Arguments.separator, hu]
      · rfl
    simp only [Arguments.moreTokens, Formula.tokens, List.cons_append, List.nil_append, heq]
    exact .gap hgap us
  | given _ ih =>
    simp only [Arguments.moreTokens, List.cons_append, List.append_assoc]
    exact (ih.append_left _).cons _
  | omitted _ ih => exact ih.cons _

/-- In all the arguments of a call, the gap may also come right after the opening token.  The
    function has a slot, so that this is no call without arguments. -/
theorem Arguments.FillsGap.tokens {name : String} {d : FunctionDef} {slots : List ArgSlot}
    {slot : ArgSlot} (hd : functions.get? name = some d) (hslots : d.slots = some slots)
    (hi : slots[i]? = some slot) (h : args.FillsGap t i args') :
    InsertsInGap functions t (Formula.call name args).tokens (Formula.call name args').tokens := by
  cases h with
  | @here rest =>
    obtain ⟨u, us, heq, hu⟩ := rest.exists_moreTokens
    -- The function has a slot to fill, so an empty pair of brackets is a gap as well.
    have hslot : functions.takesNone name = false := by
      cases slots with
      | nil => cases hi
      | cons slot slots => simp [FunctionTable.takesNone, hd, FunctionDef.arity, hslots]
    have hgap : leavesOut functions (.callOpen name) u = true := by
      rcases hu with hu | rfl
      · simp [leavesOut, hu]
      · simp [leavesOut, hslot, Token.isSeparator, Token.isClose]
    simp only [Formula.tokens, Arguments.tokens, List.cons_append, List.nil_append, heq]
    exact .gap hgap us
  | given h =>
    simp only [Formula.tokens, Arguments.tokens, List.cons_append, List.append_assoc]
    exact ((h.moreTokens functions).append_left _).cons _
  | omitted h => exact (h.moreTokens functions).cons _

mutual

/-- **One token is inserted**, in a gap. -/
theorem Formula.WritesDefault.tokens :
    {f f' : Formula} → f.WritesDefault functions t f' →
      InsertsInGap functions t f.tokens f'.tokens
  | _, _, .infixLeft h => h.tokens.append_right _
  | _, _, .infixRight h => (h.tokens.cons _).append_left _
  | _, _, .prefixOp h => h.tokens.cons _
  | _, _, .group h => (h.tokens.cons _).append_right _
  | _, _, .here hd hslots hi h => h.tokens hd hslots hi
  | _, _, .inside h => (h.tokens.1.cons _).append_right _

/-- The same for the tokens of arguments, the first ones and those that follow. -/
theorem Arguments.WriteDefault.tokens :
    {args args' : Arguments} → args.WriteDefault functions t args' →
      InsertsInGap functions t args.tokens args'.tokens ∧
        InsertsInGap functions t args.moreTokens args'.moreTokens
  | _, _, .first h => ⟨h.tokens.append_right _, (h.tokens.cons _).append_right _⟩
  | _, _, .given h => ⟨h.tokens.2.append_left _, h.tokens.2.append_left _⟩
  | _, _, .omitted h => ⟨h.tokens.2, h.tokens.2.cons _⟩

end

/-! ### Grouping -/

namespace Formula.WritesDefault

variable {s : String} {admits : Nat → Prop} [DecidablePred admits] {wrap wrap' : Formula → Formula}

/-- An operator takes the same part of the formula before it. -/
theorem attach (right : Formula) :
    (f : Formula) → {f' : Formula} → f.WritesDefault functions t f' →
      (f.attach s right).WritesDefault functions t (f'.attach s right)
  | .infixOp s' l r, _, h => by
    -- The symbol of the node stays, and it alone decides whether the operator takes the node.
    cases h with
    | infixLeft h =>
      rw [Formula.attach, Formula.attach]
      split
      · exact .infixLeft (.infixLeft h)
      · exact .infixLeft h
    | infixRight h =>
      rw [Formula.attach, Formula.attach]
      split
      · exact .infixLeft (.infixRight h)
      · exact .infixRight (attach right r h)
  | .prefixOp s' a, _, h => by
    cases h with
    | prefixOp h =>
      rw [Formula.attach, Formula.attach]
      split
      · exact .infixLeft (.prefixOp h)
      · exact .prefixOp (attach right a h)
  | .group _, _, h => by
    cases h with
    | group h => exact .infixLeft (.group h)
  | .call _ _, _, h => by
    cases h with
    | here hd hslots hi h => exact .infixLeft (.here hd hslots hi h)
    | inside h => exact .infixLeft (.inside h)

/-- The same for what comes after it: only the rank of that matters. -/
theorem attach_right {right right' : Formula} (h : right.WritesDefault functions t right') :
    (f : Formula) → (f.attach s right).WritesDefault functions t (f.attach s right')
  | .infixOp s' l r => by
    -- How far the operator goes in depends on the rank of what it takes along, which is the same.
    rw [Formula.attach, Formula.attach, h.rank_eq]
    split
    · exact .infixRight h
    · exact .infixRight (h.attach_right r)
  | .prefixOp s' a => by
    rw [Formula.attach, Formula.attach, h.rank_eq]
    split
    · exact .infixRight h
    · exact .prefixOp (h.attach_right a)
  | .operand _ | .range _ | .group _ | .call _ _ => .infixRight h

/-- The same for a formula that gets something in front of it. -/
theorem insertFront
    (hwrap : ∀ g g' : Formula, g.WritesDefault functions t g' →
      (wrap g).WritesDefault functions t (wrap g')) :
    (f : Formula) → {f' : Formula} → f.WritesDefault functions t f' →
      (f.insertFront admits wrap).WritesDefault functions t (f'.insertFront admits wrap)
  | .infixOp s l r, _, h => by
    cases h with
    | infixLeft h =>
      rw [Formula.insertFront, Formula.insertFront]
      split
      -- The same branch is taken in both formulas, since writing a default changes no rank.
      · exact hwrap _ _ (.infixLeft h)
      · exact attach r _ (insertFront hwrap l h)
    | infixRight h =>
      rw [Formula.insertFront, Formula.insertFront]
      split
      · exact hwrap _ _ (.infixRight h)
      · exact attach_right h _
  | .prefixOp _ _, _, h => by
    cases h with
    | prefixOp h => exact hwrap _ _ (.prefixOp h)
  | .group _, _, h => by
    cases h with
    | group h => exact hwrap _ _ (.group h)
  | .call _ _, _, h => by
    cases h with
    | here hd hslots hi h => exact hwrap _ _ (.here hd hslots hi h)
    | inside h => exact hwrap _ _ (.inside h)

/-- The same for what comes in front of a formula. -/
theorem insertFront_wrap (hwrap : ∀ g : Formula, (wrap g).WritesDefault functions t (wrap' g)) :
    (f : Formula) →
      (f.insertFront admits wrap).WritesDefault functions t (f.insertFront admits wrap')
  | .infixOp s l r => by
    rw [Formula.insertFront, Formula.insertFront]
    split
    · exact hwrap _
    · exact attach r _ (insertFront_wrap hwrap l)
  | .operand _ | .range _ | .prefixOp _ _ | .group _ | .call _ _ => hwrap _

end Formula.WritesDefault

/-- Regrouping the other arguments does not move the gap. -/
theorem Arguments.FillsGap.regroup (h : args.FillsGap t i args') :
    args.regroup.FillsGap t i args'.regroup := by
  induction h with
  | here => exact .here
  | given _ ih => exact .given ih
  | omitted _ ih => exact .omitted ih

mutual

/-- **The grouping is the same**, with the default written out in it. -/
theorem Formula.WritesDefault.regroup :
    {f f' : Formula} → f.WritesDefault functions t f' →
      f.regroup.WritesDefault functions t f'.regroup
  | _, _, .infixLeft h => .insertFront_wrap (fun g => .attach g _ h.regroup) _
  | _, _, .infixRight h => .insertFront (fun _ _ hg => hg.attach_right _) _ h.regroup
  | _, _, .prefixOp h => .insertFront (fun _ _ hg => .prefixOp hg) _ h.regroup
  | _, _, .group h => .group h.regroup
  | _, _, .here hd hslots hi h => .here hd hslots hi h.regroup
  | _, _, .inside h => .inside h.regroup

/-- The same for arguments with the default written inside one of them. -/
theorem Arguments.WriteDefault.regroup :
    {args args' : Arguments} → args.WriteDefault functions t args' →
      args.regroup.WriteDefault functions t args'.regroup
  | _, _, .first h => .first h.regroup
  | _, _, .given h => .given h.regroup
  | _, _, .omitted h => .omitted h.regroup

end

/-! ### Values -/

/-- The values of the arguments are as before, but for one that was left out. -/
theorem Arguments.FillsGap.values (e : Environment) (h : args.FillsGap t i args') :
    args'.values e = (args.values e).map (fun ts => ts.set i t) ∧
      ∀ ts, args.values e = .ok ts → ts[i]? = some .omitted := by
  induction h with
  | @here rest =>
    rw [Arguments.values, Arguments.values]
    cases rest.values e with
    | error x => exact ⟨rfl, fun _ hts => nomatch hts⟩
    | ok ts =>
      -- The place in question is the first one: the mark in it gives way to the default.
      refine ⟨rfl, ?_⟩
      rintro _ ⟨⟩
      rfl
  | @given i first rest rest' h ih =>
    rw [Arguments.values, Arguments.values, ih.1]
    cases first.value e with
    | error x => exact ⟨rfl, fun _ hts => nomatch hts⟩
    | ok u =>
      cases hrest : rest.values e with
      | error x => exact ⟨rfl, fun _ hts => nomatch hts⟩
      | ok ts =>
        refine ⟨rfl, ?_⟩
        rintro _ ⟨⟩
        exact ih.2 ts hrest
  | @omitted i rest rest' h ih =>
    rw [Arguments.values, Arguments.values, ih.1]
    cases hrest : rest.values e with
    | error x => exact ⟨rfl, fun _ hts => nomatch hts⟩
    | ok ts =>
      refine ⟨rfl, ?_⟩
      rintro _ ⟨⟩
      exact ih.2 ts hrest

/-- The slots are filled in the same way. -/
theorem resolveSlotsFrom_set {slots : List ArgSlot} {ts : List Token} {k : Nat}
    (hslot : slots[i]? = some (.optional t)) (hts : ts[i]? = some .omitted) :
    resolveSlotsFrom k slots (ts.set i t) = resolveSlotsFrom k slots ts := by
  induction i generalizing slots ts k with
  | zero =>
    match slots, ts, hslot, hts with
    | _ :: slots, _ :: ts, hslot, hts =>
      cases hslot
      cases hts
      -- A default that is given and a default that is filled in are the same.
      have hfill : (ArgSlot.optional t).fill? (some t) =
          (ArgSlot.optional t).fill? (some .omitted) := by
        cases t <;> rfl
      simp only [List.set_cons_zero, resolveSlotsFrom, List.head?_cons, List.tail_cons, hfill]
  | succ i ih =>
    match slots, ts, hslot, hts with
    | slot :: slots, u :: ts, hslot, hts =>
      simp only [List.set_cons_succ, resolveSlotsFrom, List.head?_cons, List.tail_cons,
        ih (k := k + 1) hslot hts]

/-- One call gives the result that it gave. -/
theorem Arguments.FillsGap.value_eq {e : Environment} {name : String} {d : FunctionDef}
    {slots : List ArgSlot} (hd : e.functions.get? name = some d) (hslots : d.slots = some slots)
    (hi : slots[i]? = some (.optional t)) (h : args.FillsGap t i args') :
    (Formula.call name args').value e = (Formula.call name args).value e := by
  obtain ⟨hvalues, homitted⟩ := h.values e
  rw [Formula.value, Formula.value, hvalues, Environment.findFunction_registered hd]
  cases hargs : args.values e with
  | error x => rfl
  | ok ts =>
    -- The slots make the same of the arguments, with the default or with the gap.
    have hfilled : resolveSlots slots (ts.set i t) = resolveSlots slots ts :=
      resolveSlotsFrom_set hi (homitted ts hargs)
    show Environment.invoke name d (ts.set i t) = Environment.invoke name d ts
    simp only [Environment.invoke, hslots, hfilled]

mutual

/-- **The value is the same**, or the error: the other parts are computed as before. -/
theorem Formula.WritesDefault.value_eq {e : Environment} (he : e.functions = functions) :
    {f f' : Formula} → f.WritesDefault functions t f' → f'.value e = f.value e
  | _, _, .infixLeft h | _, _, .infixRight h => by
    rw [Formula.value, Formula.value, h.value_eq he]
  | _, _, .prefixOp h => by rw [Formula.value, Formula.value, h.value_eq he]
  | _, _, .group h => by rw [Formula.value, Formula.value, h.value_eq he]
  | _, _, .here hd hslots hi h => h.value_eq (he ▸ hd) hslots hi
  | _, _, .inside h => by rw [Formula.value, Formula.value, h.values_eq he]

/-- The arguments keep their values, the filled one because its slot has the default. -/
theorem Arguments.WriteDefault.values_eq {e : Environment} (he : e.functions = functions) :
    {args args' : Arguments} → args.WriteDefault functions t args' →
      args'.values e = args.values e
  | _, _, .first h => by rw [Arguments.values, Arguments.values, h.value_eq he]
  | _, _, .given h => by rw [Arguments.values, Arguments.values, h.values_eq he]
  | _, _, .omitted h => by rw [Arguments.values, Arguments.values, h.values_eq he]

end

/-! ### Evaluators -/

/-- **To leave an argument out is to write its default.**  Take a formula with values as leaves,
    whose calls have arguments that fit the table, and write out the default of one argument that
    is left out, in a call anywhere in the formula.  This inserts one token in a gap.  However the
    tokens around the gap are spelled, there is an evaluator with the token inserted and one
    without it, and for all inputs they yield the same token or the same error. -/
theorem Evaluator.ofTokens_writesDefault {operators : OperatorTable} (hv : f.All .values)
    (hf : f.Fits functions) (ht : t.isValue = true) (h : f.WritesDefault functions t f') :
    ∃ before after, f.tokens = before ++ after ∧ f'.tokens = before ++ t :: after ∧
      IsGap functions before after ∧
        ∀ us vs, us.filterMap Token.structural? = before.filterMap Token.structural? →
          vs.filterMap Token.structural? = after.filterMap Token.structural? →
            ∃ ev ev', ofTokens operators functions (us ++ vs) = .ok ev ∧
              ofTokens operators functions (us ++ t :: vs) = .ok ev' ∧
              ∀ inputs, ev'.evaluateToken inputs = ev.evaluateToken inputs := by
  obtain ⟨before, after, htokens, htokens', hgap⟩ := h.tokens
  refine ⟨before, after, htokens, htokens', hgap, fun us vs hus hvs => ?_⟩
  have hspelled : (us ++ vs).filterMap Token.structural? =
      f.tokens.filterMap Token.structural? := by
    rw [htokens, List.filterMap_append, List.filterMap_append, hus, hvs]
  have hspelled' : (us ++ t :: vs).filterMap Token.structural? =
      f'.tokens.filterMap Token.structural? := by
    rw [htokens', List.filterMap_append, List.filterMap_append, List.filterMap_cons,
      List.filterMap_cons, hus, hvs]
  have hv' : f'.All .values := h.all ht (fun _ _ _ _ _ _ => trivial) hv
  obtain ⟨ev, hev, hvalue⟩ := exists_ofTokens operators hv hf hspelled
  obtain ⟨ev', hev', hvalue'⟩ := exists_ofTokens operators hv' (h.fits hf) hspelled'
  refine ⟨ev, ev', hev, hev', fun inputs => ?_⟩
  -- What is read are the regrouped formulas, and one is the other with the default written out.
  rw [hvalue, hvalue']
  exact h.regroup.value_eq rfl

end

/-! ### A number of letters inserted -/

namespace DefaultArgumentsExample

open Formula

/-- The formula `LEN(LEFT(x, )) = SEARCH("b", x)`, with or without the number of letters. -/
def search (count : Option Token) : Formula :=
  let count : Arguments := count.elim (.omitted .none) fun t => .given (.operand t) .none
  infixOp "=" (call "LEN(" (.given (call "LEFT(" (.given (range "x") count)) .none))
    (call "SEARCH(" (.given (operand (.text "b")) (.given (range "x") .none)))

/-- The gap is the second argument of a call inside a call, on the left of `=`. -/
theorem search_writesDefault :
    (search none).WritesDefault .builtin (.ofInt 1) (search (some (.ofInt 1))) :=
  .infixLeft (.inside (.first (.here rfl rfl rfl (.given .here))))

/-- Each call has a function that takes its arguments. -/
theorem search_fits : (search none).Fits .builtin :=
  ⟨⟨⟨_, rfl, rfl⟩, ⟨⟨_, rfl, rfl⟩, trivial, trivial⟩, trivial⟩,
    ⟨⟨_, rfl, rfl⟩, trivial, trivial, trivial⟩⟩

end DefaultArgumentsExample

open DefaultArgumentsExample in
/-- One letter of a text, with the number of letters inserted. -/
theorem Evaluator.ofTokens_writesDefault_search :
    (search none).All .values ∧ (search none).Fits .builtin ∧
      (Token.ofInt 1).isValue = true ∧
      (search none).WritesDefault .builtin (.ofInt 1) (search (some (.ofInt 1))) ∧
      ∃ before after, (search none).tokens = before ++ after ∧
        (search (some (.ofInt 1))).tokens = before ++ .ofInt 1 :: after ∧
        IsGap .builtin before after ∧
          ∀ us vs, us.filterMap Token.structural? = before.filterMap Token.structural? →
            vs.filterMap Token.structural? = after.filterMap Token.structural? →
              ∃ ev ev', ofTokens .builtin .builtin (us ++ vs) = .ok ev ∧
                ofTokens .builtin .builtin (us ++ .ofInt 1 :: vs) = .ok ev' ∧
                ∀ inputs, ev'.evaluateToken inputs = ev.evaluateToken inputs := by
  have hv : (search none).All .values := by
    simp [search, Formula.All, Arguments.All, NodeRule.values, Token.isValue, Token.isOperand,
      Token.isRange]
  exact ⟨hv, search_fits, rfl, search_writesDefault,
    ofTokens_writesDefault hv search_fits rfl search_writesDefault⟩

end SheetFormula
