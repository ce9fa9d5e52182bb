import SheetFormula.Proofs.Execution
import SheetFormula.Proofs.ReadingBack

namespace SheetFormula

/-!
# Grouping by rank

A tree may give an operator an operand that its rank does not allow.  Its infix spelling can be
read all the same, but as another tree: the one with the same tokens in which each operator has
the operands that its rank allows.

* `Formula.attach` and `Formula.insertFront` — an operator takes its operands from the right edge
  of the formula before it and from the left edge of the formula after it.
* `Formula.regroup` — the tree that is read.  It has the same tokens (`Formula.tokens_regroup`),
  it is grouped (`Formula.isGrouped_regroup`), and it has the same nodes (`Formula.All.regroup`).
* `Evaluator.exists_ofTokens_of_isGrouped` and `Evaluator.exists_ofTokens` — each spelling of a
  formula has an evaluator, which gives the value of the regrouped formula.
-/

open Formula (TakesOperands)

variable {s s' : String} {left right right' : Nat}

/-! ### Regrouping -/

namespace Formula

/-- The formula before a symbol, the symbol, and its right operand.  The symbol takes as much of
    the right edge of the formula as its rank allows. -/
def attach : Formula → String → Formula → Formula
  | .infixOp s l r, symbol, right =>
    if TakesOperands symbol (Precedence.rank s) right.rank then
      .infixOp symbol (.infixOp s l r) right
    else .infixOp s l (r.attach symbol right)
  | .prefixOp s a, symbol, right =>
    if TakesOperands symbol Precedence.prefixRank right.rank then
      .infixOp symbol (.prefixOp s a) right
    else .prefixOp s (a.attach symbol right)
  | f, symbol, right => .infixOp symbol f right

/-- A formula with something new in front of it, which takes as much of the left edge of the
    formula as it admits: `wrap` is applied to what it takes. -/
def insertFront (admits : Nat → Prop) [DecidablePred admits] (wrap : Formula → Formula) :
    Formula → Formula
  | .infixOp s l r =>
    if admits (Precedence.rank s) then wrap (.infixOp s l r)
    else (l.insertFront admits wrap).attach s r
  | f => wrap f

end Formula

mutual

/-- **The tree that is read** from the infix spelling of a formula. -/
def Formula.regroup : Formula → Formula
  | .operand t => .operand t
  | .range name => .range name
  | .infixOp s l r =>
    r.regroup.insertFront (TakesOperands s Precedence.atomRank) (l.regroup.attach s)
  | .prefixOp s a => a.regroup.insertFront (Precedence.prefixRank ≤ ·) (.prefixOp s)
  | .group inner => .group inner.regroup
  | .call name args => .call name args.regroup

def Arguments.regroup : Arguments → Arguments
  | .none => .none
  | .given first rest => .given first.regroup rest.regroup
  | .omitted rest => .omitted rest.regroup

end

/-! ### Tokens -/

namespace Formula

/-- Attaching changes the grouping only: the tokens stay in their order. -/
theorem tokens_attach {right : Formula} :
    (f : Formula) → (f.attach s right).tokens = f.tokens ++ .infixOp s :: right.tokens
  -- Whether the symbol goes on top or into the right operand, it comes after the same tokens.
  | .infixOp s' l r => by
    rw [attach]
    split
    · rfl
    · rw [tokens, tokens, tokens_attach r, List.append_assoc, List.cons_append]
  | .prefixOp s' a => by
    rw [attach]
    split
    · rfl
    · rw [tokens, tokens, tokens_attach a, List.cons_append]
  | .operand _ | .range _ | .group _ | .call _ _ => rfl

/-- What is put in front stands before all tokens, however far down it goes. -/
theorem tokens_insertFront {admits : Nat → Prop} [DecidablePred admits]
    {wrap : Formula → Formula} {ts : List Token}
    (hwrap : ∀ g, (wrap g).tokens = ts ++ g.tokens) :
    (f : Formula) → (f.insertFront admits wrap).tokens = ts ++ f.tokens
  | .infixOp s l r => by
    rw [insertFront]
    split
    · exact hwrap _
    · rw [tokens_attach, l.tokens_insertFront hwrap, tokens, List.append_assoc]
  | .operand _ | .range _ | .prefixOp _ _ | .group _ | .call _ _ => hwrap _

end Formula

mutual

/-- Regrouping does not change the tokens. -/
theorem Formula.tokens_regroup : (f : Formula) → f.regroup.tokens = f.tokens
  | .operand _ | .range _ => rfl
  | .infixOp s l r => by
    -- What is put in front of the right operand is the left one with its symbol.
    have hwrap : ∀ g : Formula,
        (l.regroup.attach s g).tokens = (l.tokens ++ [.infixOp s]) ++ g.tokens := by
      intro g
      rw [Formula.tokens_attach, l.tokens_regroup, List.append_assoc, List.singleton_append]
    rw [Formula.regroup, Formula.tokens_insertFront hwrap, r.tokens_regroup, Formula.tokens,
      List.append_assoc, List.singleton_append]
  | .prefixOp s a => by
    have hwrap : ∀ g : Formula, (Formula.prefixOp s g).tokens = [.prefixOp s] ++ g.tokens :=
      fun _ => rfl
    rw [Formula.regroup, Formula.tokens_insertFront hwrap, a.tokens_regroup]
    rfl
  | .group inner => by rw [Formula.regroup, Formula.tokens, Formula.tokens, inner.tokens_regroup]
  | .call name args => by
    rw [Formula.regroup, Formula.tokens, Formula.tokens, args.tokens_regroup.1]

/-- Regrouping arguments keeps their tokens and the separators between them. -/
theorem Arguments.tokens_regroup :
    (args : Arguments) →
      args.regroup.tokens = args.tokens ∧ args.regroup.moreTokens = args.moreTokens
  | .none => ⟨rfl, rfl⟩
  | .given first rest => by
    simp only [Arguments.regroup, Arguments.tokens, Arguments.moreTokens, first.tokens_regroup,
      rest.tokens_regroup.2, and_self]
  | .omitted rest => by
    simp only [Arguments.regroup, Arguments.tokens, Arguments.moreTokens, rest.tokens_regroup.2,
      and_self]

end

/-! ### Ranks -/

namespace Formula

/-- A leaf may stand to the left of every symbol. -/
theorem TakesOperands.atom (h : TakesOperands s left right) :
    TakesOperands s Precedence.atomRank right := by
  unfold Precedence.atomRank
  rw [takesOperands_iff] at h ⊢
  omega

/-- What binds as tightly as a prefix operator may stand to the right of every symbol. -/
theorem takesOperands_atom (h : Precedence.prefixRank ≤ right) :
    TakesOperands s Precedence.atomRank right := by
  unfold Precedence.prefixRank at h
  unfold Precedence.atomRank
  rw [takesOperands_iff]
  rcases Precedence.rank_cases s with ⟨-, hs⟩ | ⟨-, hs⟩ <;> omega

/-- A symbol that does not take a node on its left binds tighter, so the node takes it on its
    right. -/
theorem TakesOperands.of_not (h : TakesOperands s Precedence.atomRank right)
    (hn : ¬ TakesOperands s (Precedence.rank s') right)
    (h' : TakesOperands s' left right') : TakesOperands s' left (Precedence.rank s) := by
  unfold Precedence.atomRank at h
  rw [takesOperands_iff] at h hn h' ⊢
  omega

/-- The same for a prefix operator. -/
theorem TakesOperands.prefixRank_le_of_not (h : TakesOperands s Precedence.atomRank right)
    (hn : ¬ TakesOperands s Precedence.prefixRank right) :
    Precedence.prefixRank ≤ Precedence.rank s := by
  unfold Precedence.atomRank at h
  unfold Precedence.prefixRank at hn ⊢
  rw [takesOperands_iff] at h hn
  omega

/-- The new node is on top, or the old one stays there. -/
theorem rank_attach (f : Formula) (s : String) (right : Formula) :
    (f.attach s right).rank = Precedence.rank s ∨ (f.attach s right).rank = f.rank := by
  cases f with
  | infixOp s' l r =>
    rw [attach]
    split
    · exact .inl rfl
    · exact .inr rfl
  | prefixOp s' a =>
    rw [attach]
    split
    · exact .inl rfl
    · exact .inr rfl
  | operand | range | group | call => exact .inl rfl

/-- **The operand on the left.** Each operator of the right edge keeps an operand that it may
    have. -/
theorem isGrouped_attach {right : Formula}
    (hs : TakesOperands s Precedence.atomRank right.rank) (hr : right.IsGrouped) :
    (f : Formula) → f.IsGrouped → (f.attach s right).IsGrouped
  | .infixOp s' l r, ⟨hrank, hgl, hgr⟩ => by
    rw [attach]
    split
    · next htakes => exact ⟨htakes, ⟨hrank, hgl, hgr⟩, hr⟩
    · next htakes =>
      -- The right operand grows; its rank is its own or that of the symbol it has taken in.
      refine ⟨?_, hgl, isGrouped_attach hs hr r hgr⟩
      rcases r.rank_attach s right with h | h
      · rw [h]
        exact hs.of_not htakes hrank
      · rw [h]
        exact hrank
  | .prefixOp s' a, ⟨hrank, hga⟩ => by
    rw [attach]
    split
    · next htakes => exact ⟨htakes, ⟨hrank, hga⟩, hr⟩
    · next htakes =>
      refine ⟨?_, isGrouped_attach hs hr a hga⟩
      rcases a.rank_attach s right with h | h
      · rw [h]
        exact hs.prefixRank_le_of_not htakes
      · rw [h]
        exact hrank
  | .operand _, hf | .range _, hf | .group _, hf | .call _ _, hf => ⟨hs, hf, hr⟩

/-- **The operand on the right.** What comes in front takes an operand that it admits. -/
theorem isGrouped_insertFront {admits : Nat → Prop} [DecidablePred admits]
    {wrap : Formula → Formula} (hadmits : ∀ k, Precedence.prefixRank ≤ k → admits k)
    (hwrap : ∀ g : Formula, g.IsGrouped → admits g.rank → (wrap g).IsGrouped) :
    (f : Formula) → f.IsGrouped → (f.insertFront admits wrap).IsGrouped
  | .infixOp s l r, ⟨hrank, hgl, hgr⟩ => by
    rw [insertFront]
    split
    · next h => exact hwrap _ ⟨hrank, hgl, hgr⟩ h
    · -- The rest of the formula is attached to what comes in front of its left operand.
      exact isGrouped_attach hrank.atom hgr _ (isGrouped_insertFront hadmits hwrap l hgl)
  | .prefixOp _ _, hf => hwrap _ hf (hadmits _ (Nat.le_refl _))
  | .operand _, hf | .range _, hf | .group _, hf | .call _ _, hf =>
    hwrap _ hf (hadmits Precedence.atomRank (by decide))

end Formula

/-! ### Nodes -/

/-- What the nodes of a formula have to satisfy, one condition for each kind of node. -/
structure NodeRule where
  operand : Token → Prop := fun _ => True
  infixOp : String → Prop := fun _ => True
  prefixOp : String → Prop := fun _ => True
  call : String → Arguments → Prop := fun _ _ => True

mutual

/-- Do all nodes satisfy the rule? -/
def Formula.All (P : NodeRule) : Formula → Prop
  | .operand t => P.operand t
  | .range _ => True
  | .infixOp s left right => P.infixOp s ∧ left.All P ∧ right.All P
  | .prefixOp s argument => P.prefixOp s ∧ argument.All P
  | .group inner => inner.All P
  | .call name args => P.call name args ∧ args.All P

def Arguments.All (P : NodeRule) : Arguments → Prop
  | .none => True
  | .given first rest => first.All P ∧ rest.All P
  | .omitted rest => rest.All P

end

section
variable {P Q : NodeRule}

/-- Does the one rule follow from the other, for each kind of node? -/
structure NodeRule.Implies (P Q : NodeRule) : Prop where
  operand : ∀ t, P.operand t → Q.operand t
  infixOp : ∀ s, P.infixOp s → Q.infixOp s
  prefixOp : ∀ s, P.prefixOp s → Q.prefixOp s
  call : ∀ name args, P.call name args → Q.call name args

mutual

/-- A property of nodes may be replaced by a weaker one. -/
theorem Formula.All.mono (h : P.Implies Q) : (f : Formula) → f.All P → f.All Q
  | .operand t, hf => h.operand t hf
  | .range _, _ => trivial
  | .infixOp s l r, ⟨hs, hl, hr⟩ =>
    ⟨h.infixOp s hs, Formula.All.mono h l hl, Formula.All.mono h r hr⟩
  | .prefixOp s a, ⟨hs, ha⟩ => ⟨h.prefixOp s hs, Formula.All.mono h a ha⟩
  | .group inner, hf => Formula.All.mono h inner hf
  | .call name args, ⟨hargs, hf⟩ => ⟨h.call name args hargs, Arguments.All.mono h args hf⟩

theorem Arguments.All.mono (h : P.Implies Q) : (args : Arguments) → args.All P → args.All Q
  | .none, _ => trivial
  | .given first rest, ⟨hf, hr⟩ => ⟨Formula.All.mono h first hf, Arguments.All.mono h rest hr⟩
  | .omitted rest, hr => Arguments.All.mono h rest hr

end

namespace Formula

/-- Attaching makes one node, and the others are old ones. -/
theorem All.attach {right : Formula} (hs : P.infixOp s) (hr : right.All P) :
    (f : Formula) → f.All P → (f.attach s right).All P
  | .infixOp s' l r, ⟨hs', hl, hr'⟩ => by
    rw [Formula.attach]
    split
    · exact ⟨hs, ⟨hs', hl, hr'⟩, hr⟩
    · exact ⟨hs', hl, All.attach hs hr r hr'⟩
  | .prefixOp s' a, ⟨hs', ha⟩ => by
    rw [Formula.attach]
    split
    · exact ⟨hs, ⟨hs', ha⟩, hr⟩
    · exact ⟨hs', All.attach hs hr a ha⟩
  | .operand _, hf | .range _, hf | .group _, hf | .call _ _, hf => ⟨hs, hf, hr⟩

/-- Putting in front keeps a property of nodes, if wrapping does. -/
theorem All.insertFront {admits : Nat → Prop} [DecidablePred admits]
    {wrap : Formula → Formula} (hwrap : ∀ g : Formula, g.All P → (wrap g).All P) :
    (f : Formula) → f.All P → (f.insertFront admits wrap).All P
  | .infixOp s l r, ⟨hs, hl, hr⟩ => by
    rw [Formula.insertFront]
    split
    · exact hwrap _ ⟨hs, hl, hr⟩
    · exact All.attach hs hr _ (All.insertFront hwrap l hl)
  | .operand _, hf | .range _, hf | .prefixOp _ _, hf | .group _, hf | .call _ _, hf => hwrap _ hf

end Formula

mutual

/-- Regrouping keeps a rule on the nodes, if it keeps what the rule says on calls. -/
theorem Formula.All.regroup (hcall : ∀ name args, P.call name args → P.call name args.regroup) :
    (f : Formula) → f.All P → f.regroup.All P
  | .operand _, hf => hf
  | .range _, _ => trivial
  | .infixOp s l r, ⟨hs, hl, hr⟩ =>
    have hleft : l.regroup.All P := Formula.All.regroup hcall l hl
    .insertFront (fun _ hg => .attach hs hg _ hleft) _ (Formula.All.regroup hcall r hr)
  | .prefixOp _ a, ⟨hs, ha⟩ => by
    have hnode : ∀ g : Formula, g.All P → (Formula.prefixOp _ g).All P := fun _ hg => ⟨hs, hg⟩
    exact .insertFront hnode _ (Formula.All.regroup hcall a ha)
  | .group inner, hf => Formula.All.regroup hcall inner hf
  | .call name args, ⟨hargs, hf⟩ => ⟨hcall name args hargs, Arguments.All.regroup hcall args hf⟩

/-- Regrouping changes no call, so a property of calls is kept. -/
theorem Arguments.All.regroup (hcall : ∀ name args, P.call name args → P.call name args.regroup) :
    (args : Arguments) → args.All P → args.regroup.All P
  | .none, _ => trivial
  | .given first rest, ⟨hf, hr⟩ =>
    ⟨Formula.All.regroup hcall first hf, Arguments.All.regroup hcall rest hr⟩
  | .omitted rest, hr => Arguments.All.regroup hcall rest hr

end

end

/-! ### Values as leaves -/

/-- Are all operands values? -/
def NodeRule.values : NodeRule := { operand := fun t => t.isValue = true }

mutual

/-- **Every formula can be grouped**, if all its leaves are values. -/
theorem Formula.isGrouped_regroup : (f : Formula) → f.All .values → f.regroup.IsGrouped
  | .operand _, hf => hf
  | .range _, _ => trivial
  | .infixOp s l r, ⟨_, hl, hr⟩ => by
    -- The left operand goes to the front of the right one, as deep as their ranks ask for.
    have hleft : l.regroup.IsGrouped := l.isGrouped_regroup hl
    exact Formula.isGrouped_insertFront (fun _ => Formula.takesOperands_atom)
      (fun g hg hrank => Formula.isGrouped_attach hrank hg _ hleft) _ (r.isGrouped_regroup hr)
  | .prefixOp s a, ⟨_, ha⟩ => by
    have hnode : ∀ g : Formula, g.IsGrouped → Precedence.prefixRank ≤ g.rank →
        (Formula.prefixOp s g).IsGrouped := fun _ hg hrank => ⟨hrank, hg⟩
    exact Formula.isGrouped_insertFront (fun _ hk => hk) hnode _ (a.isGrouped_regroup ha)
  | .group inner, hf => inner.isGrouped_regroup hf
  | .call _ args, ⟨_, hf⟩ => args.areGrouped_regroup hf

/-- Each argument is grouped on its own. -/
theorem Arguments.areGrouped_regroup :
    (args : Arguments) → args.All .values → args.regroup.AreGrouped
  | .none, _ => trivial
  | .given first rest, ⟨hf, hr⟩ => ⟨first.isGrouped_regroup hf, rest.areGrouped_regroup hr⟩
  | .omitted rest, hr => rest.areGrouped_regroup hr

end

/-- The formula `1 - (2 - 3)` without its parentheses is grouped as `(1 - 2) - 3`. -/
example :
    (Formula.infixOp "-" (.operand (.ofInt 1))
      (.infixOp "-" (.operand (.ofInt 2)) (.operand (.ofInt 3)))).regroup =
    .infixOp "-" (.infixOp "-" (.operand (.ofInt 1)) (.operand (.ofInt 2)))
      (.operand (.ofInt 3)) := rfl

/-! ### Calls -/

/-- Can each function be called with the arguments it has? -/
def NodeRule.calls (functions : FunctionTable) : NodeRule :=
  { call := fun name args => ∃ d, functions.get? name = some d ∧ d.Takes args }

section
variable {functions : FunctionTable}

mutual

/-- Whether calls fit is a property of the calls alone. -/
theorem Formula.fits_iff_all : (f : Formula) → (f.Fits functions ↔ f.All (.calls functions))
  | .operand _ | .range _ => Iff.rfl
  | .infixOp _ l r => by
    rw [Formula.Fits, l.fits_iff_all, r.fits_iff_all]
    exact (and_iff_right trivial).symm
  | .prefixOp _ a => by
    rw [Formula.Fits, a.fits_iff_all]
    exact (and_iff_right trivial).symm
  | .group inner => inner.fits_iff_all
  | .call _ args => and_congr_right fun _ => args.fit_iff_all

theorem Arguments.fit_iff_all :
    (args : Arguments) → (args.Fit functions ↔ args.All (.calls functions))
  | .none => Iff.rfl
  | .given first rest => and_congr first.fits_iff_all rest.fit_iff_all
  | .omitted rest => rest.fit_iff_all

end

theorem Arguments.count_regroup : (args : Arguments) → args.regroup.count = args.count
  | .none => rfl
  | .given _ rest | .omitted rest => congrArg (· + 1) rest.count_regroup

/-- A function can be called with as many arguments as it has slots, unless a sole argument is
    left out. -/
theorem FunctionDef.takes_of_count {d : FunctionDef} {args : Arguments}
    (hargs : args ≠ .omitted .none) (hcount : ∀ k, d.arity = some k → args.count = k) :
    d.Takes args := by
  unfold FunctionDef.Takes
  split
  · exact hargs rfl
  · trivial
  · exact absurd rfl hargs
  · next hslots _ => exact hcount _ (by rw [FunctionDef.arity, hslots, Option.map_some])

/-- So a function takes the same arguments as before. -/
theorem FunctionDef.Takes.regroup {d : FunctionDef} {args : Arguments} (h : d.Takes args) :
    d.Takes args.regroup := by
  -- A gap as the only argument may stand for no argument, and any other list counts by its length.
  by_cases hargs : args = .omitted .none
  · subst hargs
    exact h
  · have hregroup : args.regroup ≠ .omitted .none := by
      intro heq
      match args, hargs, heq with
      | .omitted .none, hargs, _ => exact hargs rfl
    refine FunctionDef.takes_of_count hregroup fun k hk => ?_
    rw [args.count_regroup]
    exact h.arity_eq hk

theorem Formula.Fits.regroup {f : Formula} (h : f.Fits functions) : f.regroup.Fits functions := by
  rw [Formula.fits_iff_all] at h ⊢
  refine Formula.All.regroup ?_ f h
  rintro name args ⟨d, hd, htakes⟩
  exact ⟨d, hd, htakes.regroup⟩

end

/-! ### Evaluators of formulas -/

section
variable (operators : OperatorTable) {functions : FunctionTable} {f : Formula}
  {tokens : List Token}

/-- Each spelling of a grouped formula has an evaluator, which gives the value of the formula. -/
theorem Evaluator.exists_ofTokens_of_isGrouped (hg : f.IsGrouped) (hf : f.Fits functions)
    (ht : tokens.filterMap Token.structural? = f.tokens.filterMap Token.structural?) :
    ∃ ev, ofTokens operators functions tokens = .ok ev ∧
      ∀ inputs, ev.evaluateToken inputs = f.value ⟨operators, functions, inputs⟩ := by
  obtain ⟨b, hreads, hops, hitems⟩ := Formula.reads_spelling hg hf ht
  have hprogram : Program.ofTokens functions tokens = .ok f.program := by
    refine Program.ofTokens_eq_ok_iff.mpr ⟨b, hreads, hops, ?_⟩
    rw [hitems, List.reverse_reverse, Formula.program]
  exact ⟨⟨f.program, operators, functions⟩, by rw [ofTokens, hprogram]; rfl,
    fun inputs => evaluateToken_eq_value f.program_items inputs⟩

/-- **Every formula is read**, and what is read is the regrouped formula. -/
theorem Evaluator.exists_ofTokens (hv : f.All .values) (hf : f.Fits functions)
    (ht : tokens.filterMap Token.structural? = f.tokens.filterMap Token.structural?) :
    ∃ ev, ofTokens operators functions tokens = .ok ev ∧
      ∀ inputs, ev.evaluateToken inputs = f.regroup.value ⟨operators, functions, inputs⟩ :=
  exists_ofTokens_of_isGrouped operators (f.isGrouped_regroup hv) hf.regroup
    (f.tokens_regroup ▸ ht)

end

end SheetFormula
