import SheetFormula.Formula.Grouping
import SheetFormula.Proofs.Reading

namespace SheetFormula

/-!
# Formulas are read back

The builder gives each operator the operands that the table of ranks gives it: from the infix
spelling of a formula whose operators have the operands that their ranks allow, it builds the
postfix spelling of that very formula.

* `Pending.Admits` — which operands may stand to the right of what is held back.  An operand that
  is admitted is read without touching anything below it (`Pending.Admits.yieldsTo_eq_false`).
* `Formula.Read` — what reading a formula leaves: its items, up to the operators of its right
  edge.  They are held back, and give way to each symbol that takes the formula as a left operand.
* `Formula.reads` — each formula can be read where it is admitted, by induction on the formula.
* `Program.ofTokens_spelling` — hence each spelling of a formula gives its program.
-/

open Formula (TakesOperands)

/-! ### Ranks -/

/-- One symbol groups to the right, and no other has a rank above the prefix operators. -/
theorem Precedence.rank_cases (s : String) :
    (Precedence.groupsRight s = true ∧ Precedence.rank s = 5) ∨
      (Precedence.groupsRight s = false ∧ Precedence.rank s ≤ 3) := by
  by_cases hs : s = "^"
  · left
    subst hs
    exact ⟨rfl, rfl⟩
  · right
    refine ⟨by simpa [Precedence.groupsRight] using hs, ?_⟩
    unfold Precedence.rank
    split <;> first | omega | contradiction

/-- When an operator of rank `r` takes the operand before a symbol, in numbers. -/
theorem Precedence.bindsBefore_iff {r : Nat} {s : String} :
    Precedence.bindsBefore r s = true ↔
      (Precedence.rank s = 5 ∧ 5 < r) ∨ (Precedence.rank s ≤ 3 ∧ Precedence.rank s ≤ r) := by
  unfold Precedence.bindsBefore
  rcases Precedence.rank_cases s with ⟨hg, hr⟩ | ⟨hg, hr⟩
  · rw [if_pos hg, decide_eq_true_eq]
    omega
  · rw [if_neg (Bool.eq_false_iff.mp hg), decide_eq_true_eq]
    omega

namespace Formula

variable {s s' : String} {left right left' right' : Nat}

/-- The ranks that the operands of a symbol may have, in numbers. -/
theorem takesOperands_iff :
    TakesOperands s left right ↔
      (Precedence.rank s = 5 ∧ 6 ≤ left ∧ 4 ≤ right) ∨
      (Precedence.rank s ≤ 3 ∧ Precedence.rank s ≤ left ∧ Precedence.rank s < right) := by
  unfold TakesOperands Precedence.atomRank Precedence.prefixRank
  rcases Precedence.rank_cases s with ⟨hg, hr⟩ | ⟨hg, hr⟩
  · rw [if_pos hg]
    omega
  · rw [if_neg (Bool.eq_false_iff.mp hg)]
    omega

/-- A left operand binds at least as tightly as its operator. -/
theorem TakesOperands.rank_le_left (h : TakesOperands s left right) :
    Precedence.rank s ≤ left := by
  rw [takesOperands_iff] at h
  omega

/-- What takes a node as its left operand would also take the right operand of the node. -/
theorem TakesOperands.of_right (h : TakesOperands s left right)
    (h' : TakesOperands s' (Precedence.rank s) right') : TakesOperands s' right right' := by
  rw [takesOperands_iff] at h h' ⊢
  omega

/-- The same for the operand of a prefix operator. -/
theorem TakesOperands.of_prefix (h : Precedence.prefixRank ≤ right)
    (h' : TakesOperands s' Precedence.prefixRank right') : TakesOperands s' right right' := by
  unfold Precedence.prefixRank at h h'
  rw [takesOperands_iff] at h' ⊢
  omega

end Formula

/-! ### What is held back -/

namespace Pending

variable {s : String} {p : Pending} {k k' right : Nat}

/-- May an operand of this rank stand to the right of what is held back? -/
def Admits (k : Nat) : Pending → Prop
  | infixOp s => ∃ left, TakesOperands s left k
  | prefixOp _ => Precedence.prefixRank ≤ k
  | paren | call _ => True

/-- What binds tighter is admitted too. -/
theorem Admits.mono (h : p.Admits k) (hk : k ≤ k') : p.Admits k' := by
  cases p with
  | infixOp s =>
    obtain ⟨left, h⟩ := h
    refine ⟨left, ?_⟩
    rw [Formula.takesOperands_iff] at h ⊢
    omega
  | prefixOp s => exact Nat.le_trans h hk
  | paren | call _ => trivial

/-- An operator yields to a symbol if its rank binds before it. -/
theorem yieldsTo_iff (hp : p.rank? = some k) :
    p.yieldsTo s = true ↔ Precedence.bindsBefore k s = true := by
  rw [yieldsTo, hp, Option.any_some]

/-- **Nothing below is touched.**  What admits an infix node does not give way to its symbol. -/
theorem Admits.yieldsTo_eq_false (h : p.Admits (Precedence.rank s)) : p.yieldsTo s = false := by
  rw [Bool.eq_false_iff]
  intro hy
  cases p with
  | infixOp s' =>
    obtain ⟨left, h⟩ := h
    -- An operator that the node may follow binds no tighter than the symbol of the node.
    rw [yieldsTo_iff rfl, Precedence.bindsBefore_iff] at hy
    rw [Formula.takesOperands_iff] at h
    omega
  | prefixOp s' =>
    rw [yieldsTo_iff rfl, Precedence.bindsBefore_iff] at hy
    unfold Admits at h
    unfold Precedence.prefixRank at h hy
    omega
  | paren | call _ => cases hy

/-- An operator gives way to each symbol that takes an operand of its rank on the left. -/
theorem yieldsTo_of_takesOperands (hp : p.rank? = some k) (h : TakesOperands s k right) :
    p.yieldsTo s = true := by
  rw [yieldsTo_iff hp, Precedence.bindsBefore_iff]
  rw [Formula.takesOperands_iff] at h
  omega

end Pending

/-! ### Reading a formula -/

open Builder (Step Reads)

/-- What reading a formula leaves, `ops` being the operators of its right edge. -/
structure Formula.Read (f : Formula) (ops : List Pending) (b b' : Builder) : Prop where
  pending : b'.pending = ops ++ b.pending
  emitted : Pending.items ops ++ b'.emitted = f.items.reverse ++ b.emitted
  previous : b'.previous = .value
  isOperator : ∀ p ∈ ops, p.isOperator = true
  /-- The right edge is complete when a symbol comes that takes the formula on its left. -/
  yields : ∀ s right, TakesOperands s f.rank right → ∀ p ∈ ops, p.yieldsTo s = true

/-- What reading the arguments after the first leaves: they are counted, and their items are
    passed on, up to a mark for the last one. -/
structure Arguments.Read (args : Arguments) (c : OpenCall) (rest ops ops' : List Pending)
    (b b' : Builder) : Prop where
  pending : b'.pending = ops' ++ .call { c with count := c.count + args.count } :: rest
  emitted : b'.previous.marker ++ (Pending.items ops' ++ b'.emitted) =
    args.items.reverse ++ (b.previous.marker ++ (Pending.items ops ++ b.emitted))
  isOperator : ∀ p ∈ ops', p.isOperator = true
  previous : b'.previous = .callOpen → args = .none ∧ b.previous = .callOpen

section
variable (functions : FunctionTable) {b b₁ b₂ : Builder} {f : Formula} {ops ops' : List Pending}

/-- An atom holds nothing back. -/
theorem Formula.Read.atom (hp : b₁.pending = b.pending)
    (he : b₁.emitted = f.items.reverse ++ b.emitted) (hv : b₁.previous = .value) :
    f.Read [] b b₁ where
  pending := hp
  emitted := he
  previous := hv
  isOperator := by simp
  yields := by simp

/-- An infix node, once its operands are read. -/
theorem Formula.Read.infixOp {s : String} {left right : Formula}
    (hrank : TakesOperands s left.rank right.rank) (hl : left.Read ops b b₁)
    (hr : right.Read ops' (.of (Pending.items ops ++ b₁.emitted) (.infixOp s :: b.pending) .infixOp)
      b₂) : (Formula.infixOp s left right).Read (ops' ++ [.infixOp s]) b b₂ where
  pending := by rw [hr.pending, Builder.of_pending, List.append_assoc, List.singleton_append]
  emitted := by
    -- The right edge of the left operand is released before the right operand is read.
    have hemitted := hr.emitted
    rw [hl.emitted] at hemitted
    rw [Pending.items_append, List.append_assoc, hemitted]
    simp [Formula.items, Pending.items, Pending.item?]
  previous := hr.previous
  isOperator := by
    intro p hp
    rcases List.mem_append.mp hp with hp | hp
    · exact hr.isOperator p hp
    · rw [List.mem_singleton.mp hp]
      rfl
  yields := by
    intro s' right' h p hp
    rcases List.mem_append.mp hp with hp | hp
    · exact hr.yields s' right' (hrank.of_right h) p hp
    · rw [List.mem_singleton.mp hp]
      exact Pending.yieldsTo_of_takesOperands rfl h

/-- A prefix node, once its operand is read. -/
theorem Formula.Read.prefixOp {s : String} {argument : Formula}
    (hrank : Precedence.prefixRank ≤ argument.rank)
    (ha : argument.Read ops (.of b.emitted (.prefixOp s :: b.pending) .prefixOp) b₁) :
    (Formula.prefixOp s argument).Read (ops ++ [.prefixOp s]) b b₁ where
  pending := by rw [ha.pending, Builder.of_pending, List.append_assoc, List.singleton_append]
  emitted := by
    rw [Pending.items_append, List.append_assoc, ha.emitted]
    simp [Formula.items, Pending.items, Pending.item?]
  previous := ha.previous
  isOperator := by
    intro p hp
    rcases List.mem_append.mp hp with hp | hp
    · exact ha.isOperator p hp
    · rw [List.mem_singleton.mp hp]
      rfl
  -- Whatever takes the node as its left operand binds less tightly than its operator.
  yields := by
    intro s' right' h p hp
    rcases List.mem_append.mp hp with hp | hp
    · exact ha.yields s' right' (TakesOperands.of_prefix hrank h) p hp
    · rw [List.mem_singleton.mp hp]
      exact Pending.yieldsTo_of_takesOperands rfl h

/-- A group, once what it encloses is read. -/
theorem Formula.Read.group {inner : Formula}
    (hi : inner.Read ops (.of b.emitted (.paren :: b.pending) .parenOpen) b₁) :
    ∃ b₂, Step functions b₁ .parenClose b₂ ∧ (Formula.group inner).Read [] b b₂ :=
  ⟨_, .closeParen rfl hi.pending hi.isOperator, .atom rfl hi.emitted rfl⟩

end

/-! ### Calls -/

/-- The state after a separator directly inside a call. -/
def Builder.separated (b : Builder) (c : OpenCall) (ops rest : List Pending) : Builder :=
  .of (b.previous.marker ++ (Pending.items ops ++ b.emitted))
    (.call { c with count := c.count + 1 } :: rest) .separator

section
variable (functions : FunctionTable) {d : FunctionDef} {name : String} {args : Arguments}
  {b b' : Builder} {rest ops ops' : List Pending}

/-- A function with slots is called with as many arguments as it has slots. -/
theorem FunctionDef.Takes.arity_eq (h : d.Takes args) {k : Nat} (hk : d.arity = some k) :
    args.count = k := by
  obtain ⟨slots, hslots, rfl⟩ := Option.map_eq_some_iff.mp hk
  unfold FunctionDef.Takes at h
  rw [hslots] at h
  -- The clause for a function with one slot takes a single gap as well as a single argument.
  split at h
  · contradiction
  · contradiction
  · next hsome =>
    cases hsome
    exact h.1.symm
  · next hsome _ =>
    cases hsome
    exact h

/-- What is needed of a function that can be called with a sole argument left out. -/
theorem FunctionDef.Takes.omitted (h : d.Takes (.omitted .none)) :
    d.arity = some 1 ∧ d.firstRequired = false := by
  unfold FunctionDef.Takes at h
  split at h
  · contradiction
  · contradiction
  · next hslots _ => exact ⟨by rw [FunctionDef.arity, hslots, Option.map_some, h.1], h.2⟩
  · next hne => exact absurd rfl hne

/-- A call is refused only if its function takes a fixed number of arguments and there are
    others. -/
theorem Builder.checkArity_eq_ok_iff {c : OpenCall} {n : Nat} :
    checkArity c n = .ok () ↔ ∀ k, c.arity = some k → n = k := by
  unfold checkArity
  cases c.arity with
  | none => simp
  | some k => by_cases hn : n = k <;> simp [hn]

/-- Only an empty call has another number of arguments than one more than its separators. -/
theorem Builder.argumentCount_eq_count {c : OpenCall} {previous : Previous}
    (h : previous = .callOpen → c.arity = some 1 ∧ c.firstRequired = false) :
    argumentCount previous c = .ok c.count := by
  unfold argumentCount
  split
  · next hp =>
    obtain ⟨harity, hfirst⟩ := h hp
    simp only [harity, hfirst, Bool.false_eq_true, if_false]
  · rfl

/-- An argument more, counted before or after those that follow it. -/
theorem Arguments.Read.counted {c : OpenCall} {b₀ : Builder}
    (hr : args.Read { c with count := c.count + 1 } rest ops ops' b₀ b') :
    b'.pending = ops' ++ .call { c with count := c.count + (args.count + 1) } :: rest := by
  rw [hr.pending, Nat.add_right_comm c.count 1, Nat.add_assoc]

/-- An empty call, once it is opened. -/
theorem Builder.Step.closeEmpty (h : d.Takes .none) (E : List Item) (P : List Pending) :
    Step functions (.of E (.call (.start name d) :: P) .callOpen) .callClose
      (.of (.call name 0 :: E) P .value) := by
  -- A function that takes no argument has no slots, or any number of arguments.
  have harity : d.arity = none ∨ d.arity = some 0 := by
    cases hd : d.arity with
    | none => exact .inl rfl
    | some k => exact .inr (h.arity_eq hd ▸ rfl)
  have hn : argumentCount .callOpen (.start name d) = .ok 0 := by
    unfold argumentCount
    rcases harity with ha | ha <;> simp only [if_true, OpenCall.start, ha]
  have hfits : checkArity (.start name d) 0 = .ok () :=
    checkArity_eq_ok_iff.mpr fun k hk => h.arity_eq hk
  have hops : ∀ p ∈ ([] : List Pending), p.isOperator = true := by simp
  have hb : (Builder.of E (.call (.start name d) :: P) .callOpen).pending =
      [] ++ .call (.start name d) :: P := rfl
  exact .closeCall rfl hb hops hn hfits

/-- A call with arguments, once the arguments after the first one are read. -/
theorem Arguments.Read.closeCall (hr : args.Read (.start name d) rest ops ops' b b')
    (harity : ∀ k, d.arity = some k → args.count + 1 = k)
    (hone : args = .none → b.previous = .callOpen →
      d.arity = some 1 ∧ d.firstRequired = false) :
    Step functions b' .callClose (.of (.call name (args.count + 1) ::
      (args.items.reverse ++ (b.previous.marker ++ (Pending.items ops ++ b.emitted))))
      rest .value) := by
  -- The call was opened with a count of one, for its first argument.
  have hcount : (OpenCall.start name d).count + args.count = args.count + 1 := Nat.add_comm 1 _
  have hpending := hr.pending
  rw [hcount] at hpending
  have hn : Builder.argumentCount b'.previous
      { OpenCall.start name d with count := args.count + 1 } = .ok (args.count + 1) :=
    Builder.argumentCount_eq_count fun hp => hone (hr.previous hp).1 (hr.previous hp).2
  have hfits : Builder.checkArity { OpenCall.start name d with count := args.count + 1 }
      (args.count + 1) = .ok () := Builder.checkArity_eq_ok_iff.mpr harity
  rw [← hr.emitted]
  simpa only [if_neg (Nat.succ_ne_zero _), OpenCall.start_name] using
    Step.closeCall rfl hpending hr.isOperator hn hfits

end

/-! ### Every formula is read back -/

mutual

/-- **Reading a formula.**  Where a value may start and the formula is admitted, its tokens can be
    read. -/
theorem Formula.reads (functions : FunctionTable) :
    (f : Formula) → f.IsGrouped → f.Fits functions → (b : Builder) → b.previous ≠ .value →
      (∀ p ∈ b.pending.head?, p.Admits f.rank) →
      ∃ ops b', Reads functions b f.tokens b' ∧ f.Read ops b b'
  | .operand t, hg, _, b, _, _ => by
    have ht : t.isOperand = true ∧ t.isRange = false := by
      simpa [Formula.IsGrouped, Token.isValue] using hg
    refine ⟨[], _, .single (.operand ht.1), .atom rfl ?_ rfl⟩
    cases t <;> first | rfl | simp [Token.isRange] at ht
  | .range name, _, _, b, _, _ => ⟨[], _, .single (.operand rfl), .atom rfl rfl rfl⟩
  | .infixOp s left right, ⟨hrank, hgl, hgr⟩, ⟨hfl, hfr⟩, b, hv, hb => by
    obtain ⟨ops, b₁, hreads, hl⟩ := left.reads functions hgl hfl b hv
      fun p hp => (hb p hp).mono hrank.rank_le_left
    -- The right edge of the left operand is complete, and what stands below it is not touched.
    have hstep : Step functions b₁ (.infixOp s)
        (.of (Pending.items ops ++ b₁.emitted) (.infixOp s :: b.pending) .infixOp) :=
      .infixOp hl.previous hl.pending (hl.yields s right.rank hrank)
        fun p hp => (hb p hp).yieldsTo_eq_false
    obtain ⟨ops', b₂, hreads', hr⟩ := right.reads functions hgr hfr
      (.of (Pending.items ops ++ b₁.emitted) (.infixOp s :: b.pending) .infixOp) (by simp)
      (by simpa [Pending.Admits] using ⟨left.rank, hrank⟩)
    exact ⟨_, b₂, hreads.append (.cons hstep hreads'), .infixOp hrank hl hr⟩
  | .prefixOp s argument, ⟨hrank, hga⟩, hfa, b, _, _ => by
    obtain ⟨ops, b₁, hreads, ha⟩ := argument.reads functions hga hfa
      (.of b.emitted (.prefixOp s :: b.pending) .prefixOp) (by simp)
      (by simpa [Pending.Admits] using hrank)
    exact ⟨_, b₁, .cons .prefixOp hreads, .prefixOp hrank ha⟩
  | .group inner, hgi, hfi, b, hv, _ => by
    -- Nothing is refused right after an opening token.
    obtain ⟨ops, b₁, hreads, hi⟩ := inner.reads functions hgi hfi
      (.of b.emitted (.paren :: b.pending) .parenOpen) (by simp) (by simp [Pending.Admits])
    obtain ⟨b₂, hclose, hgroup⟩ := hi.group functions
    exact ⟨[], b₂, .cons (.parenOpen hv) (hreads.append (.single hclose)), hgroup⟩
  | .call name .none, _, ⟨⟨d, hd, htakes⟩, _⟩, b, _, _ =>
    ⟨[], _, .cons (.callOpen hd) (.single (.closeEmpty functions htakes _ _)), .atom rfl rfl rfl⟩
  | .call name (.given first more), ⟨hgf, hgm⟩, ⟨⟨d, hd, htakes⟩, hff, hfm⟩, b, _, _ => by
    obtain ⟨ops, b₁, hreads, hf⟩ := first.reads functions hgf hff
      (.of b.emitted (.call (.start name d) :: b.pending) .callOpen) (by simp)
      (by simp [Pending.Admits])
    obtain ⟨ops', b₂, hreads', hm⟩ := more.reads_more functions hgm hfm b₁ _ ops _ hf.pending
      hf.isOperator
    have hclose := hm.closeCall functions (fun k hk => htakes.arity_eq hk)
      fun _ hp => by simp [hf.previous] at hp
    refine ⟨[], _, .cons (.callOpen hd) ((hreads.append hreads').append (.single hclose)),
      .atom rfl ?_ rfl⟩
    simp [hf.previous, Previous.marker, hf.emitted, Formula.items, Arguments.items,
      Arguments.count]
  | .call name (.omitted more), hgm, ⟨⟨d, hd, htakes⟩, hfm⟩, b, _, _ => by
    have hops : ∀ p ∈ ([] : List Pending), p.isOperator = true := by simp
    obtain ⟨ops', b₂, hreads', hm⟩ := more.reads_more functions hgm hfm
      (.of b.emitted (.call (.start name d) :: b.pending) .callOpen) _ [] _ rfl hops
    have hclose := hm.closeCall functions (fun k hk => htakes.arity_eq hk)
      fun hnone _ => (hnone ▸ htakes : d.Takes (.omitted .none)).omitted
    refine ⟨[], _, .cons (.callOpen hd) (hreads'.append (.single hclose)), .atom rfl ?_ rfl⟩
    simp [Previous.marker, Formula.items, Arguments.items, Arguments.count]

/-- Reading the arguments after the first one. -/
theorem Arguments.reads_more (functions : FunctionTable) :
    (args : Arguments) → args.AreGrouped → args.Fit functions → (b : Builder) →
      (c : OpenCall) → (ops rest : List Pending) → b.pending = ops ++ .call c :: rest →
      (∀ p ∈ ops, p.isOperator = true) →
      ∃ ops' b', Reads functions b args.moreTokens b' ∧ args.Read c rest ops ops' b b'
  | .none, _, _, b, c, ops, rest, hb, hops =>
    ⟨ops, b, .nil, hb, rfl, hops, fun hp => ⟨rfl, hp⟩⟩
  | .given first more, ⟨hgf, hgm⟩, ⟨hff, hfm⟩, b, c, ops, rest, hb, hops => by
    -- The separator completes the argument before it; the next one starts like the first.
    obtain ⟨ops₁, b₁, hreads, hf⟩ := first.reads functions hgf hff (b.separated c ops rest)
      (by simp [Builder.separated]) (by simp [Builder.separated, Pending.Admits])
    obtain ⟨ops', b₂, hreads', hm⟩ := more.reads_more functions hgm hfm b₁ _ ops₁ _ hf.pending
      hf.isOperator
    refine ⟨ops', b₂, .cons (.separator hb hops) (hreads.append hreads'), hm.counted, ?_,
      hm.isOperator, ?_⟩
    · rw [hm.emitted, hf.emitted, hf.previous]
      simp [Previous.marker, Builder.separated, Arguments.items]
    · intro hp
      simpa [hf.previous] using (hm.previous hp).2
  | .omitted more, hgm, hfm, b, c, ops, rest, hb, hops => by
    have hnone : ∀ p ∈ ([] : List Pending), p.isOperator = true := by simp
    obtain ⟨ops', b₁, hreads, hm⟩ := more.reads_more functions hgm hfm (b.separated c ops rest)
      _ [] _ rfl hnone
    refine ⟨ops', b₁, .cons (.separator hb hops) hreads, hm.counted, ?_, hm.isOperator, ?_⟩
    · rw [hm.emitted]
      simp [Previous.marker, Builder.separated, Arguments.items]
    · intro hp
      simpa [Builder.separated] using (hm.previous hp).2

end

/-! ### Programs of formulas -/

/-- **Reading a spelling from the start.**  What has been passed on by the end, with the operators
    that are still held back, are the items of the formula. -/
theorem Formula.reads_spelling {functions : FunctionTable} {f : Formula} {tokens : List Token}
    (hg : f.IsGrouped) (hf : f.Fits functions)
    (ht : tokens.filterMap Token.structural? = f.tokens.filterMap Token.structural?) :
    ∃ b, Reads functions .initial tokens b ∧ (∀ p ∈ b.pending, p.isOperator = true) ∧
      Pending.items b.pending ++ b.emitted = f.items.reverse := by
  obtain ⟨ops, b, hreads, hread⟩ := f.reads functions hg hf .initial (by simp [Builder.initial])
    (by simp [Builder.initial])
  -- At the top level everything that is held back belongs to the formula.
  have hpending : b.pending = ops := by
    rw [hread.pending]
    exact List.append_nil ops
  have hitems : Pending.items b.pending ++ b.emitted = f.items.reverse := by
    rw [hpending, hread.emitted]
    exact List.append_nil _
  have htokens : Reads functions .initial tokens b := by
    rw [← Builder.reads_structural_iff, ht, Builder.reads_structural_iff]
    exact hreads
  exact ⟨b, htokens, hpending ▸ hread.isOperator, hitems⟩

/-- **Precedence and grouping.**  Take a formula whose operators have the operands that their
    ranks allow and whose calls fit the table.  However it is spelled, with white-space anywhere
    and with either kind of closing token, its program is its postfix spelling. -/
theorem Program.ofTokens_spelling {functions : FunctionTable} {f : Formula} {tokens : List Token}
    (hg : f.IsGrouped) (hf : f.Fits functions)
    (ht : tokens.filterMap Token.structural? = f.tokens.filterMap Token.structural?) :
    Program.ofTokens functions tokens = .ok f.program := by
  obtain ⟨b, hreads, hops, hitems⟩ := Formula.reads_spelling hg hf ht
  refine Program.ofTokens_eq_ok_iff.mpr ⟨b, hreads, hops, ?_⟩
  rw [hitems, List.reverse_reverse, Formula.program]

namespace MixedExample

open Formula

/-- The formula of an integer. -/
def int (n : Int64) : Formula := operand (.ofInt n)

/-- The formula `-2 ^ 3 - LEFT(x, ) * 4`. -/
def mixed : Formula :=
  infixOp "-" (prefixOp "-" (infixOp "^" (int 2) (int 3)))
    (infixOp "*" (call "LEFT(" (.given (range "x") (.omitted .none))) (int 4))

end MixedExample

open MixedExample in
/-- The tokens of `-2^ 3-LEFT(x, )*4`, with a closing token of the other kind. -/
theorem Program.ofTokens_spelling_mixed :
    Program.ofTokens .builtin
      [.prefixOp "-", .ofInt 2, .infixOp "^", .whitespace " ", .ofInt 3, .infixOp "-",
        .callOpen "LEFT(", .range "x", .separator ",", .whitespace " ", .parenClose,
        .infixOp "*", .ofInt 4] = .ok mixed.program := by
  refine ofTokens_spelling (f := mixed) ?_ ?_ rfl
  · simp [mixed, int, Formula.IsGrouped, Arguments.AreGrouped, TakesOperands, Formula.rank,
      Precedence.groupsRight, Precedence.rank, Precedence.atomRank, Precedence.prefixRank,
      Token.isValue, Token.isOperand, Token.isRange, Token.ofInt]
  · refine ⟨⟨trivial, trivial⟩, ⟨⟨_, rfl, ?_⟩, trivial, trivial⟩, trivial⟩
    exact rfl

end SheetFormula
