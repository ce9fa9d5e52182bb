import Mathlib
import SheetFormula.Proofs.StackHeight

namespace SheetFormula

/-!
# Neighbours and the stack

Rules for neighbouring tokens are enough to keep the stack of values balanced: if values and
operators alternate, then every item of the program finds its values and exactly one is left.

* `LocallyWellFormed` — the rules, in terms of neighbours only.
* `StackBalance` — the invariant of the builder: the items passed on leave one value for each
  operand that what is held back waits with.
* `StackBalance.step` — each token that may follow the previous one keeps it.
* `Evaluator.isStackError_ofTokens` — hence there is no stack error, whatever the formula is
  evaluated with.
-/

variable {functions : FunctionTable} {t : Token} {ts before tokens : List Token}
  {b b' : Builder} {ops rest ps : List Pending} {is : List Item} {k : Nat}

/-! ### Neighbours -/

/-- Values and operators alternate, white-space aside. -/
structure LocallyWellFormed (tokens : List Token) : Prop where
  nonempty : significant tokens ≠ []
  /-- No value starts right after another one. -/
  value : ∀ before a b after, significant tokens = before ++ a :: b :: after →
    a.endsValue = true → b.startsValue = false
  /-- Each operator is followed by a value. -/
  operator : ∀ before a after, significant tokens = before ++ a :: after → a.isOperator = true →
    ∃ b rest, after = b :: rest ∧ b.startsValue = true
  /-- No parenthesis is empty. -/
  parenOpen : ∀ before b after, significant tokens = before ++ .parenOpen :: b :: after →
    b.isClose = false

/-- May the token come now?  These are the rules for neighbours as far as the builder sees
    them. -/
structure Previous.Allows (p : Previous) (t : Token) : Prop where
  value : p = .value → t.startsValue = false
  operator : p = .infixOp ∨ p = .prefixOp → t.startsValue = true
  parenOpen : p = .parenOpen → t.isClose = false

theorem Previous.Allows.ne_value {p : Previous} (h : p.Allows t) (ht : t.startsValue = true) :
    p ≠ .value := by
  intro hp
  rw [h.value hp] at ht
  cases ht

/-- What the builder remembers comes from the last token. -/
theorem Previous.exists_of_after (h : Previous.after ts ≠ .start) :
    ∃ before a, significant ts = before ++ [a] ∧ Previous.after ts = .ofToken a := by
  unfold Previous.after at h ⊢
  rcases List.eq_nil_or_concat (significant ts) with hs | ⟨before, a, hs⟩
  · rw [hs] at h
    exact absurd rfl h
  · rw [List.concat_eq_append] at hs
    refine ⟨before, a, hs, ?_⟩
    rw [hs, List.getLast?_concat, Option.map_some, Option.getD_some]

theorem Previous.ofToken_eq_value (h : Previous.ofToken t = .value) : t.endsValue = true := by
  cases t <;> first | rfl | cases h

theorem Previous.ofToken_eq_operator
    (h : Previous.ofToken t = .infixOp ∨ Previous.ofToken t = .prefixOp) :
    t.isOperator = true := by
  cases t <;> first | rfl | (rcases h with h | h <;> cases h)

theorem Previous.ofToken_eq_parenOpen (h : Previous.ofToken t = .parenOpen) :
    t = .parenOpen := by
  cases t <;> first | rfl | cases h

/-- The rules for neighbours, at one token. -/
theorem LocallyWellFormed.allows (h : LocallyWellFormed (before ++ t :: ts))
    (ht : t.isWhitespace = false) : (Previous.after before).Allows t := by
  -- What is remembered comes from a token, and this token is the left neighbour of the next.
  have hneighbour : Previous.after before ≠ .start →
      ∃ xs a, significant (before ++ t :: ts) = xs ++ a :: t :: significant ts ∧
        Previous.after before = .ofToken a := by
    intro hp
    obtain ⟨xs, a, hxs, ha⟩ := Previous.exists_of_after hp
    refine ⟨xs, a, ?_, ha⟩
    rw [significant_append, significant_cons ht, hxs, List.append_assoc, List.singleton_append]
  constructor
  · intro hp
    obtain ⟨xs, a, hsplit, ha⟩ := hneighbour (by simp [hp])
    rw [ha] at hp
    exact h.value xs a t _ hsplit (Previous.ofToken_eq_value hp)
  · intro hp
    obtain ⟨xs, a, hsplit, ha⟩ := hneighbour (by rcases hp with hp | hp <;> simp [hp])
    rw [ha] at hp
    obtain ⟨_, _, heq, hb⟩ := h.operator xs a _ hsplit (Previous.ofToken_eq_operator hp)
    cases heq
    exact hb
  · intro hp
    obtain ⟨xs, a, hsplit, ha⟩ := hneighbour (by simp [hp])
    rw [ha] at hp
    rw [Previous.ofToken_eq_parenOpen hp] at hsplit
    exact h.parenOpen xs t _ hsplit

/-! ### Heights -/

/-- The height of the stack after the items passed on, last one first. -/
def heightOf (emitted : List Item) : Option Nat := Item.heightAfter 0 emitted.reverse

/-- The number of values that what is held back waits with: the left operand of an infix operator,
    and the complete arguments of a call. -/
def Pending.weight : Pending → Nat
  | infixOp _ => 1
  | prefixOp _ | paren => 0
  | call c => c.count - 1

/-- The number of values that all of it waits with. -/
def weightOf (ps : List Pending) : Nat := (ps.map Pending.weight).sum

@[simp] theorem weightOf_cons (p : Pending) (ps : List Pending) :
    weightOf (p :: ps) = p.weight + weightOf ps := rfl

/-- An item takes its values from the stack and leaves one. -/
theorem heightOf_cons {i : Item} (hk : heightOf is = some k) (hi : i.taken ≤ k) :
    heightOf (i :: is) = some (k - i.taken + 1) := by
  unfold heightOf
  rw [List.reverse_cons]
  exact Item.heightAfter_concat hk hi

/-- **Completing operators.**  Operators that are passed on after their last operand leave one
    value, the result of the outermost one. -/
theorem heightOf_release (hops : ∀ p ∈ ops, p.isOperator = true)
    (h : heightOf is = some (weightOf (ops ++ rest) + 1)) :
    heightOf (Pending.items ops ++ is) = some (weightOf rest + 1) := by
  induction ops generalizing is with
  | nil => exact h
  | cons p ops ih =>
    have hrest := fun q hq => hops q (List.mem_cons_of_mem p hq)
    have hitems : Pending.items (p :: ops) ++ is =
        Pending.items ops ++ (Pending.items [p] ++ is) := by
      rw [← List.singleton_append, Pending.items_append, List.append_assoc]
    -- The innermost operator comes first, and its result is the last operand of the next one.
    rw [hitems]
    refine ih hrest ?_
    rw [List.cons_append, weightOf_cons] at h
    cases p with
    | infixOp symbol =>
      have htaken : (Item.infixOp symbol).taken = 2 := rfl
      have hweight : (Pending.infixOp symbol).weight = 1 := rfl
      have hone := heightOf_cons (i := .infixOp symbol) h (by omega)
      rw [htaken, hweight, show 1 + weightOf (ops ++ rest) + 1 - 2 = weightOf (ops ++ rest) by
        omega] at hone
      exact hone
    | prefixOp symbol =>
      have htaken : (Item.prefixOp symbol).taken = 1 := rfl
      have hweight : (Pending.prefixOp symbol).weight = 0 := rfl
      have hone := heightOf_cons (i := .prefixOp symbol) h (by omega)
      rw [htaken, hweight, Nat.zero_add, Nat.add_sub_cancel] at hone
      exact hone
    | paren | call c => cases hops _ List.mem_cons_self

/-! ### The invariant -/

/-- The items passed on leave the values that what is held back waits with, and the value that the
    previous token ends, if it ends one. -/
structure StackBalance (b : Builder) : Prop where
  height : heightOf b.emitted = some (weightOf b.pending + if b.previous = .value then 1 else 0)
  counted : ∀ c, .call c ∈ b.pending → 1 ≤ c.count
  start : b.previous = .start → b.pending = []
  parenOpen : b.previous = .parenOpen → b.pending.head? = some .paren
  callOpen : b.previous = .callOpen → ∃ c, b.pending.head? = some (.call c) ∧ c.count = 1
  separator : b.previous = .separator → ∃ c, b.pending.head? = some (.call c)

/-- At the start the stack is empty, and nothing waits. -/
theorem stackBalance_initial : StackBalance .initial := by
  refine ⟨rfl, nofun, fun _ => rfl, nofun, nofun, nofun⟩

/-- The innermost bracket is on top, unless a value or an operator was read after it. -/
theorem StackBalance.nil_of_head (h : StackBalance b) {scope : Pending}
    (hb : b.pending = ops ++ scope :: rest) (hops : ∀ p ∈ ops, p.isOperator = true)
    (hp : b.previous = .parenOpen ∨ b.previous = .callOpen ∨ b.previous = .separator) :
    ops = [] := by
  -- What is remembered says that a bracket is on top, which is no operator.
  cases ops with
  | nil => rfl
  | cons p ops =>
    have hhead : b.pending.head? = some p := by
      rw [hb]
      rfl
    have hop := hops p List.mem_cons_self
    rcases hp with hp | hp | hp
    · rw [h.parenOpen hp] at hhead
      cases hhead
      cases hop
    · obtain ⟨c, hc, -⟩ := h.callOpen hp
      rw [hc] at hhead
      cases hhead
      cases hop
    · obtain ⟨c, hc⟩ := h.separator hp
      rw [hc] at hhead
      cases hhead
      cases hop

/-- **What stands in a bracket.**  When a separator or a closing token comes, a value is complete
    in the innermost bracket, or nothing has been read since the bracket or a separator. -/
theorem StackBalance.innermost (h : StackBalance b) {scope : Pending}
    (hb : b.pending = ops ++ scope :: rest) (hops : ∀ p ∈ ops, p.isOperator = true)
    (ht : b.previous.Allows t) (hv : t.startsValue = false) :
    (b.previous = .value ∧
      heightOf (Pending.items ops ++ b.emitted) = some (weightOf (scope :: rest) + 1)) ∨
    ((b.previous = .parenOpen ∨ b.previous = .callOpen ∨ b.previous = .separator) ∧ ops = [] ∧
      heightOf b.emitted = some (weightOf (scope :: rest))) := by
  have hheight := h.height
  rw [hb] at hheight
  have hblank : b.previous = .parenOpen ∨ b.previous = .callOpen ∨ b.previous = .separator →
      ops = [] ∧ heightOf b.emitted = some (weightOf (scope :: rest)) := by
    intro hp
    have hnil := h.nil_of_head hb hops hp
    have hne : b.previous ≠ .value := by rcases hp with hp | hp | hp <;> simp [hp]
    rw [hnil, if_neg hne] at hheight
    exact ⟨hnil, hheight⟩
  cases hp : b.previous with
  | value =>
    rw [if_pos hp] at hheight
    exact .inl ⟨rfl, heightOf_release hops hheight⟩
  | start =>
    have hnil := h.start hp
    rw [hb] at hnil
    simp at hnil
  | infixOp =>
    -- After an operator a value has to start.
    simp [ht.operator (.inl hp)] at hv
  | prefixOp => simp [ht.operator (.inr hp)] at hv
  | parenOpen => exact .inr ⟨.inl rfl, hblank (.inl hp)⟩
  | callOpen => exact .inr ⟨.inr (.inl rfl), hblank (.inr (.inl hp))⟩
  | separator => exact .inr ⟨.inr (.inr rfl), hblank (.inr (.inr hp))⟩

/-- **Arguments.**  What stands in a call before a separator, or at the end, leaves one value: an
    argument that is left out is marked. -/
theorem StackBalance.argument (h : StackBalance b) {c : OpenCall}
    (hb : b.pending = ops ++ .call c :: rest) (hops : ∀ p ∈ ops, p.isOperator = true)
    (ht : b.previous.Allows t) (hv : t.startsValue = false) :
    heightOf (b.previous.marker ++ (Pending.items ops ++ b.emitted)) =
      some (c.count + weightOf rest) := by
  have hcount : 1 ≤ c.count := h.counted c (by simp [hb])
  have hweight : weightOf (.call c :: rest) + 1 = c.count + weightOf rest := by
    rw [weightOf_cons, Pending.weight]
    omega
  rw [← hweight]
  rcases h.innermost hb hops ht hv with ⟨hp, hheight⟩ | ⟨hp, rfl, hheight⟩
  · rw [hp]
    exact hheight
  · have hmarker : b.previous.marker = [.push .omitted] := by
      rcases hp with hp | hp | hp
      · -- Above a parenthesis there is no call.
        have hhead := h.parenOpen hp
        rw [hb] at hhead
        cases hhead
      · rw [hp]
        rfl
      · rw [hp]
        rfl
    rw [hmarker]
    exact heightOf_cons hheight (Nat.zero_le _)

/-- A call that is empty leaves no value. -/
theorem StackBalance.emptyCall (h : StackBalance b) {c : OpenCall}
    (hb : b.pending = ops ++ .call c :: rest) (hops : ∀ p ∈ ops, p.isOperator = true)
    (hp : b.previous = .callOpen) :
    c.count = 1 ∧ heightOf (Pending.items ops ++ b.emitted) = some (weightOf rest) := by
  have hheight := h.height
  obtain ⟨c', hc', hone⟩ := h.callOpen hp
  -- Right after its bracket nothing is held back above the call.
  have hnil := h.nil_of_head hb hops (.inr (.inl hp))
  rw [hnil] at hb ⊢
  rw [hb] at hheight hc'
  cases hc'
  have hne : b.previous ≠ .value := by simp [hp]
  rw [if_neg hne, List.nil_append, weightOf_cons, Pending.weight, hone, Nat.sub_self,
    Nat.zero_add, Nat.add_zero] at hheight
  exact ⟨hone, hheight⟩

/-- Each open call has at least one argument, the one that is being read. -/
theorem StackBalance.counted_append (h : StackBalance b) (hb : b.pending = ops ++ rest)
    {c : OpenCall} (hc : .call c ∈ rest) : 1 ≤ c.count :=
  h.counted c (hb ▸ List.mem_append_right ops hc)

/-- Where a value ends, the value is left besides what is held back. -/
theorem StackBalance.of_ends (h : heightOf is = some (weightOf ps + 1))
    (hcounted : ∀ c, .call c ∈ ps → 1 ≤ c.count) : StackBalance (.of is ps .value) :=
  ⟨h, hcounted, nofun, nofun, nofun, nofun⟩

/-- An operator waits for its last operand. -/
theorem StackBalance.of_operator {previous : Previous}
    (hp : previous = .infixOp ∨ previous = .prefixOp) (h : heightOf is = some (weightOf ps))
    (hcounted : ∀ c, .call c ∈ ps → 1 ≤ c.count) : StackBalance (.of is ps previous) := by
  rcases hp with rfl | rfl
  · exact ⟨h, hcounted, nofun, nofun, nofun, nofun⟩
  · exact ⟨h, hcounted, nofun, nofun, nofun, nofun⟩

/-- A value is read where none ends. -/
theorem StackBalance.of_value {i : Item} (h : heightOf is = some (weightOf ps))
    (hi : i.taken = 0) (hcounted : ∀ c, .call c ∈ ps → 1 ≤ c.count) :
    StackBalance (.of (i :: is) ps .value) := by
  have hone := heightOf_cons (i := i) h (by omega)
  rw [hi] at hone
  exact .of_ends hone hcounted

/-- A call has one argument more than separators, or none if it is empty. -/
theorem Builder.eq_of_argumentCount {c : OpenCall} {n : Nat} {previous : Previous}
    (h : argumentCount previous c = .ok n) : n = c.count ∨ (n = 0 ∧ previous = .callOpen) := by
  -- The count is corrected only for a call that is closed right after its bracket.
  unfold argumentCount at h
  split at h
  · next hp =>
    split at h
    · cases h
      exact .inr ⟨rfl, hp⟩
    · cases h
      exact .inr ⟨rfl, hp⟩
    · split at h <;> cases h
      exact .inl rfl
  · cases h
    exact .inl rfl

/-- The result of a call is left in place of its arguments. -/
theorem StackBalance.closeCall (h : StackBalance b) {c : OpenCall} {n : Nat}
    (hb : b.pending = ops ++ .call c :: rest) (hops : ∀ p ∈ ops, p.isOperator = true)
    (ht : b.previous.Allows t) (hv : t.startsValue = false)
    (hn : Builder.argumentCount b.previous c = .ok n) :
    heightOf (.call c.name n :: ((if n = 0 then [] else b.previous.marker) ++
      (Pending.items ops ++ b.emitted))) = some (weightOf rest + 1) := by
  have hcount : 1 ≤ c.count := h.counted c (by simp [hb])
  have htaken : (Item.call c.name n).taken = n := rfl
  by_cases hzero : n = 0
  · -- Only an empty call has no argument, since the count starts from one.
    have hp : b.previous = .callOpen := by
      rcases Builder.eq_of_argumentCount hn with hn | ⟨-, hp⟩
      · omega
      · exact hp
    have hempty := (h.emptyCall hb hops hp).2
    rw [if_pos hzero, List.nil_append, heightOf_cons hempty (by omega), htaken, hzero,
      Nat.sub_zero]
  · have hcounted : n = c.count := by
      rcases Builder.eq_of_argumentCount hn with hn | ⟨hn, -⟩
      · exact hn
      · exact absurd hn hzero
    rw [if_neg hzero, heightOf_cons (h.argument hb hops ht hv) (by omega), htaken, hcounted,
      Nat.add_sub_cancel_left]

/-- **The invariant is kept** by each token that may come. -/
theorem StackBalance.step (h : StackBalance b) (hs : Builder.Step functions b t b')
    (ht : t.isWhitespace = false → b.previous.Allows t) : StackBalance b' := by
  have hheight := h.height
  cases hs with
  | whitespace => exact h
  | operand ho =>
    have hallows := ht (Token.isWhitespace_of_isOperand ho)
    rw [if_neg (hallows.ne_value (Token.startsValue_of_isOperand ho)), Nat.add_zero] at hheight
    exact .of_value hheight (by cases t <;> rfl) h.counted
  | @infixOp symbol ops rest hv hb hops =>
    rw [hb, if_pos hv] at hheight
    -- The result of the operators released is the left operand of the new one.
    have hrelease := heightOf_release
      (fun p hp => Pending.isOperator_of_yieldsTo (hops p hp)) hheight
    refine .of_operator (.inl rfl) ?_ ?_
    · rw [hrelease, weightOf_cons, Nat.add_comm]
      rfl
    · intro c hc
      rcases List.mem_cons.mp hc with hc | hc
      · cases hc
      · exact h.counted_append hb hc
  | prefixOp =>
    rw [if_neg ((ht rfl).ne_value rfl)] at hheight
    refine .of_operator (.inr rfl) ?_ ?_
    · rw [hheight, weightOf_cons, Pending.weight, Nat.zero_add, Nat.add_zero]
    · intro c hc
      rcases List.mem_cons.mp hc with hc | hc
      · cases hc
      · exact h.counted c hc
  | parenOpen hv =>
    rw [if_neg hv] at hheight
    refine ⟨?_, ?_, by rintro ⟨⟩, fun _ => rfl, by rintro ⟨⟩, by rintro ⟨⟩⟩
    · rw [Builder.of_emitted, Builder.of_pending, hheight, weightOf_cons, Pending.weight,
        Nat.zero_add]
      rfl
    · intro c hc
      rcases List.mem_cons.mp hc with hc | hc
      · cases hc
      · exact h.counted c hc
  | callOpen hd =>
    rw [if_neg ((ht rfl).ne_value rfl)] at hheight
    refine ⟨?_, ?_, by rintro ⟨⟩, by rintro ⟨⟩, fun _ => ⟨_, rfl, rfl⟩, by rintro ⟨⟩⟩
    · rw [Builder.of_emitted, Builder.of_pending, hheight, weightOf_cons, Pending.weight]
      simp [OpenCall.start]
    · intro c hc
      rcases List.mem_cons.mp hc with hc | hc
      · cases hc
        exact Nat.le_refl 1
      · exact h.counted c hc
  | @separator _ ops rest c hb hops =>
    refine ⟨?_, ?_, by rintro ⟨⟩, by rintro ⟨⟩, by rintro ⟨⟩, fun _ => ⟨_, rfl⟩⟩
    · rw [Builder.of_emitted, h.argument hb hops (ht rfl) rfl]
      rfl
    · intro c' hc'
      rcases List.mem_cons.mp hc' with hc' | hc'
      · cases hc'
        exact Nat.le_add_left 1 c.count
      · exact h.counted_append hb (List.mem_cons_of_mem _ hc')
  | @closeParen _ ops rest hc hb hops =>
    have hallows := ht (Token.isWhitespace_of_isClose hc)
    -- An empty parenthesis is excluded, and above a parenthesis nothing is a call.
    rcases h.innermost hb hops hallows (Token.startsValue_of_isClose hc) with
      ⟨-, hvalue⟩ | ⟨hp, rfl, -⟩
    · refine .of_ends ?_ fun c hc => h.counted_append hb (List.mem_cons_of_mem _ hc)
      rw [hvalue, weightOf_cons, Pending.weight, Nat.zero_add]
    · rcases hp with hp | hp | hp
      · rw [hallows.parenOpen hp] at hc
        cases hc
      · obtain ⟨c, hhead, -⟩ := h.callOpen hp
        rw [hb] at hhead
        cases hhead
      · obtain ⟨c, hhead⟩ := h.separator hp
        rw [hb] at hhead
        cases hhead
  | @closeCall _ ops rest c n hc hb hops hn hfits =>
    have hallows := ht (Token.isWhitespace_of_isClose hc)
    have hcounted : ∀ c, .call c ∈ rest → 1 ≤ c.count := fun c hc =>
      h.counted_append hb (List.mem_cons_of_mem _ hc)
    refine .of_ends ?_ hcounted
    exact h.closeCall hb hops hallows (Token.startsValue_of_isClose hc) hn

/-- The same for a sequence of tokens. -/
theorem StackBalance.reads (h : StackBalance b) (hb : b.previous = .after before)
    (hs : Builder.Reads functions b ts b') (hl : LocallyWellFormed (before ++ ts)) :
    StackBalance b' ∧ b'.previous = .after (before ++ ts) := by
  -- By induction on the tokens; the invariant and what is remembered are carried along together.
  induction hs generalizing before with
  | nil =>
    rw [List.append_nil]
    exact ⟨h, hb⟩
  | @cons _ _ _ t ts hs _ ih =>
    have hnext := h.step hs fun ht => hb ▸ hl.allows ht
    rw [← List.singleton_append, ← List.append_assoc] at hl ⊢
    exact ih hnext (hs.previous_eq hb) hl

/-! ### The end of a formula -/

/-- Only white-space leaves the builder at its start. -/
theorem Builder.Reads.of_start (h : Reads functions b ts b') (hp : b'.previous = .start) :
    b.previous = .start ∧ significant ts = [] := by
  induction h with
  | nil => exact ⟨hp, rfl⟩
  | cons hs _ ih =>
    obtain ⟨hstart, hts⟩ := ih hp
    cases hs with
    | whitespace => exact ⟨hstart, hts⟩
    | _ => cases hstart

/-- An operator is not the last token. -/
theorem LocallyWellFormed.not_operator (h : LocallyWellFormed tokens) :
    ¬ (Previous.after tokens = .infixOp ∨ Previous.after tokens = .prefixOp) := by
  intro hp
  obtain ⟨before, a, hs, ha⟩ : ∃ before a, significant tokens = before ++ [a] ∧
      Previous.after tokens = .ofToken a :=
    Previous.exists_of_after (by rcases hp with hp | hp <;> simp [hp])
  rw [ha] at hp
  obtain ⟨_, _, heq, -⟩ := h.operator before a [] hs (Previous.ofToken_eq_operator hp)
  cases heq

/-- A formula ends with a value, if no bracket stands open. -/
theorem StackBalance.ends (h : StackBalance b) (hs : Builder.Reads functions .initial tokens b)
    (hb : b.previous = .after tokens) (hops : ∀ p ∈ b.pending, p.isOperator = true)
    (hl : LocallyWellFormed tokens) : b.previous = .value := by
  have hhead : ∀ p, b.pending.head? = some p → p.isOperator = true :=
    fun p hp => hops p (List.mem_of_head? hp)
  -- By what the last token was: all cases but one leave a bracket open, or are ruled out by its
  -- neighbours.
  cases hp : b.previous with
  | value => rfl
  | start => exact absurd (hs.of_start hp).2 hl.nonempty
  | infixOp => exact absurd (.inl (hb ▸ hp)) hl.not_operator
  | prefixOp => exact absurd (.inr (hb ▸ hp)) hl.not_operator
  | parenOpen => cases hhead _ (h.parenOpen hp)
  | callOpen =>
    obtain ⟨c, hc, -⟩ := h.callOpen hp
    cases hhead _ hc
  | separator =>
    obtain ⟨c, hc⟩ := h.separator hp
    cases hhead _ hc

/-- The program of a formula in which values and operators alternate leaves one value. -/
theorem Program.heightAfter_ofTokens {p : Program}
    (hp : Program.ofTokens functions tokens = .ok p) (hl : LocallyWellFormed tokens) :
    Item.heightAfter 0 p.items = some 1 := by
  obtain ⟨b, hs, hops, rfl⟩ := Program.ofTokens_eq_ok_iff.mp hp
  obtain ⟨hbalance, hb⟩ := stackBalance_initial.reads Previous.after_nil.symm hs hl
  have hheight := hbalance.height
  rw [if_pos (hbalance.ends hs hb hops hl), ← List.append_nil b.pending] at hheight
  exact heightOf_release hops hheight

/-- **No stack errors.**  A formula in which values and operators alternate can be evaluated
    without running out of values and without any left over, with all operators, functions and
    inputs. -/
theorem Evaluator.isStackError_ofTokens {operators : OperatorTable} {ev : Evaluator}
    {inputs : Inputs} {e : EvaluationError}
    (hev : ofTokens operators functions tokens = .ok ev) (hl : LocallyWellFormed tokens)
    (he : ev.evaluateToken inputs = .error e) : e.isStackError = false := by
  unfold ofTokens at hev
  cases hp : Program.ofTokens functions tokens with
  | error x =>
    rw [hp] at hev
    cases hev
  | ok p =>
    rw [hp] at hev
    cases hev
    exact isStackError_of_height (Program.heightAfter_ofTokens hp hl) he

/-- The formula `x +1`, without a value for `x`. -/
theorem Evaluator.isStackError_ofTokens_sum :
    ∃ ev, ofTokens .builtin .builtin [.range "x", .whitespace " ", .infixOp "+", .ofInt 1] =
      .ok ev ∧ ev.evaluateToken (fun _ => none) = .error (.missingInput "x") ∧
      (EvaluationError.missingInput "x").isStackError = false := by
  have hl : LocallyWellFormed [.range "x", .whitespace " ", .infixOp "+", .ofInt 1] := by
    have hs : significant [.range "x", .whitespace " ", .infixOp "+", .ofInt 1] =
        [.range "x", .infixOp "+", .ofInt 1] := rfl
    constructor
    · nofun
    · intro before a b after h ha
      rw [hs] at h
      rcases before with _ | ⟨_, _ | ⟨_, _ | ⟨_, before⟩⟩⟩
      · cases h
        rfl
      · cases h
        cases ha
      · cases h
      · simp at h
    · intro before a after h ha
      rw [hs] at h
      rcases before with _ | ⟨_, _ | ⟨_, _ | ⟨_, before⟩⟩⟩
      · cases h
        cases ha
      · cases h
        exact ⟨_, _, rfl, rfl⟩
      · cases h
        cases ha
      · simp at h
    · intro before b after h
      have hmem : Token.parenOpen ∈ [.range "x", .infixOp "+", .ofInt 1] := by
        rw [← hs, h]
        simp
      simp [Token.ofInt] at hmem
  have hev : ofTokens .builtin .builtin [.range "x", .whitespace " ", .infixOp "+", .ofInt 1] =
      .ok ⟨.ofItems [.load "x", .push (.ofInt 1), .infixOp "+"], .builtin, .builtin⟩ := rfl
  have he : evaluateToken ⟨.ofItems [.load "x", .push (.ofInt 1), .infixOp "+"], .builtin, .builtin⟩
      (fun _ => none) = .error (.missingInput "x") := rfl
  exact ⟨_, hev, he, isStackError_ofTokens hev hl he⟩

end SheetFormula
