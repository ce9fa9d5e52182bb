import SheetFormula.Proofs.OperandSequence

namespace SheetFormula

/-!
# Programs keep what the tokens say

When a program is built from tokens, nothing is lost, nothing is made up, and operands stay in
their order, whether or not the formula makes sense.

* `Brackets.closed` — the brackets of a formula in the order in which they are closed.
* `Program.Conserves` — what a program keeps of the tokens it is built from, one field for each
  kind of item.
* `Builder.Step.operandItems`, `Builder.Step.callNames` and `Builder.Step.operationCount` — what
  one token adds.
* `Program.ofTokens_conserves` — hence each program keeps what its tokens say.
-/

/-! ### Items and tokens -/

/-- Is the token an operator, or does it open a call? -/
def Token.isOperation : Token → Bool
  | infixOp _ | prefixOp _ | callOpen _ => true
  | _ => false

/-- The name of the function that a token calls. -/
def Token.callName? : Token → Option String
  | callOpen name => some name
  | _ => none

namespace Item

/-- Does the item push an operand or an input? -/
def isOperand : Item → Bool
  | push _ | load _ => true
  | _ => false

/-- The token that an operator or a call comes from. -/
def operation? : Item → Option Token
  | infixOp symbol => some (.infixOp symbol)
  | prefixOp symbol => some (.prefixOp symbol)
  | call name _ => some (.callOpen name)
  | push _ | load _ => none

/-- The name of the function that an item calls. -/
def callName? : Item → Option String
  | call name _ => some name
  | _ => none

end Item

namespace Pending

/-- The token that an operator or a call comes from. -/
def operation? : Pending → Option Token
  | infixOp symbol => some (.infixOp symbol)
  | prefixOp symbol => some (.prefixOp symbol)
  | call c => some (.callOpen c.name)
  | paren => none

/-- The token that opened a bracket. -/
def opening? : Pending → Option Token
  | call c => some (.callOpen c.name)
  | paren => some .parenOpen
  | infixOp _ | prefixOp _ => none

end Pending

variable {functions : FunctionTable} {t u : Token} {ts tokens : List Token} {last : Option Token}

/-! ### Brackets in the order of their closing -/

namespace Brackets

/-- The opening tokens of the brackets that are closed, in the order of the closing tokens.
    The brackets that are open before are given, the innermost one first. -/
def closedFrom (opened : List Token) : List Token → List Token
  | [] => []
  | t :: ts =>
    if t.isOpen then closedFrom (t :: opened) ts
    else if t.isClose then opened.head?.toList ++ closedFrom opened.tail ts
    else closedFrom opened ts

/-- **The brackets of a formula**, each as its opening token, in the order of the closing
    tokens. -/
def closed (tokens : List Token) : List Token := closedFrom [] tokens

end Brackets

/-! ### What a program keeps -/

/-- The item for an operand, or for the mark of an argument that is left out. -/
def Item.ofPlace (place : Option Token) : Item := .ofOperand (place.getD .omitted)

/-- **Nothing is lost, added or moved** on the way from tokens to a program. -/
structure Program.Conserves (functions : FunctionTable) (tokens : List Token) (p : Program) :
    Prop where
  /-- The operands stand in their order, with a mark in each gap. -/
  operandItems : p.items.filter Item.isOperand =
    (operandSequence functions tokens).map Item.ofPlace
  /-- Without the marks, they are the operands of the tokens. -/
  operands : (operandSequence functions tokens).filterMap id = tokens.filter Token.isOperand
  /-- There are as many marks as arguments that are left out. -/
  marks : (operandSequence functions tokens).count none = omittedArguments functions tokens
  /-- Each operator occurs as often as its token. -/
  infixOps : ∀ symbol, p.items.count (.infixOp symbol) = tokens.count (.infixOp symbol)
  prefixOps : ∀ symbol, p.items.count (.prefixOp symbol) = tokens.count (.prefixOp symbol)
  /-- Each function is called as often as calls of it are opened. -/
  calls : ∀ name, (p.items.filterMap Item.callName?).count name = tokens.count (.callOpen name)
  /-- The calls stand in the order of their closing tokens. -/
  callOrder : p.items.filterMap Item.callName? =
    (Brackets.closed tokens).filterMap Token.callName?
  /-- The inputs that are required are the ranges, each once and in ascending order. -/
  requiredInputs : ∀ name, name ∈ p.requiredInputs ↔ .range name ∈ tokens
  ascending : p.requiredInputs.Pairwise fun a b => compare a b = .lt

namespace Builder

variable {b b' : Builder} {ops rest : List Pending}

/-! ### One token: operands -/

/-- The operands among the items passed on, in their order. -/
def operandItems (b : Builder) : List Item := (b.emitted.filter Item.isOperand).reverse

/-- What is passed on from what is held back are no operands. -/
theorem filter_isOperand_items : (Pending.items ops).filter Item.isOperand = [] := by
  rw [List.filter_eq_nil_iff]
  intro i hi
  rcases Pending.eq_of_mem_items hi with ⟨s, rfl⟩ | ⟨s, rfl⟩ <;> exact Bool.false_ne_true

/-- The mark for an argument that is left out counts as an operand. -/
theorem filter_isOperand_marker (p : Previous) : p.marker.filter Item.isOperand = p.marker := by
  unfold Previous.marker
  split <;> rfl

/-- There is at most one mark, so its order does not matter. -/
theorem marker_reverse (p : Previous) : p.marker.reverse = p.marker := by
  unfold Previous.marker
  split <;> rfl

/-- What the last token tells of the state after it. -/
structure Follows (functions : FunctionTable) (last : Option Token) (b : Builder) : Prop where
  previous : b.previous = (last.map Previous.ofToken).getD .start
  /-- A call that was just opened is on top. -/
  callOpen : ∀ name, last = some (.callOpen name) →
    ∃ d rest, functions.get? name = some d ∧ b.pending = .call (.start name d) :: rest
  /-- After a separator a call is on top, and has an argument at least. -/
  separator : ∀ s, last = some (.separator s) →
    ∃ c rest, b.pending = .call c :: rest ∧ c.count ≠ 0

/-- Before the first token nothing precedes, and nothing is held back. -/
theorem follows_initial : Follows functions none .initial := ⟨rfl, nofun, nofun⟩

/-- Each token that is read determines what follows it. -/
theorem Step.follows (h : Step functions b t b') (ht : t.isWhitespace = false) :
    Follows functions (some t) b' := by
  have hclose : ∀ {t : Token} {b' : Builder}, t.isClose = true → b'.previous = .value →
      Follows functions (some t) b' := by
    intro t b' ht hv
    refine ⟨?_, ?_, ?_⟩
    · rw [hv]
      cases t <;> first | rfl | cases ht
    · rintro name ⟨⟩
      cases ht
    · rintro s ⟨⟩
      cases ht
  -- Only an opening token and a separator leave a call on top.
  cases h with
  | whitespace => cases ht
  | operand ho =>
    refine ⟨?_, ?_, ?_⟩
    · cases t <;> first | rfl | cases ho
    · rintro name ⟨⟩
      cases ho
    · rintro s ⟨⟩
      cases ho
  | infixOp | prefixOp | parenOpen => exact ⟨rfl, nofun, nofun⟩
  | callOpen hd =>
    refine ⟨rfl, ?_, nofun⟩
    rintro name ⟨⟩
    exact ⟨_, _, hd, rfl⟩
  | separator => exact ⟨rfl, nofun, fun _ _ => ⟨_, _, rfl, Nat.succ_ne_zero _⟩⟩
  | closeParen hc | closeCall hc => exact hclose hc rfl

/-- After a token that leaves a gap, a call is on top. -/
theorem Follows.exists_call (h : Follows functions last b)
    (hp : b.previous = .callOpen ∨ b.previous = .separator) :
    ∃ c rest, b.pending = .call c :: rest := by
  -- What is remembered tells the last token, and this token what it has left on top.
  rw [h.previous] at hp
  cases last with
  | none => rcases hp with hp | hp <;> cases hp
  | some l =>
    cases l with
    | callOpen name =>
      obtain ⟨d, rest, -, hb⟩ := h.callOpen name rfl
      exact ⟨_, rest, hb⟩
    | separator s =>
      obtain ⟨c, rest, hb, -⟩ := h.separator s rfl
      exact ⟨c, rest, hb⟩
    | _ => rcases hp with hp | hp <;> cases hp

/-- A separator leaves a gap where the builder marks one. -/
theorem Follows.gap_separator (h : Follows functions last b) (s : String) :
    (gap functions last (.separator s)).map Item.ofPlace = b.previous.marker := by
  rw [h.previous]
  cases last with
  | none => rfl
  | some l => cases l <;> rfl

/-- No gap is left before a token that closes a parenthesis. -/
theorem Follows.gap_closeParen (h : Follows functions last b)
    (hb : b.pending = ops ++ .paren :: rest) (hops : ∀ p ∈ ops, p.isOperator = true) :
    gap functions last t = [] := by
  -- A gap would need a call on top, and it is a parenthesis that is closed.
  have hnot : ¬ (b.previous = .callOpen ∨ b.previous = .separator) := by
    intro hp
    obtain ⟨c, rest', hcall⟩ := h.exists_call hp
    rw [hb] at hcall
    cases ops with
    | nil => cases hcall
    | cons p ops =>
      cases (List.cons.inj hcall).1
      cases hops _ List.mem_cons_self
  rw [h.previous] at hnot
  cases last with
  | none => rfl
  | some l =>
    cases l with
    | callOpen name => exact absurd (.inl rfl) hnot
    | separator s => exact absurd (.inr rfl) hnot
    | _ => rfl

/-- An empty call has no argument exactly if its function takes none. -/
theorem argumentCount_start {name : String} {d : FunctionDef} {n : Nat}
    (hd : functions.get? name = some d) (hn : argumentCount .callOpen (.start name d) = .ok n) :
    functions.takesNone name = decide (n = 0) := by
  have htakes : functions.takesNone name = d.arity.all (· = 0) := by
    rw [FunctionTable.takesNone, hd, Option.any_some]
  rw [htakes]
  cases harity : d.arity with
  | none =>
    simp only [argumentCount, OpenCall.start, harity] at hn
    cases hn
    rfl
  | some k =>
    cases k with
    | zero =>
      simp only [argumentCount, OpenCall.start, harity] at hn
      cases hn
      rfl
    | succ k =>
      -- A function with slots takes an empty call as one argument, if it takes it at all.
      cases hfirst : d.firstRequired with
      | true => simp [argumentCount, OpenCall.start, harity, hfirst] at hn
      | false =>
        simp [argumentCount, OpenCall.start, harity, hfirst] at hn
        simp [← hn]

/-- A token that closes a call leaves a gap where the builder marks one. -/
theorem Follows.gap_closeCall (h : Follows functions last b) {c : OpenCall} {n : Nat}
    (hb : b.pending = ops ++ .call c :: rest) (hops : ∀ p ∈ ops, p.isOperator = true)
    (ht : t.isClose = true) (hn : argumentCount b.previous c = .ok n) :
    (gap functions last t).map Item.ofPlace = if n = 0 then [] else b.previous.marker := by
  -- A call on top of what is held back is the one that is closed.
  have htop : ∀ {c' : OpenCall} {rest' : List Pending}, b.pending = .call c' :: rest' → c' = c := by
    intro c' rest' hcall
    rw [hb] at hcall
    cases ops with
    | nil =>
      cases hcall
      rfl
    | cons p ops =>
      cases (List.cons.inj hcall).1
      cases hops _ List.mem_cons_self
  have hprevious := h.previous
  cases last with
  | none =>
    rw [hprevious]
    exact (ite_self _).symm
  | some l =>
    cases l with
    | callOpen name =>
      obtain ⟨d, rest', hd, hcall⟩ := h.callOpen name rfl
      cases htop hcall
      rw [hprevious] at hn ⊢
      have hgap : leavesOut functions (.callOpen name) t = !decide (n = 0) := by
        rw [leavesOut, Token.isSeparator_of_isClose ht, ht, argumentCount_start hd hn]
        rfl
      rw [gap, Option.any_some, hgap]
      by_cases hzero : n = 0
      · simp [hzero]
      · simp [hzero, Previous.marker, Previous.ofToken, Item.ofPlace, Item.ofOperand]
    | separator s =>
      obtain ⟨c', rest', hcall, hcount⟩ := h.separator s rfl
      cases htop hcall
      rw [hprevious] at hn ⊢
      cases hn
      have hgap : leavesOut functions (.separator s) t = true := by
        rw [leavesOut, ht, Bool.or_true]
      rw [gap, Option.any_some, if_pos hgap, if_neg hcount]
      rfl
    | _ =>
      rw [hprevious]
      exact (ite_self _).symm

/-- **Operands.** Each token adds the gap before it and itself, if it is an operand. -/
theorem Step.operandItems (h : Step functions b t b') (hl : Follows functions last b)
    (ht : t.isWhitespace = false) :
    b'.operandItems = b.operandItems ++ (gap functions last t ++ ownPlace t).map Item.ofPlace := by
  unfold Builder.operandItems
  cases h with
  | whitespace => cases ht
  | operand ho =>
    have hgap : gap functions last t = [] := by
      apply gap_eq_nil <;> cases t <;> first | rfl | cases ho
    have hitem : (Item.ofOperand t).isOperand = true := by cases t <;> rfl
    rw [hgap, ownPlace, if_pos ho, of_emitted, List.filter_cons_of_pos hitem, List.reverse_cons]
    rfl
  | infixOp =>
    rw [gap_eq_nil rfl rfl, of_emitted, List.filter_append, filter_isOperand_items]
    simp [ownPlace, Token.isOperand]
  | prefixOp | parenOpen | callOpen =>
    rw [gap_eq_nil rfl rfl]
    simp [ownPlace, Token.isOperand]
  -- The mark of a gap is passed on where the tokens have the gap.
  | separator =>
    rw [of_emitted, List.filter_append, List.filter_append, filter_isOperand_items,
      filter_isOperand_marker, List.map_append, hl.gap_separator, List.nil_append,
      List.reverse_append, marker_reverse]
    simp [ownPlace, Token.isOperand]
  | closeParen hc hb hops =>
    rw [hl.gap_closeParen hb hops, of_emitted, List.filter_append, filter_isOperand_items,
      ownPlace_of_isClose hc]
    simp
  -- An empty call leaves out nothing if its function takes no argument, and then there is no mark.
  | @closeCall _ _ _ c n hc hb hops hn =>
    have hcall : (Item.call c.name n).isOperand = false := rfl
    rw [List.map_append, hl.gap_closeCall hb hops hc hn, ownPlace_of_isClose hc,
      of_emitted, List.filter_cons_of_neg (Bool.eq_false_iff.mp hcall), List.filter_append,
      List.filter_append, filter_isOperand_items, List.nil_append, List.reverse_append]
    split
    · simp
    · simp [filter_isOperand_marker, marker_reverse]

/-! ### One token: calls -/

/-- The names of the functions among the items passed on, in their order. -/
def callNames (b : Builder) : List String := (b.emitted.filterMap Item.callName?).reverse

/-- The opening tokens of the brackets that are held back, the innermost one first. -/
def opened (b : Builder) : List Token := b.pending.filterMap Pending.opening?

/-- No call is among the operators that are passed on. -/
theorem filterMap_callName_items : (Pending.items ops).filterMap Item.callName? = [] := by
  rw [List.filterMap_eq_nil_iff]
  intro i hi
  rcases Pending.eq_of_mem_items hi with ⟨s, rfl⟩ | ⟨s, rfl⟩ <;> rfl

theorem filterMap_marker {α : Type} {f : Item → Option α} (hf : f (.push .omitted) = none)
    (p : Previous) : p.marker.filterMap f = [] := by
  unfold Previous.marker
  split
  · exact List.filterMap_cons_none hf
  · rfl

theorem filterMap_marks {α : Type} {f : Item → Option α} (hf : f (.push .omitted) = none)
    (n : Nat) (p : Previous) : (if n = 0 then [] else p.marker).filterMap f = [] := by
  split
  · rfl
  · exact filterMap_marker hf p

/-- Operators are no brackets. -/
theorem opening_append (hops : ∀ p ∈ ops, p.isOperator = true) :
    (ops ++ rest).filterMap Pending.opening? = rest.filterMap Pending.opening? := by
  have hnil : ops.filterMap Pending.opening? = [] := by
    rw [List.filterMap_eq_nil_iff]
    intro p hp
    have := hops p hp
    cases p <;> first | rfl | cases this
  rw [List.filterMap_append, hnil, List.nil_append]

/-- **Calls.** The calls that are closed from here on are one that the token closes, and those
    that are closed after it. -/
theorem Step.callNames (h : Step functions b t b') :
    b.callNames ++ (Brackets.closedFrom b.opened (t :: ts)).filterMap Token.callName? =
      b'.callNames ++ (Brackets.closedFrom b'.opened ts).filterMap Token.callName? := by
  -- Calls that have been passed on, and those still to be closed, are the same before and after.
  unfold Builder.callNames Builder.opened
  cases h with
  | whitespace => rfl
  | operand ho =>
    have hplain : t.isOpen = false ∧ t.isClose = false := by
      cases t <;> first | exact ⟨rfl, rfl⟩ | cases ho
    have hitem : (Item.ofOperand t).callName? = none := by cases t <;> rfl
    simp [Brackets.closedFrom, hplain, hitem]
  | infixOp hv hb hops =>
    rw [hb, opening_append fun p hp => Pending.isOperator_of_yieldsTo (hops p hp)]
    simp [Brackets.closedFrom, Token.isOpen, Token.isClose, filterMap_callName_items,
      List.filterMap_cons, Pending.opening?]
  | prefixOp | parenOpen | callOpen =>
    simp [Brackets.closedFrom, Token.isOpen, Token.isClose, List.filterMap_cons, Pending.opening?]
  | separator hb hops =>
    have hmarker := filterMap_marker (f := Item.callName?) rfl b.previous
    rw [hb, opening_append hops]
    simp [Brackets.closedFrom, Token.isOpen, Token.isClose, filterMap_callName_items, hmarker,
      Pending.opening?]
  | closeParen hc hb hops =>
    rw [hb, opening_append hops]
    simp [Brackets.closedFrom, Token.isOpen_of_isClose hc, hc, filterMap_callName_items,
      List.filterMap_cons, Pending.opening?, Token.callName?]
  | @closeCall _ _ _ c n hc hb hops =>
    have hmarks := filterMap_marks (f := Item.callName?) rfl n b.previous
    rw [hb, opening_append hops]
    simp [Brackets.closedFrom, Token.isOpen_of_isClose hc, hc, filterMap_callName_items,
      Pending.opening?, Token.callName?, Item.callName?, hmarks]

/-! ### One token: operators and calls -/

/-- How often a token occurs among the operators and calls, passed on or held back. -/
def operationCount (b : Builder) (u : Token) : Nat :=
  (b.emitted.filterMap Item.operation?).count u + (b.pending.filterMap Pending.operation?).count u

/-- Operators stay what they are when they are passed on. -/
theorem operation_items (hops : ∀ p ∈ ops, p.isOperator = true) :
    (Pending.items ops).filterMap Item.operation? =
      (ops.filterMap Pending.operation?).reverse := by
  -- What is held back first is passed on last, so the induction takes the top to the end.
  induction ops with
  | nil => rfl
  | cons p ops ih =>
    have hitems : Pending.items (p :: ops) = Pending.items ops ++ Pending.items [p] :=
      Pending.items_append [p] ops
    rw [hitems, List.filterMap_append, ih fun q hq => hops q (List.mem_cons_of_mem p hq)]
    have hp := hops p List.mem_cons_self
    cases p with
    | infixOp s | prefixOp s => simp [Pending.items, Pending.item?, Item.operation?,
        Pending.operation?]
    | paren | call c => cases hp

/-- Passing on operators does not change how often a token occurs. -/
theorem count_release (hops : ∀ p ∈ ops, p.isOperator = true) (u : Token) (is : List Item)
    (rest : List Pending) :
    ((Pending.items ops ++ is).filterMap Item.operation?).count u +
        (rest.filterMap Pending.operation?).count u =
      (is.filterMap Item.operation?).count u +
        ((ops ++ rest).filterMap Pending.operation?).count u := by
  rw [List.filterMap_append, List.filterMap_append, operation_items hops, List.count_append,
    List.count_append, List.count_reverse]
  omega

/-- **Operators and calls.** Each token that is one is added, and nothing else. -/
theorem Step.operationCount (h : Step functions b t b') (hu : u.isOperation = true) :
    b'.operationCount u = b.operationCount u + [t].count u := by
  -- Tokens that are no operations do not count, and the others are held back or passed on once.
  have hother : ∀ {t : Token}, t.isOperation = false → [t].count u = 0 := by
    intro t ht
    rw [List.count_eq_zero, List.mem_singleton]
    rintro rfl
    rw [hu] at ht
    cases ht
  cases h with
  | whitespace =>
    rw [hother rfl]
    rfl
  | operand ho =>
    have hop : t.isOperation = false := by cases t <;> first | rfl | cases ho
    have hitem : (Item.ofOperand t).operation? = none := by cases t <;> rfl
    simp only [Builder.operationCount, of_emitted, of_pending]
    rw [hother hop, List.filterMap_cons_none hitem]
    rfl
  | @infixOp symbol ops rest hv hb hops =>
    have hrelease := count_release (fun p hp => Pending.isOperator_of_yieldsTo (hops p hp))
      u b.emitted rest
    have hpush : (Pending.infixOp symbol).operation? = some (.infixOp symbol) := rfl
    simp only [Builder.operationCount, of_emitted, of_pending]
    rw [hb, ← hrelease, List.filterMap_cons_some hpush, List.count_cons, List.count_singleton]
    omega
  | @prefixOp symbol =>
    have hpush : (Pending.prefixOp symbol).operation? = some (.prefixOp symbol) := rfl
    simp only [Builder.operationCount, of_emitted, of_pending]
    rw [List.filterMap_cons_some hpush, List.count_cons, List.count_singleton]
    omega
  | parenOpen =>
    rw [hother rfl]
    rfl
  | @callOpen name d =>
    have hpush : (Pending.call (.start name d)).operation? = some (.callOpen name) := rfl
    simp only [Builder.operationCount, of_emitted, of_pending]
    rw [List.filterMap_cons_some hpush, List.count_cons, List.count_singleton]
    omega
  | @separator _ ops rest c hb hops =>
    have hrelease := count_release hops u b.emitted (.call c :: rest)
    simp only [Builder.operationCount, of_emitted, of_pending]
    rw [hother rfl, hb, ← hrelease, List.filterMap_append, filterMap_marker rfl]
    rfl
  | @closeParen _ ops rest hc hb hops =>
    have hop : t.isOperation = false := by cases t <;> first | rfl | cases hc
    have hrelease := count_release hops u b.emitted (.paren :: rest)
    simp only [Builder.operationCount, of_emitted, of_pending]
    rw [hother hop, hb, ← hrelease]
    rfl
  -- The call leaves what is held back and joins what is passed on.
  | @closeCall _ ops rest c n hc hb hops =>
    have hop : t.isOperation = false := by cases t <;> first | rfl | cases hc
    have hmarks := filterMap_marks (f := Item.operation?) rfl n b.previous
    have hrelease := count_release hops u b.emitted (.call c :: rest)
    have hheld : (Pending.call c).operation? = some (.callOpen c.name) := rfl
    have hpassed : (Item.call c.name n).operation? = some (.callOpen c.name) := rfl
    simp only [Builder.operationCount, of_emitted, of_pending]
    rw [hother hop, hb, ← hrelease, List.filterMap_cons_some hheld,
      List.filterMap_cons_some hpassed, List.filterMap_append, hmarks, List.count_cons,
      List.count_cons, List.nil_append]
    omega

/-! ### A sequence of tokens -/

theorem Step.eq_of_whitespace (h : Step functions b t b') (ht : t.isWhitespace = true) :
    b' = b := by
  refine (step_whitespace_iff ?_).mp h
  cases t <;> first | rfl | cases ht

/-- **Operands of a sequence.**  Each token adds its own, in the order in which they are read. -/
theorem Reads.operandItems (h : Reads functions b ts b') (hl : Follows functions last b) :
    b'.operandItems =
      b.operandItems ++ (operandsAfter functions last (significant ts)).map Item.ofPlace := by
  -- The last token that is not white-space is carried along, since a gap lies between two tokens.
  induction h generalizing last with
  | nil => simp [significant, operandsAfter]
  | @cons b c b' t ts hs _ ih =>
    cases ht : t.isWhitespace with
    | true =>
      obtain rfl := hs.eq_of_whitespace ht
      rw [significant_whitespace ht]
      exact ih hl
    | false =>
      rw [significant_cons ht, operandsAfter, List.map_append, ← List.append_assoc,
        ← hs.operandItems hl ht]
      exact ih (hs.follows ht)

/-- **Calls of a sequence.**  They are passed on in the order in which they are closed. -/
theorem Reads.callNames (h : Reads functions b ts b') :
    b'.callNames =
      b.callNames ++ (Brackets.closedFrom b.opened ts).filterMap Token.callName? := by
  induction h with
  | nil => simp [Brackets.closedFrom]
  | cons hs _ ih => rw [hs.callNames, ih]

/-- **Operators and calls of a sequence.**  None is lost, and none is counted twice. -/
theorem Reads.operationCount (h : Reads functions b ts b') (hu : u.isOperation = true) :
    b'.operationCount u = b.operationCount u + ts.count u := by
  induction h with
  | nil => rfl
  | @cons b c b' t ts hs _ ih =>
    have hcount : (t :: ts).count u = [t].count u + ts.count u := by
      rw [← List.count_append, List.singleton_append]
    rw [ih, hs.operationCount hu, hcount, Nat.add_assoc]

end Builder

/-! ### The program of a formula -/

namespace Program

variable {p : Program} (hp : ofTokens functions tokens = .ok p)
include hp

/-- The operands of a program are those of its tokens, with a mark in each gap. -/
theorem filter_isOperand_ofTokens :
    p.items.filter Item.isOperand = (operandSequence functions tokens).map Item.ofPlace := by
  obtain ⟨b, hs, -, rfl⟩ := ofTokens_eq_ok_iff.mp hp
  -- What is held back at the end are operators.
  rw [ofItems_items, List.filter_reverse, List.filter_append, Builder.filter_isOperand_items]
  exact hs.operandItems Builder.follows_initial

/-- The calls of a program stand in the order of their closing tokens. -/
theorem filterMap_callName_ofTokens :
    p.items.filterMap Item.callName? =
      (Brackets.closed tokens).filterMap Token.callName? := by
  obtain ⟨b, hs, -, rfl⟩ := ofTokens_eq_ok_iff.mp hp
  rw [ofItems_items, List.filterMap_reverse, List.filterMap_append,
    Builder.filterMap_callName_items]
  exact hs.callNames

/-- An operator or call occurs in a program as often as among its tokens. -/
theorem count_operation_ofTokens (hu : u.isOperation = true) :
    (p.items.filterMap Item.operation?).count u = tokens.count u := by
  obtain ⟨b, hs, hops, rfl⟩ := ofTokens_eq_ok_iff.mp hp
  have hcount : b.operationCount u = tokens.count u := by
    rw [hs.operationCount hu]
    exact Nat.zero_add _
  rw [← hcount, Builder.operationCount, ofItems_items, List.filterMap_reverse, List.count_reverse,
    List.filterMap_append, Builder.operation_items hops, List.count_append, List.count_reverse,
    Nat.add_comm]

/-- Each operator and each call comes from a token, and each of these tokens is kept. -/
theorem exists_operation_iff (hu : u.isOperation = true) :
    (∃ i ∈ p.items, i.operation? = some u) ↔ u ∈ tokens := by
  rw [← List.mem_filterMap, ← List.count_pos_iff, count_operation_ofTokens hp hu,
    List.count_pos_iff]

/-- The inputs that are read are the ranges. -/
theorem load_mem_iff {name : String} : .load name ∈ p.items ↔ .range name ∈ tokens := by
  -- Loads are among the operands, which stand in the order of the tokens.
  have hload : .load name ∈ p.items ↔ .load name ∈ p.items.filter Item.isOperand := by
    simp [Item.isOperand]
  have hrange : .range name ∈ tokens ↔
      some (.range name) ∈ operandSequence functions tokens := by
    have hmem : .range name ∈ tokens ↔ .range name ∈ tokens.filter Token.isOperand := by
      simp [Token.isOperand]
    rw [hmem, ← operandSequence_operands functions, List.mem_filterMap]
    simp
  rw [hload, hrange, filter_isOperand_ofTokens hp, List.mem_map]
  constructor
  · rintro ⟨place, hmem, hplace⟩
    cases place with
    | none => cases hplace
    | some t =>
      cases t <;> cases hplace
      exact hmem
  · exact fun h => ⟨_, h, rfl⟩

/-- The operands that are pushed are tokens, or marks for arguments that are left out. -/
theorem eq_omitted_or_mem_of_push {t : Token} (h : .push t ∈ p.items) :
    t = .omitted ∨ t ∈ tokens.filter Token.isOperand ∧ t.isRange = false := by
  have hmem : .push t ∈ p.items.filter Item.isOperand := List.mem_filter.mpr ⟨h, rfl⟩
  rw [filter_isOperand_ofTokens hp] at hmem
  obtain ⟨place, hplace, heq⟩ := List.mem_map.mp hmem
  -- A place of the sequence is a gap or a token.
  cases place with
  | none =>
    cases heq
    exact .inl rfl
  | some u =>
    have hu : u ∈ tokens.filter Token.isOperand := by
      rw [← operandSequence_operands functions]
      exact List.mem_filterMap.mpr ⟨some u, hplace, rfl⟩
    cases u <;> cases heq <;> exact .inr ⟨hu, rfl⟩

/-- **Nothing is lost, added or moved** when a program is built. -/
theorem ofTokens_conserves : Conserves functions tokens p where
  operandItems := filter_isOperand_ofTokens hp
  operands := operandSequence_operands functions tokens
  marks := operandSequence_gaps functions tokens
  -- Operators and calls are counted together, as operations, and told apart afterwards.
  infixOps symbol := by
    rw [← count_operation_ofTokens hp (u := .infixOp symbol) rfl, List.count_filterMap]
    refine List.countP_congr fun i _ => ?_
    cases i <;> simp [Item.operation?]
  prefixOps symbol := by
    rw [← count_operation_ofTokens hp (u := .prefixOp symbol) rfl, List.count_filterMap]
    refine List.countP_congr fun i _ => ?_
    cases i <;> simp [Item.operation?]
  calls name := by
    rw [← count_operation_ofTokens hp (u := .callOpen name) rfl, List.count_filterMap,
      List.count_filterMap]
    refine List.countP_congr fun i _ => ?_
    cases i <;> simp [Item.operation?, Item.callName?]
  callOrder := filterMap_callName_ofTokens hp
  requiredInputs name := by rw [mem_requiredInputs, load_mem_iff hp]
  ascending := p.requiredInputs_ascending

end Program

/-! ### An argument left out -/

namespace ConservationExample

/-- The formula `LEFT(x, ) & -(y + 1)`. -/
def leftTokens : List Token :=
  [.callOpen "LEFT(", .range "x", .separator ",", .whitespace " ", .callClose, .infixOp "&",
    .prefixOp "-", .parenOpen, .range "y", .infixOp "+", .ofInt 1, .parenClose]

/-- Its program. -/
def leftProgram : Program :=
  .ofItems [.load "x", .push .omitted, .call "LEFT(" 2, .load "y", .push (.ofInt 1), .infixOp "+",
    .prefixOp "-", .infixOp "&"]

end ConservationExample

open ConservationExample in
/-- An argument that is left out, and operators that are held back over a parenthesis. -/
theorem Program.ofTokens_conserves_left :
    Program.ofTokens .builtin leftTokens = .ok leftProgram ∧
      leftProgram.Conserves .builtin leftTokens := by
  have hp : Program.ofTokens .builtin leftTokens = .ok leftProgram := rfl
  exact ⟨hp, ofTokens_conserves hp⟩

end SheetFormula
