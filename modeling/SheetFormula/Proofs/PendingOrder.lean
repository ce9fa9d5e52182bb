import Mathlib.Data.List.Chain
import SheetFormula.Proofs.ReadingBack

namespace SheetFormula

/-!
# The order of pending operators

An infix symbol passes on the operators on top, and stops at the first one that does not give way:
it never looks further down.  Prefix operators are held back on top of anything, also on top of `^`,
so the ranks of a segment need not ascend.  Still nothing is overlooked.

* `Pending.Dominates` — which operators have to be passed on before a symbol is held back.
* `Pending.RestsOn` — what an infix operator may stand on.  `Pending.RestsOn.not_dominates` is why
  the topmost operator answers for those below it.
* `Builder.Step.restsOn` — each token keeps what is held back in order, hence so does each sequence
  of tokens (`Builder.Reads.restsOn`).
* `Builder.read_keepsOrder` — the order of what is held back, and what a symbol leaves in its
  segment.
-/

/-! ### Ranks -/

/-- The highest rank has one symbol. -/
theorem Precedence.rank_eq_five_iff {s : String} : Precedence.rank s = 5 ↔ s = "^" := by
  constructor
  · intro h
    rcases Precedence.rank_cases s with ⟨hs, -⟩ | ⟨-, hs⟩
    · simpa [Precedence.groupsRight] using hs
    · omega
  · rintro rfl
    rfl

theorem Precedence.rank_power : Precedence.rank "^" = 5 := rfl

namespace Pending

variable {p upper lower : Pending} {ps : List Pending} {s : String} {r : Nat}

/-- No operator binds more tightly than `^`. -/
theorem rank_le_five (h : p.rank? = some r) : r ≤ 5 := by
  cases p with
  | infixOp s =>
    cases h
    rcases Precedence.rank_cases s with ⟨-, hs⟩ | ⟨-, hs⟩ <;> omega
  | prefixOp s =>
    cases h
    decide
  | paren | call c => cases h

/-- Has the operator to be passed on before the symbol is held back?  An operator of the same rank
    has, unless the symbol is the one that groups to the right. -/
def Dominates (symbol : String) (p : Pending) : Prop :=
  ∃ r, p.rank? = some r ∧
    if symbol = "^" then Precedence.rank symbol < r else Precedence.rank symbol ≤ r

/-- What is held back in order: an infix operator stands on an operator of lower rank, or on one of
    its own kind if it is `^`.  Anything may stand on an open parenthesis or call, and a prefix
    operator on anything. -/
def RestsOn (upper lower : Pending) : Prop :=
  ∀ s r, upper = .infixOp s → lower.rank? = some r →
    r < Precedence.rank s ∨ (s = "^" ∧ lower = .infixOp "^")

/-- Whatever is no infix operator may stand on anything. -/
theorem restsOn_of_ne (h : ∀ s, upper ≠ .infixOp s) : RestsOn upper lower :=
  fun s _ hs _ => absurd hs (h s)

/-- What the builder passes on before a symbol is what dominates it. -/
theorem yieldsTo_iff_dominates : p.yieldsTo s = true ↔ p.Dominates s := by
  simp only [yieldsTo, Option.any_eq_true, Precedence.bindsBefore, Precedence.groupsRight,
    beq_iff_eq, Dominates]
  refine exists_congr fun r => and_congr_right fun _ => ?_
  split <;> exact decide_eq_true_iff

/-- Nothing dominates `^`, which groups from the right. -/
theorem not_dominates_power : ¬ p.Dominates "^" := by
  rintro ⟨r, hp, hr⟩
  rw [if_pos rfl, Precedence.rank_power] at hr
  have hle := rank_le_five hp
  omega

/-- Every other symbol is dominated by what has at least its rank. -/
theorem dominates_iff (hs : s ≠ "^") (hp : p.rank? = some r) :
    p.Dominates s ↔ Precedence.rank s ≤ r := by
  simp [Dominates, hp, hs]

/-- An infix operator may stand where its symbol has stopped. -/
theorem restsOn_of_not_dominates (h : ¬ lower.Dominates s) : RestsOn (.infixOp s) lower := by
  rintro s r ⟨⟩ hr
  by_cases hs : s = "^"
  · -- Below `^` only another one is not of lower rank.
    subst hs
    rcases Nat.lt_or_eq_of_le (rank_le_five hr) with hlt | rfl
    · exact .inl (Precedence.rank_power ▸ hlt)
    · refine .inr ⟨rfl, ?_⟩
      cases lower with
      | infixOp s => rw [Precedence.rank_eq_five_iff.mp (Option.some.inj hr)]
      | prefixOp s => cases hr
      | paren | call c => cases hr
  · rw [dominates_iff hs hr] at h
    exact .inl (by omega)

/-- **One step down.**  If an operator does not dominate a symbol, neither does the operator it
    stands on. -/
theorem RestsOn.not_dominates (h : RestsOn upper lower) (hop : upper.isOperator = true)
    (hupper : ¬ upper.Dominates s) : ¬ lower.Dominates s := by
  by_cases hs : s = "^"
  · exact hs ▸ not_dominates_power
  have hle : Precedence.rank s ≤ 3 := by
    rcases Precedence.rank_cases s with ⟨-, hr⟩ | ⟨-, hr⟩
    · exact absurd (Precedence.rank_eq_five_iff.mp hr) hs
    · exact hr
  rintro ⟨r, hr, hlower⟩
  rw [if_neg hs] at hlower
  cases upper with
  | infixOp s' =>
    rw [dominates_iff hs rfl] at hupper
    rcases h s' r rfl hr with hlt | ⟨rfl, -⟩
    · omega
    · -- The upper operator would be `^`, which binds more tightly than the symbol.
      rw [Precedence.rank_power] at hupper
      omega
  | prefixOp s' =>
    -- Every symbol but `^` makes a prefix operator give way.
    rw [dominates_iff hs rfl, Precedence.prefixRank] at hupper
    omega
  | paren | call c => cases hop

/-- **The topmost operator answers for its segment.**  By induction on what is held back, one step
    down at a time. -/
theorem not_dominates_of_head (h : ps.IsChain RestsOn) (hhead : ∀ p ∈ ps.head?, ¬ p.Dominates s) :
    ∀ p ∈ ps.takeWhile isOperator, ¬ p.Dominates s := by
  -- By induction down the segment: what does not dominate rests on something that does not either.
  induction ps with
  | nil => simp
  | cons upper ps ih =>
    rw [List.isChain_cons] at h
    have hupper : ¬ upper.Dominates s := hhead upper rfl
    cases hop : upper.isOperator with
    | false => simp [hop]
    | true =>
      have hrest := ih h.2 fun lower hl => (h.1 lower hl).not_dominates hop hupper
      rw [List.takeWhile_cons_of_pos hop]
      exact List.forall_mem_cons.mpr ⟨hupper, hrest⟩

end Pending

namespace Builder

variable {functions : FunctionTable} {b b' : Builder} {t : Token} {ts : List Token}

/-- **One token.**  What a token passes on is the top of what is held back, and only an infix
    operator looks at what it is put on. -/
theorem Step.restsOn (h : Step functions b t b') (hb : b.pending.IsChain Pending.RestsOn) :
    b'.pending.IsChain Pending.RestsOn := by
  cases h with
  | whitespace | operand => exact hb
  | prefixOp | parenOpen | callOpen =>
    exact List.isChain_cons.mpr ⟨fun _ _ => Pending.restsOn_of_ne (by simp), hb⟩
  | infixOp _ hpending _ hrest =>
    rw [hpending] at hb
    refine List.isChain_cons.mpr ⟨fun lower hl => ?_, hb.right_of_append⟩
    apply Pending.restsOn_of_not_dominates
    rw [← Pending.yieldsTo_iff_dominates, hrest lower hl]
    exact Bool.false_ne_true
  | separator hpending =>
    -- The call on top is replaced by one that counts one more argument.
    rw [hpending] at hb
    have hcall := List.isChain_cons.mp hb.right_of_append
    exact List.isChain_cons.mpr ⟨fun _ _ => Pending.restsOn_of_ne (by simp), hcall.2⟩
  | closeParen _ hpending | closeCall _ hpending =>
    rw [hpending] at hb
    exact (List.isChain_cons.mp hb.right_of_append).2

/-- **All tokens.**  By induction on the tokens. -/
theorem Reads.restsOn (h : Reads functions b ts b') (hb : b.pending.IsChain Pending.RestsOn) :
    b'.pending.IsChain Pending.RestsOn := by
  induction h with
  | nil => exact hb
  | cons hs _ ih => exact ih (hs.restsOn hb)

/-- **What is held back is in order.**  In every state that tokens can lead to, whatever functions
    there are: an infix operator that stands directly on another operator, in any segment, has a
    higher rank than it, or both are `^`.  Operators are passed on from the top, so this holds as
    well of what is left while they are.

    Hence an infix symbol that stops at the topmost operator it does not take overlooks nothing:
    what it passes on dominates it, and of the operators of its segment that stay below it none
    does. -/
theorem read_keepsOrder (functions : FunctionTable) (tokens : List Token) (b : Builder)
    (h : initial.read functions 0 tokens = .ok b) :
    (∀ left, left <:+ b.pending → left.IsChain Pending.RestsOn) ∧
    ∀ symbol, ∃ passed rest, b.pending = passed ++ rest ∧
      (b.infixSymbol symbol).pending = .infixOp symbol :: rest ∧
      (∀ p ∈ passed, p.Dominates symbol) ∧
      ∀ p ∈ rest.takeWhile Pending.isOperator, ¬ p.Dominates symbol := by
  have hordered : b.pending.IsChain Pending.RestsOn :=
    (read_eq_ok_iff.mp h).restsOn List.isChain_nil
  refine ⟨fun left hleft => hordered.suffix hleft, fun symbol => ?_⟩
  obtain ⟨passed, rest, hb, hpassed, hrest, -, hpending⟩ :=
    b.exists_release (Pending.yieldsTo symbol)
  refine ⟨passed, rest, hb, congrArg _ hpending,
    fun p hp => Pending.yieldsTo_iff_dominates.mp (hpassed p hp), ?_⟩
  -- Only the first entry that stays is compared with the symbol; order takes care of those below.
  apply Pending.not_dominates_of_head (hordered.suffix ⟨passed, hb.symm⟩)
  intro p hp
  rw [← Pending.yieldsTo_iff_dominates, hrest p hp]
  exact Bool.false_ne_true

/-- A sign on top of a power, with another power on top of the sign, and a parenthesis below. -/
def signedPower : List Token :=
  [.ofInt 1, .infixOp "+", .parenOpen, .ofInt 2, .infixOp "^", .prefixOp "-", .ofInt 3,
    .infixOp "^", .ofInt 4]

/-- What is held back after `signedPower`. -/
def afterSignedPower : Builder :=
  .of [.push (.ofInt 4), .push (.ofInt 3), .push (.ofInt 2), .push (.ofInt 1)]
    [.infixOp "^", .prefixOp "-", .infixOp "^", .paren, .infixOp "+"] .value

/-- The symbol `+` takes three operators.  The `+` below the parenthesis is not in its segment. -/
theorem read_keepsOrder_signedPower :
    initial.read .empty 0 signedPower = .ok afterSignedPower ∧
    (∀ left, left <:+ afterSignedPower.pending → left.IsChain Pending.RestsOn) ∧
    ∃ passed rest, afterSignedPower.pending = passed ++ rest ∧
      (afterSignedPower.infixSymbol "+").pending = .infixOp "+" :: rest ∧
      (∀ p ∈ passed, p.Dominates "+") ∧
      ∀ p ∈ rest.takeWhile Pending.isOperator, ¬ p.Dominates "+" :=
  have h := read_keepsOrder .empty signedPower afterSignedPower rfl
  ⟨rfl, h.1, h.2 "+"⟩

end Builder

end SheetFormula
